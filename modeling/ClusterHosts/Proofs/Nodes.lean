import ClusterHosts.Api.Listing
import ClusterHosts.Proofs.Attributes
import ClusterHosts.Proofs.Contact
import ClusterHosts.Search
import ClusterHosts.Value
import Mathlib.Data.List.Forall2

/-! # Nodes that are decoded

Objects that a server lists are in canonical form, and each one is decoded as a node or refused. -/

namespace ClusterHosts

/-! ## Canonical JSON and the objects of lists

A canonical value has the members of each object in the order of their names, at every depth, so
that no object has two members of one name. Answers of servers are canonical, and the objects of
their pages differ from what the answers hold only in the metadata
(`Listing.isListed_of_fetchPage`).
-/

section

namespace Ordered

/-- No entry after another has its name. -/
theorem lookup_tail_eq_none {β : Type} {name : String} {value : β} {entries : List (String × β)}
    (increasing : Increasing Prod.fst ((name, value) :: entries)) : entries.lookup name = none := by
  rw [List.lookup_eq_none_iff]
  intro entry member
  have less : name < entry.1 := (List.pairwise_cons.1 increasing).1 entry member
  have different : name ≠ entry.1 := fun same => String.lt_irrefl name (same ▸ less)
  simpa using different

end Ordered

namespace Json

/-- The members of each object are in the order of their names. -/
inductive Canonical : Json → Prop where
  | null : Canonical .null
  | bool (value : Bool) : Canonical (.bool value)
  | number (value : Number) : Canonical (.number value)
  | string (text : String) : Canonical (.string text)
  | array {items : List Json} (items_canonical : ∀ item ∈ items, Canonical item) :
      Canonical (.array items)
  | object {members : List (String × Json)} (increasing : Ordered.Increasing Prod.fst members)
      (values_canonical : ∀ member ∈ members, Canonical member.2) : Canonical (.object members)

mutual

/-- The canonical form of a value is canonical. -/
theorem canonical_canonical : (value : Json) → Canonical value.canonical
  | .null => .null
  | .bool value => .bool value
  | .number value => .number value
  | .string text => .string text
  | .array items => .array (canonical_canonicalItems items)
  | .object members =>
      .object (Ordered.increasing_ofList _) fun member inside =>
        canonical_canonicalMembers members member (Ordered.mem_of_mem_ofList inside)

/-- The items of a canonical array are canonical. -/
theorem canonical_canonicalItems :
    (items : List Json) → ∀ item ∈ canonicalItems items, Canonical item
  | [] => fun _ inside => absurd inside List.not_mem_nil
  | item :: items => fun other inside => by
      rcases List.mem_cons.1 inside with rfl | inside
      · exact canonical_canonical item
      · exact canonical_canonicalItems items other inside

/-- The members of a canonical object are canonical. -/
theorem canonical_canonicalMembers :
    (members : List (String × Json)) → ∀ member ∈ canonicalMembers members, Canonical member.2
  | [] => fun _ inside => absurd inside List.not_mem_nil
  | (_, value) :: members => fun other inside => by
      rcases List.mem_cons.1 inside with rfl | inside
      · exact canonical_canonical value
      · exact canonical_canonicalMembers members other inside

end

/-- A value that is its own canonical form is canonical. -/
theorem Canonical.of_eq {value : Json} (same : value.canonical = value) : Canonical value :=
  same ▸ canonical_canonical value

/-- The members of a canonical object are in order. -/
theorem Canonical.increasing {members : List (String × Json)}
    (canonical : Canonical (.object members)) : Ordered.Increasing Prod.fst members := by
  cases canonical with
  | object increasing _ => exact increasing

/-- What is found in a canonical object is canonical. -/
theorem Canonical.of_lookup {members : List (String × Json)} {name : String} {value : Json}
    (canonical : Canonical (.object members)) (found : members.lookup name = some value) :
    value.Canonical := by
  cases canonical with
  | object _ values => exact values (name, value) (mem_of_lookup found)

/-- What is found in a canonical array is canonical. -/
theorem Canonical.of_mem {items : List Json} {item : Json} (canonical : Canonical (.array items))
    (inside : item ∈ items) : item.Canonical := by
  cases canonical with
  | array canonical => exact canonical item inside

end Json

namespace Listing

/-- What is known of an object in a list: its members are in order, and its status is as the server
gave it. -/
structure IsListed (object : Json) : Prop where
  members : ∃ members, object = .object members ∧ Ordered.Increasing Prod.fst members
  status : ∀ status, object.member? "status" = some status → status.Canonical

/-- An object keeps everything but its metadata. -/
theorem isListed_of_itemOfJson {item object : Json} (canonical : item.Canonical)
    (read : Page.itemOfJson item = .ok object) : IsListed object := by
  cases item with
  | object members =>
      have increasing : Ordered.Increasing Prod.fst members := canonical.increasing
      have listed (metadata : Json) :
          IsListed ((Json.object members).withMember "metadata" metadata) := by
        refine ⟨⟨_, rfl, Ordered.increasing_insert _ increasing⟩, fun status found => ?_⟩
        apply canonical.of_lookup
        rw [Json.withMember, Json.member?, Ordered.lookup_insert _ _ _ increasing] at found
        exact found
      simp only [Page.itemOfJson] at read
      split at read
      · cases read
        exact listed _
      · obtain ⟨metadata, _, rfl⟩ := Outcome.map_eq_ok.1 read
        exact listed _
  | _ => cases read

/-- The objects of a page say what listed objects say. -/
theorem isListed_of_itemsOfJson {items objects : List Json}
    (canonical : ∀ item ∈ items, item.Canonical) (read : Page.itemsOfJson items = .ok objects) :
    ∀ object ∈ objects, IsListed object := by
  induction items generalizing objects with
  | nil =>
      cases read
      exact fun _ inside => absurd inside List.not_mem_nil
  | cons item items ih =>
      unfold Page.itemsOfJson at read
      obtain ⟨object, first, read⟩ := Outcome.bind_eq_ok.1 read
      obtain ⟨others, rest, read⟩ := Outcome.bind_eq_ok.1 read
      cases read
      intro other inside
      rcases List.mem_cons.1 inside with rfl | inside
      · exact isListed_of_itemOfJson (canonical item List.mem_cons_self) first
      · have later := fun item member => canonical item (List.mem_cons_of_mem _ member)
        exact ih later rest other inside

/-- The objects of a page that a canonical answer stands for. -/
theorem isListed_of_pageOfJson {answer : Json} {page : Page} (canonical : answer.Canonical)
    (read : Page.ofJson answer = .ok page) : ∀ object ∈ page.items, IsListed object := by
  cases answer with
  | object members =>
      simp only [Page.ofJson] at read
      obtain ⟨metadata, _, read⟩ := Outcome.bind_eq_ok.1 read
      obtain ⟨items, itemsRead, read⟩ := Outcome.bind_eq_ok.1 read
      cases read
      unfold Page.itemsOfMembers at itemsRead
      split at itemsRead
      · cases itemsRead
      · cases itemsRead
        exact fun _ inside => absurd inside List.not_mem_nil
      · next found =>
          have items_canonical := canonical.of_lookup found
          exact isListed_of_itemsOfJson (fun _ inside => items_canonical.of_mem inside) itemsRead
      · cases itemsRead
  | _ => cases read

variable {σ : Type}

/-- Servers give canonical values. -/
theorem canonical_of_getJson {http : Http (StateM σ)} {address : ServerAddress} {target : String}
    {world after : σ} {value : Json}
    (answer : (http.getJson address target).run world = (.ok value, after)) : value.Canonical := by
  unfold Http.getJson at answer
  split at answer
  · cases answer
  split at answer
  · cases answer
  rw [run_bind] at answer
  rcases asked : (http.get address (address.target target)).run world with
    ⟨words | response, between⟩
  · rw [asked] at answer
    cases answer
  · rw [asked] at answer
    obtain ⟨answered, rfl⟩ := Prod.mk.inj answer
    obtain ⟨text, _, read⟩ := Outcome.bind_eq_ok.1 answered
    unfold Http.decoded at read
    split at read
    · cases read
      exact Json.canonical_canonical _
    · cases read

/-- The objects of a page that a server gives. -/
theorem isListed_of_fetchPage {http : Http (StateM σ)} {address : ServerAddress} {path : String}
    {selector token : Option String} {world after : σ} {page : Page}
    (answer : (fetchPage http address path selector token).run world = (.ok page, after)) :
    ∀ object ∈ page.items, IsListed object := by
  unfold fetchPage at answer
  rw [run_bind] at answer
  rcases asked : (http.getJson address (pageTarget path selector token)).run world with
    ⟨error | value, between⟩
  · rw [asked] at answer
    cases answer
  · rw [asked] at answer
    simp only at answer
    cases read : Page.ofJson value with
    | error cause =>
        rw [read] at answer
        cases answer
    | ok found =>
        rw [read] at answer
        cases answer
        exact isListed_of_pageOfJson (canonical_of_getJson asked) read

end Listing

end

end ClusterHosts

namespace ClusterHosts.Node

/-! ## Nodes of objects

The objects of a search are all nodes or none is decoded: if they are, there is one node for each,
in their order (`Node.ofItems_eq_ok_iff`), and otherwise the first that is not a node is to blame,
by its position (`Node.ofItems_eq_error_iff`). Whatever an object holds beside its metadata and its
status is of no account.
-/

/-! ### One object -/

/-- A member beside the metadata and the status is of no account. -/
theorem decodeMembers_insert {name : String} (value : Json) (metadata status : Option Json)
    (members : List (String × Json)) (notMetadata : name ≠ "metadata")
    (notStatus : name ≠ "status") :
    decodeMembers metadata status (Ordered.insert Prod.fst (name, value) members) =
      decodeMembers metadata status members := by
  induction members generalizing metadata status with
  | nil => simp [Ordered.insert, decodeMembers, notMetadata, notStatus]
  | cons member members ih =>
      obtain ⟨other, otherValue⟩ := member
      unfold Ordered.insert
      split
      · conv_lhs => unfold decodeMembers
        rw [if_neg notMetadata, if_neg notStatus]
      · split
        · next same =>
            change name = other at same
            subst same
            simp only [decodeMembers, if_neg notMetadata, if_neg notStatus]
        · simp only [decodeMembers, ih]

/-- The version and the kind of an object are of no account. -/
theorem ofJson_labelled (resource : Resource) (object : Json) :
    ofJson (Listing.labelled resource object) = ofJson object := by
  cases object with
  | object members =>
      simp only [Listing.labelled, Json.withMember, ofJson]
      rw [decodeMembers_insert _ _ _ _ (by decide) (by decide),
        decodeMembers_insert _ _ _ _ (by decide) (by decide)]
  | _ => rfl

/-! ### All objects -/

variable {function : String} {index : Nat} {items : List Json}

/-- Labels do not change what is decoded of objects. -/
theorem ofItems_labelled (resource : Resource) :
    ofItems function index (items.map (Listing.labelled resource)) =
      ofItems function index items := by
  induction items generalizing index with
  | nil => rfl
  | cons item items ih => rw [List.map_cons, ofItems, ofItems, ofJson_labelled, ih]

/-- Objects that all are nodes decode to these nodes. -/
theorem ofItems_eq_ok_iff {nodes : List Node} :
    ofItems function index items = .ok nodes ↔
      List.Forall₂ (fun item node => ofJson item = .ok node) items nodes := by
  induction items generalizing index nodes with
  | nil => simp [ofItems, eq_comm]
  | cons item items ih =>
      rw [ofItems, List.forall₂_cons_left_iff]
      cases read : ofJson item with
      | error cause => simp
      | ok node =>
          simp only [Outcome.map_eq_ok, ih]
          constructor
          · rintro ⟨rest, pairs, rfl⟩
            exact ⟨node, rest, rfl, pairs, rfl⟩
          · rintro ⟨_, rest, same, pairs, rfl⟩
            cases same
            exact ⟨rest, pairs, rfl⟩

/-- Objects decode if each of them is a node. -/
theorem exists_ofItems_eq_ok_iff :
    (∃ nodes, ofItems function index items = .ok nodes) ↔
      ∀ item ∈ items, ∃ node, ofJson item = .ok node := by
  simp only [ofItems_eq_ok_iff]
  induction items with
  | nil => simp
  | cons item items ih =>
      rw [List.forall_mem_cons, ← ih]
      constructor
      · rintro ⟨_, pairs⟩
        cases pairs with
        | cons first rest => exact ⟨⟨_, first⟩, _, rest⟩
      · rintro ⟨⟨node, first⟩, nodes, rest⟩
        exact ⟨node :: nodes, .cons first rest⟩

/-- Of objects that are not all nodes the first that is none is to blame. -/
theorem ofItems_eq_error_iff {error : CallError} :
    ofItems function index items = .error error ↔
      ∃ before item after cause, items = before ++ item :: after ∧
        (∀ other ∈ before, ∃ node, ofJson other = .ok node) ∧ ofJson item = .error cause ∧
        error = .badObject function "node" (index + before.length) cause := by
  induction items generalizing index with
  | nil => simp [ofItems]
  | cons item items ih =>
      rw [ofItems]
      cases read : ofJson item with
      | error cause =>
          constructor
          · intro fails
            cases fails
            have none : ∀ other ∈ [], ∃ node, ofJson other = .ok node :=
              fun _ inside => absurd inside List.not_mem_nil
            exact ⟨[], item, items, cause, rfl, none, read, rfl⟩
          · rintro ⟨before, other, after, otherCause, split, nodes, blamed, rfl⟩
            cases before with
            | nil =>
                cases split
                rw [read] at blamed
                cases blamed
                rfl
            | cons first before =>
                -- An object before the one to blame would be a node.
                obtain ⟨rfl, _⟩ := List.cons.inj split
                obtain ⟨node, decoded⟩ := nodes item List.mem_cons_self
                rw [read] at decoded
                cases decoded
      | ok node =>
          simp only [Outcome.map_eq_error, ih]
          constructor
          · rintro ⟨before, other, after, cause, rfl, nodes, blamed, rfl⟩
            refine ⟨item :: before, other, after, cause, rfl, ?_, blamed, ?_⟩
            · intro earlier inside
              rcases List.mem_cons.1 inside with rfl | inside
              · exact ⟨node, read⟩
              · exact nodes earlier inside
            · rw [List.length_cons, Nat.add_right_comm, Nat.add_assoc]
          · rintro ⟨before, other, after, cause, split, nodes, blamed, rfl⟩
            cases before with
            | nil =>
                cases split
                rw [read] at blamed
                cases blamed
            | cons first before =>
                obtain ⟨rfl, rfl⟩ := List.cons.inj split
                refine ⟨before, other, after, cause, rfl, ?_, blamed, ?_⟩
                · exact fun earlier inside => nodes earlier (List.mem_cons_of_mem _ inside)
                · rw [List.length_cons, Nat.add_right_comm, Nat.add_assoc]

end ClusterHosts.Node
