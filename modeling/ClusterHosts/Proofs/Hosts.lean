import ClusterHosts.Proofs.Nodes

/-! # Hosts of decoded nodes

The host of a node is fixed by its first internal address, and the nodes of several listings are
decoded all or none (`Node.decodes_all_or_blames_first`). -/

namespace ClusterHosts

/-! ## Hosts of objects

A node is decoded from an object of the cluster, and its host is found among the decoded addresses.
The host can be read off the object as well (`Node.internalAddress_of_ofJson`): decoding drops what
a node's form does not know, but keeps the addresses and their order.
-/

private theorem map_eq_map_of_forall₂ {α β γ : Type} {related : α → β → Prop} {f : α → γ}
    {g : β → γ} {firsts : List α} {seconds : List β} (pairs : List.Forall₂ related firsts seconds)
    (same : ∀ first ∈ firsts, ∀ second, related first second → g second = f first) :
    seconds.map g = firsts.map f := by
  induction pairs with
  | nil => rfl
  | @cons first second firsts seconds head _ ih =>
      have here := same first List.mem_cons_self second head
      have later := ih fun other member => same other (List.mem_cons_of_mem _ member)
      rw [List.map_cons, List.map_cons, here, later]

namespace Shape

/-! ### Decoded values -/

/-- Only a text is decoded as a text. -/
theorem eq_string_of_decode {value part : Json} (decoded : decode value .text = .ok part) :
    ∃ text, value = .string text ∧ part = .string text := by
  cases value with
  | string text =>
      cases decoded
      exact ⟨text, rfl, rfl⟩
  | _ => cases decoded

theorem eq_array_of_decode {value part : Json} {item : Shape}
    (decoded : decode value (.list item) = .ok part) :
    ∃ items parts, value = .array items ∧ part = .array parts ∧
      decodeItems items item = .ok parts := by
  cases value with
  | array items =>
      obtain ⟨parts, read, rfl⟩ := Outcome.map_eq_ok.1 decoded
      exact ⟨items, parts, rfl, rfl, read⟩
  | _ => cases decoded

theorem eq_object_of_decode {value part : Json} {name : String} {fields : List (String × Shape)}
    {texts : List String} (decoded : decode value (.record name fields texts) = .ok part) :
    ∃ members known, value = .object members ∧ part = .object (completed texts known) ∧
      decodeFields members fields = .ok known := by
  cases value with
  | object members =>
      obtain ⟨known, read, rfl⟩ := Outcome.map_eq_ok.1 decoded
      exact ⟨members, known, rfl, rfl, read⟩
  | _ => cases decoded

/-- Each item of a list is decoded in its place. -/
theorem forall₂_of_decodeItems {items parts : List Json} {shape : Shape}
    (decoded : decodeItems items shape = .ok parts) :
    List.Forall₂ (fun item part => decode item shape = .ok part) items parts := by
  induction items generalizing parts with
  | nil =>
      cases decoded
      exact .nil
  | cons item items ih =>
      unfold decodeItems at decoded
      obtain ⟨part, first, decoded⟩ := Outcome.bind_eq_ok.1 decoded
      obtain ⟨rest, later, decoded⟩ := Outcome.bind_eq_ok.1 decoded
      cases decoded
      exact .cons first (ih later)

/-- A field of a decoded object is missing if it is missing or `null` in the object, and else it is
the part of the object's field that the shape knows. -/
theorem lookup_of_decodeFields {members known : List (String × Json)}
    {fields : List (String × Shape)} {shape : Shape} (name : String)
    (increasing : Ordered.Increasing Prod.fst members)
    (decoded : decodeFields members fields = .ok known) (field : fields.lookup name = some shape) :
    (known.lookup name = none ∧ ∀ value, members.lookup name = some value → value = .null) ∨
      ∃ value part, members.lookup name = some value ∧ known.lookup name = some part ∧
        decode value shape = .ok part := by
  induction members generalizing known with
  | nil =>
      cases decoded
      exact .inl ⟨rfl, fun _ found => by cases found⟩
  | cons member members ih =>
      obtain ⟨other, value⟩ := member
      have rest : Ordered.Increasing Prod.fst members := (List.pairwise_cons.1 increasing).2
      have absent := Ordered.lookup_tail_eq_none increasing
      have behind (different : name ≠ other) (value : Json) (members : List (String × Json)) :
          ((other, value) :: members).lookup name = members.lookup name := by
        rw [List.lookup_cons, beq_false_of_ne different]
      unfold decodeFields at decoded
      split at decoded
      · by_cases same : name = other
        · subst same
          -- The field is `null` here, and no later member has its name.
          rcases ih rest decoded with ⟨missing, _⟩ | ⟨_, _, found, _⟩
          · refine .inl ⟨missing, fun value found => ?_⟩
            rw [List.lookup_cons_self] at found
            cases found
            rfl
          · rw [absent] at found
            cases found
        · rw [behind same]
          exact ih rest decoded
      · next unknown =>
          have different : name ≠ other := by
            rintro rfl
            rw [unknown] at field
            cases field
          rw [behind different]
          exact ih rest decoded
      · next otherShape _ otherField =>
          obtain ⟨part, first, decoded⟩ := Outcome.bind_eq_ok.1 decoded
          obtain ⟨others, later, decoded⟩ := Outcome.bind_eq_ok.1 decoded
          cases decoded
          by_cases same : name = other
          · subst same
            rw [field] at otherField
            cases otherField
            exact .inr ⟨_, part, List.lookup_cons_self, List.lookup_cons_self, first⟩
          · rw [behind same, behind same]
            exact ih rest later

end Shape

/-- An entry of the addresses of an object. -/
def NodeAddress.ofJson (entry : Json) : NodeAddress :=
  ⟨Node.textField "type" entry, Node.textField "address" entry⟩

namespace Node

/-- The addresses in a status. -/
def addressesIn (status : Json) : List NodeAddress :=
  (((status.member? "addresses").bind Json.items?).getD []).map NodeAddress.ofJson

/-- The addresses that an object reports. -/
def reportedAddresses (object : Json) : List NodeAddress :=
  ((object.member? "status").map addressesIn).getD []

/-- The first internal one of some addresses, or the empty text if there is none. -/
def firstInternal (addresses : List NodeAddress) : String :=
  match addresses.find? fun address => address.kind == internalAddressKind with
  | some address => address.address
  | none => ""

/-- The host that an object reports. -/
def reportedHost (object : Json) : String := firstInternal (reportedAddresses object)

/-! ### From the object to the node -/

/-- Decoding keeps the texts of an object. -/
theorem textField_of_decode {object part : Json} {recordName name : String}
    {fields : List (String × Shape)} (canonical : object.Canonical)
    (field : fields.lookup name = some .text)
    (decoded : Shape.decode object (.record recordName fields []) = .ok part) :
    textField name part = textField name object := by
  obtain ⟨members, known, rfl, rfl, read⟩ := Shape.eq_object_of_decode decoded
  change ((known.lookup name).bind Json.text?).getD "" =
    ((members.lookup name).bind Json.text?).getD ""
  rcases Shape.lookup_of_decodeFields name canonical.increasing read field with
    ⟨missing, null⟩ | ⟨value, part, found, kept, text⟩
  · cases found : members.lookup name with
    | none => rw [missing]
    | some value =>
        cases null value found
        rw [missing]
        rfl
  · obtain ⟨text, rfl, rfl⟩ := Shape.eq_string_of_decode text
    rw [found, kept]

/-- Decoding keeps the entries of the addresses. -/
theorem ofJson_of_decode {entry part : Json} (canonical : entry.Canonical)
    (decoded : Shape.decode entry Shape.nodeAddress = .ok part) :
    NodeAddress.ofJson part = NodeAddress.ofJson entry := by
  have kind : textField "type" part = textField "type" entry :=
    textField_of_decode canonical rfl decoded
  have address : textField "address" part = textField "address" entry :=
    textField_of_decode canonical rfl decoded
  rw [NodeAddress.ofJson, NodeAddress.ofJson, kind, address]

/-- Decoding keeps the addresses and their order. -/
theorem addressesIn_of_decode {status part : Json} (canonical : status.Canonical)
    (decoded : Shape.decode status Shape.nodeStatus = .ok part) :
    addressesIn part = addressesIn status := by
  obtain ⟨members, known, rfl, rfl, read⟩ := Shape.eq_object_of_decode decoded
  change (((known.lookup "addresses").bind Json.items?).getD []).map _ =
    (((members.lookup "addresses").bind Json.items?).getD []).map _
  rcases Shape.lookup_of_decodeFields "addresses" canonical.increasing read rfl with
    ⟨missing, null⟩ | ⟨value, part, found, kept, addresses⟩
  · cases found : members.lookup "addresses" with
    | none => rw [missing]
    | some value =>
        cases null value found
        rw [missing]
        rfl
  · have valueCanonical := canonical.of_lookup found
    obtain ⟨entries, parts, rfl, rfl, entriesRead⟩ := Shape.eq_array_of_decode addresses
    rw [found, kept]
    exact map_eq_map_of_forall₂ (Shape.forall₂_of_decodeItems entriesRead) fun _ member _ decoded =>
      ofJson_of_decode (valueCanonical.of_mem member) decoded

/-- A status keeps its addresses when it is decoded. -/
theorem addressesIn_of_decodeStatus {value : Json} {status : Option Json}
    (canonical : value.Canonical) (decoded : decodeStatus value = .ok status) :
    (status.map addressesIn).getD [] = addressesIn value := by
  unfold decodeStatus at decoded
  split at decoded
  · cases decoded
    rfl
  · obtain ⟨part, read, rfl⟩ := Outcome.map_eq_ok.1 decoded
    exact addressesIn_of_decode canonical read

/-- A node is made of the status of its object. -/
theorem exists_status_of_decodeMembers {members : List (String × Json)}
    {metadata status : Option Json} {node : Node}
    (increasing : Ordered.Increasing Prod.fst members)
    (decoded : decodeMembers metadata status members = .ok node) :
    ∃ metadata found, node = ofParts metadata found ∧
      match members.lookup "status" with
      | none => found = status
      | some value => decodeStatus value = .ok found := by
  induction members generalizing metadata status with
  | nil =>
      cases metadata with
      | none => cases decoded
      | some metadata =>
          cases decoded
          exact ⟨metadata, status, rfl, rfl⟩
  | cons member members ih =>
      obtain ⟨name, value⟩ := member
      have rest : Ordered.Increasing Prod.fst members := (List.pairwise_cons.1 increasing).2
      have absent := Ordered.lookup_tail_eq_none increasing
      unfold decodeMembers at decoded
      rw [List.lookup_cons]
      split at decoded
      · next isMetadata =>
          obtain ⟨metadata, _, decoded⟩ := Outcome.bind_eq_ok.1 decoded
          subst isMetadata
          exact ih rest decoded
      split at decoded
      · next isStatus =>
          obtain ⟨found, read, decoded⟩ := Outcome.bind_eq_ok.1 decoded
          subst isStatus
          -- No later status takes the place of this one.
          obtain ⟨metadata, kept, rfl, same⟩ := ih rest decoded
          rw [absent] at same
          cases same
          exact ⟨metadata, _, rfl, read⟩
      · next notStatus =>
          rw [beq_false_of_ne (Ne.symm notStatus)]
          exact ih rest decoded

/-- The addresses of a node are the ones that its object reports. -/
theorem addresses_of_ofJson {object : Json} {node : Node} (listed : Listing.IsListed object)
    (decoded : ofJson object = .ok node) : node.addresses.getD [] = reportedAddresses object := by
  obtain ⟨⟨members, rfl, increasing⟩, statusCanonical⟩ := listed
  obtain ⟨metadata, found, rfl, read⟩ := exists_status_of_decodeMembers increasing decoded
  change (found.map addressesIn).getD [] = ((members.lookup "status").map addressesIn).getD []
  cases status : members.lookup "status" with
  | none =>
      rw [status] at read
      rw [read]
  | some value =>
      rw [status] at read
      exact addressesIn_of_decodeStatus (statusCanonical value status) read

theorem internalAddress_eq (node : Node) :
    node.internalAddress = firstInternal (node.addresses.getD []) := rfl

/-- The host of a node is the one that its object reports. -/
theorem internalAddress_of_ofJson {object : Json} {node : Node} (listed : Listing.IsListed object)
    (decoded : ofJson object = .ok node) : node.internalAddress = reportedHost object := by
  rw [internalAddress_eq, addresses_of_ofJson listed decoded, reportedHost]

/-- The hosts of nodes are the ones that their objects report. -/
theorem map_internalAddress_of_ofItems {function : String} {index : Nat} {objects : List Json}
    {nodes : List Node} (listed : ∀ object ∈ objects, Listing.IsListed object)
    (decoded : ofItems function index objects = .ok nodes) :
    nodes.map internalAddress = objects.map reportedHost :=
  map_eq_map_of_forall₂ (ofItems_eq_ok_iff.1 decoded) fun object member _ decoded =>
    internalAddress_of_ofJson (listed object member) decoded

end Node

end ClusterHosts

namespace ClusterHosts.Node

/-! ## Decoding the objects of a search

The objects of a search become nodes all together or not at all, wherever one listing ends and the
next one begins (`Node.decodes_all_or_blames_first`). Of an object nothing counts but its metadata
and its status, and of the addresses in the status only the first internal one makes the host.
-/

/-! ### What counts of an object -/

/-- The members of an object that a node is decoded from. -/
def decisive (members : List (String × Json)) : List (String × Json) :=
  members.filter fun member => ["metadata", "status"].contains member.1

/-- Two values are the same, or they are objects that differ in other members than the metadata and
the status only. -/
inductive Alike : Json → Json → Prop where
  | refl (item : Json) : Alike item item
  | objects {first second : List (String × Json)} (same : decisive first = decisive second) :
      Alike (.object first) (.object second)

/-- Only metadata and status count when members are decoded. -/
theorem decodeMembers_decisive (metadata status : Option Json) (members : List (String × Json)) :
    decodeMembers metadata status (decisive members) = decodeMembers metadata status members := by
  induction members generalizing metadata status with
  | nil => rfl
  | cons member members ih =>
      obtain ⟨name, value⟩ := member
      by_cases isMetadata : name = "metadata"
      · have kept : decisive ((name, value) :: members) = (name, value) :: decisive members :=
          List.filter_cons_of_pos (by simp [isMetadata])
        simp only [kept, decodeMembers, if_pos isMetadata, ih]
      by_cases isStatus : name = "status"
      · have kept : decisive ((name, value) :: members) = (name, value) :: decisive members :=
          List.filter_cons_of_pos (by simp [isStatus])
        simp only [kept, decodeMembers, if_neg isMetadata, if_pos isStatus, ih]
      · have dropped : decisive ((name, value) :: members) = decisive members :=
          List.filter_cons_of_neg (by simp [isMetadata, isStatus])
        simp only [dropped, decodeMembers, if_neg isMetadata, if_neg isStatus, ih]

/-- Objects that are alike are decoded alike. -/
theorem Alike.ofJson_eq {first second : Json} (alike : Alike first second) :
    ofJson first = ofJson second := by
  cases alike with
  | refl => rfl
  | objects same =>
      rw [ofJson, ofJson, ← decodeMembers_decisive, same, decodeMembers_decisive]

/-- Lists of objects that are alike are decoded alike. -/
theorem ofItems_congr (function : String) {first second : List Json}
    (alike : List.Forall₂ Alike first second) (index : Nat) :
    ofItems function index first = ofItems function index second := by
  induction alike generalizing index with
  | nil => rfl
  | cons head _ ih => rw [ofItems, ofItems, head.ofJson_eq, ih]

/-! ### Addresses -/

/-- The addresses that a value of a node holds. The status is the second item of an array. -/
def heldAddresses : Json → List NodeAddress
  | .array (_ :: status :: _) => addressesIn status
  | item => reportedAddresses item

/-- The first internal one of some addresses. -/
def firstInternal? (addresses : List NodeAddress) : Option NodeAddress :=
  (addresses.filter fun address => address.kind == internalAddressKind).head?

/-- Decoding keeps the addresses, in an object as in an array. -/
theorem addresses_eq_heldAddresses {item : Json} {node : Node} (canonical : item.Canonical)
    (decoded : ofJson item = .ok node) : node.addresses.getD [] = heldAddresses item := by
  cases item with
  | object members =>
      have listed : Listing.IsListed (.object members) :=
        ⟨⟨members, rfl, canonical.increasing⟩, fun _ found => canonical.of_lookup found⟩
      exact addresses_of_ofJson listed decoded
  | array items =>
      cases items with
      | nil => cases decoded
      | cons metadata rest =>
          obtain ⟨metadata, _, decoded⟩ := Outcome.bind_eq_ok.1 decoded
          cases rest with
          | nil =>
              cases decoded
              rfl
          | cons status surplus =>
              obtain ⟨found, read, decoded⟩ := Outcome.bind_eq_ok.1 decoded
              split at decoded
              · cases decoded
                exact addressesIn_of_decodeStatus (canonical.of_mem (by simp)) read
              · cases decoded
  | _ => cases decoded

/-- The address of a node is the first internal one that its object holds. -/
theorem internalAddress_eq_firstInternal? {item : Json} {node : Node} (canonical : item.Canonical)
    (decoded : ofJson item = .ok node) :
    node.internalAddress =
      ((firstInternal? (heldAddresses item)).map NodeAddress.address).getD "" := by
  rw [internalAddress_eq, addresses_eq_heldAddresses canonical decoded, firstInternal?,
    List.head?_filter, firstInternal]
  split
  · next found => rw [found]; rfl
  · next missing => rw [missing]; rfl

/-! ### All objects -/

/-- All objects are decoded if each one is. -/
theorem map_ofJson_eq_iff {items : List Json} {nodes : List Node} :
    items.map ofJson = nodes.map Except.ok ↔
      List.Forall₂ (fun item node => ofJson item = .ok node) items nodes := by
  rw [← List.forall₂_eq_eq_eq, List.forall₂_map_left_iff, List.forall₂_map_right_iff]

/-- **All objects decode, or the first that does not is to blame.** Its position is counted over all
listings. What comes of a search therefore depends on the sequence of its objects only, and on these
only up to members beside the metadata and the status. The host of a node is the same as long as
the first internal address is. -/
theorem decodes_all_or_blames_first (function : String) (listings : List Listing) :
    let items := listings.flatMap Listing.items
    let outcome := ofListings function listings
    ((∃ nodes, outcome = .ok nodes) ↔
      ∀ listing ∈ listings, ∀ item ∈ listing.items, ∃ node, ofJson item = .ok node) ∧
    (∀ nodes, outcome = .ok nodes ↔ items.map ofJson = nodes.map Except.ok) ∧
    (∀ error, outcome = .error error ↔
      ∃ before item after cause, items = before ++ item :: after ∧
        (∀ other ∈ before, ∃ node, ofJson other = .ok node) ∧ ofJson item = .error cause ∧
        error = .badObject function "node" before.length cause) ∧
    (∀ others : List Listing, List.Forall₂ Alike items (others.flatMap Listing.items) →
      ofListings function others = outcome) ∧
    ∀ item changed node other, item.Canonical → changed.Canonical →
      ofJson item = .ok node → ofJson changed = .ok other →
      firstInternal? (heldAddresses item) = firstInternal? (heldAddresses changed) →
      node.internalAddress = other.internalAddress := by
  intro items outcome
  refine ⟨?_, ?_, ?_, ?_, ?_⟩
  · have all : (∃ nodes, outcome = .ok nodes) ↔ ∀ item ∈ items, ∃ node, ofJson item = .ok node :=
      exists_ofItems_eq_ok_iff
    rw [all]
    constructor
    · intro decode listing found item inside
      exact decode item (List.mem_flatMap.2 ⟨listing, found, inside⟩)
    · intro decode item inside
      obtain ⟨listing, found, inside⟩ := List.mem_flatMap.1 inside
      exact decode listing found item inside
  · intro nodes
    rw [map_ofJson_eq_iff]
    exact ofItems_eq_ok_iff
  · intro error
    have blamed : ofItems function 0 items = .error error ↔ _ := ofItems_eq_error_iff
    simp only [Nat.zero_add] at blamed
    exact blamed
  · intro others alike
    exact (ofItems_congr function alike 0).symm
  · intro item changed node other canonical changedCanonical decoded changedDecoded same
    rw [internalAddress_eq_firstInternal? canonical decoded,
      internalAddress_eq_firstInternal? changedCanonical changedDecoded, same]

/-- The members of an object that reports a name and addresses. -/
def reporting (name : String) (addresses : List NodeAddress) : List (String × Json) := [
  ("metadata", .object [("name", .string name)]),
  ("status", .object [("addresses", .array (addresses.map fun address =>
    .object [("address", .string address.address), ("type", .string address.kind)]))])]

/-- An object without metadata is to blame as the second one of all, in the third listing as in a
single one. Other addresses before and behind the first internal one are of no account. -/
theorem decodes_all_or_blames_first_of_three_listings :
    let near : NodeAddress := ⟨"InternalIP", "10.0.0.1"⟩
    let first := reporting "a" [⟨"Hostname", "a"⟩, near]
    let changed := reporting "a" [near, ⟨"ExternalIP", "192.0.2.1"⟩, ⟨"InternalIP", "10.0.0.2"⟩]
    let nameless : Json := .object [("status", .object [])]
    let listings : List Listing :=
      [{ items := [.object first] }, {}, { items := [nameless, .object changed] }]
    let others : List Listing :=
      [{ items := [.object (("kind", .string "Node") :: first), nameless, .object changed],
         kind := "Node" }]
    let error : CallError := .badObject "f" "node" 1 (.missingField "metadata")
    (ofListings "f" listings = .error error ∧ ofListings "f" others = .error error) ∧
      ∃ node other, ofJson (.object first) = .ok node ∧ ofJson (.object changed) = .ok other ∧
        node.internalAddress = "10.0.0.1" ∧ node.internalAddress = other.internalAddress := by
  intro near first changed nameless listings others error
  obtain ⟨_, _, blames, regroups, readdresses⟩ := decodes_all_or_blames_first "f" listings
  have decoded : ofJson (.object first) = .ok ⟨"a", some [⟨"Hostname", "a"⟩, near]⟩ := rfl
  have changedDecoded : ofJson (.object changed) =
      .ok ⟨"a", some [near, ⟨"ExternalIP", "192.0.2.1"⟩, ⟨"InternalIP", "10.0.0.2"⟩]⟩ := rfl
  have fails : ofListings "f" listings = .error error := by
    refine (blames error).2 ⟨[.object first], nameless, [.object changed], _, rfl, ?_, rfl, rfl⟩
    intro other inside
    cases List.mem_singleton.1 inside
    exact ⟨_, decoded⟩
  have alike : List.Forall₂ Alike (listings.flatMap Listing.items)
      (others.flatMap Listing.items) :=
    .cons (.objects rfl) (.cons (.refl nameless) (.cons (.refl (.object changed)) .nil))
  have canonical : (Json.object first).Canonical := .of_eq (by cbv)
  have changedCanonical : (Json.object changed).Canonical := .of_eq (by cbv)
  exact ⟨⟨fails, (regroups others alike).trans fails⟩, _, _, decoded, changedDecoded, rfl,
    readdresses _ _ _ _ canonical changedCanonical decoded changedDecoded rfl⟩

end ClusterHosts.Node
