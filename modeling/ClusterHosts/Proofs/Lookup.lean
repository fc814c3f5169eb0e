import ClusterHosts.Proofs.Requests

/-! # Which resource answers to a name

No two known resources of a group have a name in common. At most one of them answers to a group, a
version and a kind, in whatever order they are looked through. Only if none does is the cluster
asked, and then the first of the resources it tells that has the name is taken
(`Resource.lookup_is_unambiguous`).
-/

namespace ClusterHosts

variable {σ : Type}

/-! ### The first and only match -/

section

variable {α : Type} {table : List α} {matching : α → Bool}

/-- If no two entries match, at most one does. -/
theorem length_filter_le_one (apart : table.Pairwise fun first second =>
      ¬ (matching first = true ∧ matching second = true)) :
    (table.filter matching).length ≤ 1 := by
  induction table with
  | nil => exact Nat.zero_le 1
  | cons entry table ih =>
      obtain ⟨others, rest⟩ := List.pairwise_cons.1 apart
      by_cases first : matching entry = true
      · have nothing : table.filter matching = [] :=
          List.filter_eq_nil_iff.2 fun other member also => others other member ⟨first, also⟩
        rw [List.filter_cons_of_pos first, nothing]
        exact Nat.le_refl 1
      · rw [List.filter_cons_of_neg first]
        exact ih rest

/-- An entry that matches is the first one to match if no other does. -/
theorem find?_eq_some_iff_of_length_le (single : (table.filter matching).length ≤ 1) {entry : α} :
    table.find? matching = some entry ↔ entry ∈ table ∧ matching entry = true := by
  rw [← List.head?_filter, ← List.mem_filter]
  rcases kept : table.filter matching with _ | ⟨first, _ | ⟨second, others⟩⟩
  · simp
  · simp [eq_comm]
  · rw [kept] at single
    exact absurd single (by simp)

/-- If at most one entry matches, it is found in whatever order the entries are looked through. -/
theorem find?_eq_of_perm (single : (table.filter matching).length ≤ 1) {others : List α}
    (perm : others.Perm table) : others.find? matching = table.find? matching := by
  apply Option.ext
  intro entry
  have also : (others.filter matching).length ≤ 1 := by
    rw [(perm.filter matching).length_eq]
    exact single
  rw [find?_eq_some_iff_of_length_le single, find?_eq_some_iff_of_length_le also, perm.mem_iff]

/-- What is found is the first entry of those that matching stands for. -/
theorem find?_eq_some_iff_first {property : α → Prop}
    (reflects : ∀ entry ∈ table, matching entry = true ↔ property entry) {entry : α} :
    table.find? matching = some entry ↔
      ∃ before later, table = before ++ entry :: later ∧ property entry ∧
        ∀ other ∈ before, ¬ property other := by
  rw [List.find?_eq_some_iff_append]
  constructor
  · rintro ⟨found, before, later, rfl, others⟩
    refine ⟨before, later, rfl, (reflects entry (by simp)).1 found, fun other member holds => ?_⟩
    have unmatched := others other member
    rw [(reflects other (List.mem_append_left _ member)).2 holds] at unmatched
    cases unmatched
  · rintro ⟨before, later, rfl, holds, others⟩
    refine ⟨(reflects entry (by simp)).2 holds, before, later, rfl, fun other member => ?_⟩
    have unmatched := others other member
    rw [← reflects other (List.mem_append_left _ member)] at unmatched
    simpa using unmatched

end

namespace Resource

/-! ### Names -/

/-- The names of a resource, in small letters: its plural, its own name and the short ones. -/
def names (resource : Resource) : List String :=
  resource.plural :: Text.lowercase resource.kind :: resource.aliases

/-- A resource has a name if the name is one of its own in any case. -/
theorem isNamed_iff {resource : Resource} {kind : String} :
    resource.isNamed kind = true ↔ Text.lowercase kind ∈ resource.names := by
  simp only [isNamed, names, Bool.or_eq_true, beq_iff_eq, List.contains_iff_mem, List.mem_cons,
    or_assoc]
  rw [eq_comm, @eq_comm _ (Text.lowercase resource.kind)]

/-- A resource answers if it belongs to the group that is meant, has the version that is given, if
one is, and has the name. -/
theorem answersTo_iff {resource : Resource} {group version kind : String} :
    resource.answersTo group version kind = true ↔
      resource.group = normalizeGroup group ∧ (version ≠ "" → resource.version = version) ∧
        Text.lowercase kind ∈ resource.names := by
  simp only [answersTo, Bool.and_eq_true, Bool.or_eq_true, beq_iff_eq, isNamed_iff,
    String.isEmpty_iff, and_assoc, or_iff_not_imp_left, ne_eq]

/-- No two known resources of a group have a name in common. -/
theorem known_apart :
    known.Pairwise fun first second =>
      first.group = second.group → ∀ name ∈ first.names, name ∉ second.names := by
  decide +kernel

/-- Two groups of queries mean the same: without the blanks around them they are the same, where
`core` is the empty group. -/
def MeanSame (first second : String) : Prop :=
  Text.trim first = Text.trim second ∨
    Text.trim first ∈ ["", "core"] ∧ Text.trim second ∈ ["", "core"]

/-- Groups that mean the same are one group. -/
theorem MeanSame.normalizeGroup_eq {first second : String} (same : MeanSame first second) :
    normalizeGroup first = normalizeGroup second := by
  have nameless {group : String} (among : Text.trim group ∈ ["", "core"]) :
      normalizeGroup group = "" := by
    simp only [List.mem_cons, List.not_mem_nil, or_false] at among
    rcases among with empty | core
    · rw [normalizeGroup, empty]
      rfl
    · rw [normalizeGroup, core]
      rfl
  rcases same with same | ⟨first, second⟩
  · rw [normalizeGroup, normalizeGroup, same]
  · rw [nameless first, nameless second]

/-! ### The known resources -/

variable (group version kind : String)

/-- At most one known resource answers. -/
theorem length_filter_known_le :
    (known.filter (·.answersTo group version kind)).length ≤ 1 := by
  apply length_filter_le_one
  refine known_apart.imp fun {first second} apart ⟨firstAnswers, secondAnswers⟩ => ?_
  obtain ⟨firstGroup, _, firstNamed⟩ := answersTo_iff.1 firstAnswers
  obtain ⟨secondGroup, _, secondNamed⟩ := answersTo_iff.1 secondAnswers
  exact apart (firstGroup.trans secondGroup.symm) _ firstNamed secondNamed

/-- A known resource is found if it answers, wherever it stands in the table. -/
theorem known?_eq_some_iff {resource : Resource} :
    known? group version kind = some resource ↔
      resource ∈ known ∧ resource.group = normalizeGroup group ∧
        (version ≠ "" → resource.version = version) ∧
        Text.lowercase kind ∈ resource.names := by
  rw [← answersTo_iff]
  exact find?_eq_some_iff_of_length_le (length_filter_known_le group version kind)

end Resource

/-! ### Discovered resources -/

namespace Discovery

variable {http : Http (StateM σ)} {address : ServerAddress}

/-- An action gives only what has a property, if it gives anything. -/
def Gives {ε α : Type} (property : α → Prop) (action : StateM σ (Except ε α)) : Prop :=
  ∀ world value, (action.run world).1 = .ok value → property value

namespace Gives

variable {ε δ α β : Type} {before : α → Prop} {after : β → Prop}

/-- An action gives something, of which nothing is asked. -/
theorem any (action : StateM σ (Except ε α)) : Gives (fun _ => True) action :=
  fun _ _ _ => trivial

/-- A result that is given holds what it holds. -/
theorem ok {value : α} (holds : before value) :
    Gives before (pure (.ok value) : StateM σ (Except ε α)) := by
  intro world given gives
  rwa [← Except.ok.inj gives]

theorem error {error : ε} : Gives before (pure (.error error) : StateM σ (Except ε α)) := by
  intro world given gives
  cases gives

/-- What two steps give, where the second starts from what the first gives. -/
theorem bind {action : StateM σ (Except ε α)} {next : Except ε α → StateM σ (Except δ β)}
    (first : Gives before action) (failing : ∀ error, Gives after (next (.error error)))
    (rest : ∀ value, before value → Gives after (next (.ok value))) :
    Gives after (action >>= next) := by
  intro world value gives
  rw [run_bind] at gives
  cases given : (action.run world).1 with
  | error error =>
      rw [given] at gives
      exact failing error _ _ gives
  | ok found =>
      rw [given] at gives
      exact rest found (first world found given) _ _ gives

end Gives

/-- The resources have no short names. -/
def Unaliased (resources : List Resource) : Prop := ∀ resource ∈ resources, resource.aliases = []

/-- Resources in a list have no short names. -/
theorem unaliased_resources {list : Json} {found : List Resource}
    (lists : resources list = .ok found) : Unaliased found := by
  simp only [resources] at lists
  split at lists
  · obtain rfl := Except.ok.inj lists
    intro resource member
    obtain ⟨entry, _, rfl⟩ := List.mem_map.1 member
    rfl
  · split at lists
    · obtain rfl := Except.ok.inj lists
      exact fun resource member => absurd member List.not_mem_nil
    · cases lists

theorem gives_versions (paths : List (String × String)) :
    Gives (fun found => ∀ entry ∈ found, Unaliased entry.resources)
      (versions http address paths) := by
  induction paths with
  | nil => exact .ok fun entry member => absurd member List.not_mem_nil
  | cons pair paths ih =>
      refine .bind (.any _) (fun _ => .error) fun list _ => ?_
      cases lists : resources list with
      | error error =>
          simp only [lists]
          exact .error
      | ok found =>
          simp only [lists]
          refine .bind ih (fun _ => .error) fun others unaliased => .ok ?_
          exact List.forall_mem_cons.2 ⟨unaliased_resources lists, unaliased⟩

/-- The resources of the version that is chosen have no short names. -/
theorem unaliased_choose {found : List GroupVersion} (version : String) (preferred : Option String)
    (unaliased : ∀ entry ∈ found, Unaliased entry.resources) :
    Unaliased (choose version preferred found) := by
  simp only [choose]
  split
  · next chosen =>
      exact unaliased _ (List.mem_mergeSort.1 (List.mem_of_find?_eq_some chosen))
  · exact fun resource member => absurd member List.not_mem_nil

/-- The resources of a group have no short names. -/
theorem gives_namedGroup (version : String) (entry : Json) :
    Gives Unaliased (namedGroup http address version entry) := by
  simp only [namedGroup]
  split
  · exact .error
  · exact .bind (gives_versions _) (fun _ => .error) fun found unaliased =>
      .ok (unaliased_choose _ _ unaliased)

theorem gives_namedGroups (version : String) (entries : List Json)
    {found : Option (List Resource)} (before : ∀ resources ∈ found, Unaliased resources) :
    Gives (fun found => ∀ resources ∈ found, Unaliased resources)
      (namedGroups http address version found entries) := by
  induction entries generalizing found with
  | nil => exact .ok before
  | cons entry entries ih =>
      refine .bind (gives_namedGroup version entry) (fun _ => .error) fun resources unaliased => ?_
      apply ih
      rintro own ⟨⟩
      exact unaliased

theorem gives_coreGroup (version : String) : Gives Unaliased (coreGroup http address version) := by
  refine .bind (.any _) (fun _ => .error) fun list _ => ?_
  simp only
  split
  · exact .error
  · exact .bind (gives_versions _) (fun _ => .error) fun found unaliased =>
      .ok (unaliased_choose _ _ unaliased)

/-- Discovered resources have no short names. -/
theorem gives_group (name version : String) :
    Gives Unaliased (group http address name version) := by
  refine .bind (.any _) (fun _ => .error) fun list _ => ?_
  have none : ∀ resources ∈ (none : Option (List Resource)), Unaliased resources := by
    rintro resources ⟨⟩
  refine .bind (gives_namedGroups version _ none) (fun _ => .error) fun found unaliased => ?_
  simp only
  split
  · exact gives_coreGroup version
  · apply Gives.ok
    cases found with
    | none => exact fun resource member => absurd member List.not_mem_nil
    | some resources => exact unaliased resources rfl

/-- A discovered resource is listed as a kind if it is no part of objects and the kind is its
plural or its name, in any case. -/
def IsListedAs (kind : String) (resource : Resource) : Prop :=
  '/' ∉ resource.plural.toList ∧
    (resource.plural = Text.lowercase kind ∨ Text.lowercase resource.kind = Text.lowercase kind)

instance (kind : String) (resource : Resource) : Decidable (IsListedAs kind resource) :=
  inferInstanceAs (Decidable (_ ∧ _))

/-- A resource without short names is listed under its plural and its kind. -/
theorem isListedAs_iff {kind : String} {resource : Resource} (unaliased : resource.aliases = []) :
    (!resource.isPart && resource.isNamed kind) = true ↔ IsListedAs kind resource := by
  simp only [IsListedAs, Bool.and_eq_true, Resource.isNamed, Resource.isPart, unaliased]
  simp

/-- What the cluster tells decides which resource answers if none is known. -/
theorem run_resolve_of_unknown {groupName version kind : String}
    (unknown : Resource.known? groupName version kind = none) (world : σ) :
    (resolve http address groupName version kind).run world =
      match (group http address (Resource.normalizeGroup groupName) version).run world with
      | (.error error, after) => (.error error, after)
      | (.ok resources, after) =>
          ((resources.find? fun resource => !resource.isPart && resource.isNamed kind).elim
            (.error (.unknownKind kind (Resource.normalizeGroup groupName))) .ok, after) := by
  simp only [resolve, unknown, run_bind]
  rcases (group http address (Resource.normalizeGroup groupName) version).run world
    with ⟨error | resources, after⟩
  · rfl
  · simp only
    cases resources.find? fun resource => !resource.isPart && resource.isNamed kind <;> rfl

/-- What comes of the resources that a cluster tells. -/
theorem run_resolve_of_told {groupName version kind : String} {world after : σ}
    {resources : List Resource} (unknown : Resource.known? groupName version kind = none)
    (told : (group http address (Resource.normalizeGroup groupName) version).run world =
      (.ok resources, after)) :
    let resolved := ((resolve http address groupName version kind).run world).1
    (∀ resource, resolved = .ok resource ↔
      ∃ before later, resources = before ++ resource :: later ∧ IsListedAs kind resource ∧
        ∀ other ∈ before, ¬ IsListedAs kind other) ∧
    ((∃ error, resolved = .error error) ↔ ∀ resource ∈ resources, ¬ IsListedAs kind resource) := by
  have unaliased : Unaliased resources := by
    apply gives_group _ _ world
    rw [told]
  have answers (resource : Resource) (member : resource ∈ resources) :
      (!resource.isPart && resource.isNamed kind) = true ↔ IsListedAs kind resource :=
    isListedAs_iff (unaliased resource member)
  have first {resource : Resource} := @find?_eq_some_iff_first _ resources
    (fun resource => !resource.isPart && resource.isNamed kind) (IsListedAs kind)
    answers resource
  rw [run_resolve_of_unknown unknown, told]
  simp only [← first]
  cases found : resources.find? fun resource => !resource.isPart && resource.isNamed kind with
  | none =>
      refine ⟨fun resource => by simp, fun _ resource member listed => ?_, fun _ => ⟨_, rfl⟩⟩
      exact List.find?_eq_none.1 found resource member ((answers resource member).2 listed)
  | some resource =>
      refine ⟨fun other => by simp, fun ⟨error, fails⟩ => ?_, fun notOne => ?_⟩
      · cases fails
      · obtain ⟨before, later, rfl, listed, _⟩ := first.1 found
        exact absurd listed (notOne resource (List.mem_append_right _ List.mem_cons_self))

end Discovery

/-! ### Lookup -/

/-- **Lookup is unambiguous.** At most one known resource answers to a group, a version and a kind,
so that the order in which they are looked through does not matter. Neither does how the group is
written nor the case of the kind. A known resource that answers belongs to the group that is meant,
has the version that is given, if one is, and the kind is one of its names. It is found without a
request. Otherwise the cluster is asked, and what comes of it is the first resource it tells that
is no part of objects and has the kind as its plural or its name, or a failure if there is none. -/
theorem Resource.lookup_is_unambiguous (group version kind : String) :
    (known.filter (·.answersTo group version kind)).length ≤ 1 ∧
    (∀ table : List Resource, table.Perm known →
      table.find? (·.answersTo group version kind) = known? group version kind) ∧
    (∀ other written, MeanSame other group → Text.lowercase written = Text.lowercase kind →
      known? other version written = known? group version kind) ∧
    (∀ resource, known? group version kind = some resource ↔
      resource ∈ known ∧ resource.group = normalizeGroup group ∧
        (version ≠ "" → resource.version = version) ∧ Text.lowercase kind ∈ resource.names) ∧
    ∀ {σ : Type} (http : Http (StateM σ)) (address : ServerAddress),
      (∀ resource, known? group version kind = some resource → ∀ noted,
        (Discovery.resolve http.recorded address group version kind).run noted =
          (.ok resource, noted)) ∧
      (known? group version kind = none → ∀ world,
        let discovered := (Discovery.group http address (normalizeGroup group) version).run world
        let resolved := (Discovery.resolve http address group version kind).run world
        resolved.2 = discovered.2 ∧
        (∀ error, discovered.1 = .error error → resolved.1 = .error error) ∧
        ∀ resources, discovered.1 = .ok resources →
          (∀ resource, resolved.1 = .ok resource ↔
            ∃ before later, resources = before ++ resource :: later ∧
              Discovery.IsListedAs kind resource ∧
              ∀ other ∈ before, ¬ Discovery.IsListedAs kind other) ∧
          ((∃ error, resolved.1 = .error error) ↔
            ∀ resource ∈ resources, ¬ Discovery.IsListedAs kind resource)) := by
  have single := length_filter_known_le group version kind
  refine ⟨single, ?_, ?_, ?_, ?_⟩
  · exact fun table perm => find?_eq_of_perm single perm
  · intro other written sameGroup sameKind
    apply Option.ext
    intro resource
    rw [known?_eq_some_iff, known?_eq_some_iff, sameGroup.normalizeGroup_eq, sameKind]
  · exact fun resource => known?_eq_some_iff group version kind
  intro σ http address
  constructor
  · intro resource found noted
    rw [Discovery.resolve, found]
    rfl
  · intro unknown world
    rcases told : (Discovery.group http address (normalizeGroup group) version).run world
      with ⟨failure | resources, after⟩
    · rw [Discovery.run_resolve_of_unknown unknown, told]
      refine ⟨rfl, fun error same => ?_, fun resources same => ?_⟩
      · obtain rfl := Except.error.inj same
        rfl
      · cases same
    · refine ⟨?_, fun error same => ?_, fun others same => ?_⟩
      · rw [Discovery.run_resolve_of_unknown unknown, told]
      · cases same
      · obtain rfl := Except.ok.inj same
        exact Discovery.run_resolve_of_told unknown told

/-! ### A cluster with resources of its own -/

/-- A cluster with two resources in a group of its own, of which one has a part. -/
def bellCluster : Http (StateM Unit) where
  get _ target := pure (.ok ⟨200,
    if target = "/apis" then
      "\x7b\"groups\":[\x7b\"name\":\"k.io\",\"versions\":[" ++
        "\x7b\"groupVersion\":\"k.io/v1\",\"version\":\"v1\"\x7d]\x7d]\x7d"
    else
      "\x7b\"groupVersion\":\"k.io/v1\",\"resources\":[" ++
        "\x7b\"name\":\"bells/scale\",\"kind\":\"Bell\"\x7d," ++
        "\x7b\"name\":\"rings\",\"kind\":\"Ring\"\x7d," ++
        "\x7b\"name\":\"bells\",\"kind\":\"Bell\"\x7d]\x7d"⟩)

/-- The address of this cluster. -/
def bellServer : ServerAddress := ⟨some "http", "cluster", ""⟩

/-- A resource of this cluster. -/
def ownResource (kind plural : String) : Resource :=
  ⟨"k.io", "v1", "k.io/v1", kind, plural, false, []⟩

/-- What the cluster tells of its group. -/
def bellGroup : Json := .object [
  ("name", .string "k.io"),
  ("versions", .array [
    .object [("groupVersion", .string "k.io/v1"), ("version", .string "v1")]])]

/-- What the cluster tells of a resource. -/
def bellEntry (name kind : String) : Json :=
  .object [("kind", .string kind), ("name", .string name)]

/-- What the cluster tells of its resources. -/
def bellList : Json := .object [
  ("groupVersion", .string "k.io/v1"),
  ("resources", .array [
    bellEntry "bells/scale" "Bell", bellEntry "rings" "Ring", bellEntry "bells" "Bell"])]

/-- The resources of this cluster, without their parts. -/
def bellResources : List Resource := [ownResource "Ring" "rings", ownResource "Bell" "bells"]

/-- The cluster tells both of its resources, and leaves out the part. -/
theorem run_group_bellCluster :
    (Discovery.group bellCluster bellServer "k.io" "").run () = (.ok bellResources, ()) := by
  have groups : (bellCluster.getShape bellServer "/apis" Shape.apiGroupList).run () =
      (.ok (.object [("groups", .array [bellGroup])]), ()) := Prod.ext (by decide +kernel) rfl
  have lists : (bellCluster.getShape bellServer "/apis/k.io/v1"
      Shape.apiResourceList).run () = (.ok bellList, ()) :=
    Prod.ext (by decide +kernel) rfl
  have found : Discovery.resources bellList = .ok bellResources := by
    simp only [Discovery.resources, String.contains_char_eq]
    decide +kernel
  have chosen : Discovery.choose "" none [⟨"v1", bellResources⟩] = bellResources := by
    decide +kernel
  have versions : (Discovery.versions bellCluster bellServer
      [("v1", "/apis/k.io/v1")]).run () = (.ok [⟨"v1", bellResources⟩], ()) := by
    simp only [Discovery.versions, run_bind, lists, found]
    rfl
  have named : (Discovery.namedGroup bellCluster bellServer "" bellGroup).run () =
      (.ok bellResources, ()) := by
    change (Discovery.versions bellCluster bellServer
      [("v1", "/apis/k.io/v1")] >>= _).run () = _
    rw [run_bind, versions]
    exact congrArg (fun resources => (Except.ok resources, ())) chosen
  rw [Discovery.group, run_bind, groups]
  change (Discovery.namedGroups bellCluster bellServer "" none [bellGroup] >>= _).run () = _
  rw [Discovery.namedGroups, run_bind, run_bind, named]
  rfl

/-- Pods are known under each of their names in whatever order the known resources are looked
through, and no cluster is asked for them. Bells are the first resource of that kind which the
cluster tells, and horns are none. -/
theorem Resource.lookup_is_unambiguous_of_pods_and_bells :
    let pod := ofGroup "" "Pod" "pods" true ["pod", "po"]
    let resolve (kind : String) :=
      (Discovery.resolve bellCluster bellServer "k.io" "" kind).run ()
    known? "core" "v1" "PO" = some pod ∧
      known.reverse.find? (·.answersTo "core" "v1" "PO") = some pod ∧
      known? "\t" "v1" "Po" = some pod ∧
      (Discovery.resolve bellCluster.recorded bellServer "core" "v1" "PO").run ⟨(), []⟩ =
        (.ok pod, ⟨(), []⟩) ∧
      (resolve "BELL").1 = .ok (ownResource "Bell" "bells") ∧
      ∃ error, (resolve "horns").1 = .error error := by
  intro pod resolve
  obtain ⟨_, anyOrder, anySpelling, answers, asking⟩ := lookup_is_unambiguous "core" "v1" "PO"
  have known : known? "core" "v1" "PO" = some pod := (answers pod).2 (by decide +kernel)
  have sameGroup : MeanSame "\t" "core" := .inr ⟨by decide +kernel, by decide +kernel⟩
  have sameKind : Text.lowercase "Po" = Text.lowercase "PO" := by decide +kernel
  obtain ⟨_, _, _, _, askingBells⟩ := lookup_is_unambiguous "k.io" "" "BELL"
  obtain ⟨_, _, bells⟩ :=
    (askingBells bellCluster bellServer).2 (by decide +kernel) ()
  obtain ⟨_, _, _, _, askingHorns⟩ := lookup_is_unambiguous "k.io" "" "horns"
  obtain ⟨_, _, horns⟩ :=
    (askingHorns bellCluster bellServer).2 (by decide +kernel) ()
  have told := congrArg Prod.fst run_group_bellCluster
  refine ⟨known, (anyOrder _ (List.reverse_perm _)).trans known,
    (anySpelling "\t" "Po" sameGroup sameKind).trans known,
    (asking bellCluster bellServer).1 pod known ⟨(), []⟩, ?_, ?_⟩
  · apply ((bells _ told).1 _).2
    exact ⟨[ownResource "Ring" "rings"], [], rfl, by decide +kernel, by decide +kernel⟩
  · apply (horns _ told).2.2
    decide +kernel

end ClusterHosts
