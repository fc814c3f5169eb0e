import ClusterHosts.Proofs.Attributes
import ClusterHosts.Proofs.EffectiveInputs
import ClusterHosts.Proofs.Filter
import ClusterHosts.Text.Basic

/-! # Canonical queries

What a resolution asks for does not show how its arguments were spelled: the query is known from the
sets of names and labels that the arguments give, and the labels are found again in the text that is
sent to the cluster for them, as long as none of them has a comma
(`Inventory.Resolution.queries_are_canonical`).
-/

namespace ClusterHosts

/-! ### Labels as one text -/

/-- Joining parts by a mark is what the library calls intercalating it. -/
theorem Text.intercalate_eq_join (mark : Char) (parts : List (List Char)) :
    [mark].intercalate parts = join mark parts := by
  induction parts with
  | nil => rfl
  | cons part rest ih =>
      cases rest with
      | nil => simp [join]
      | cons next rest => simp [join, ← ih]

namespace Query

variable {query other : Query}

/-- There is no selector if there are no labels. -/
theorem labelSelector?_eq_none_iff : query.labelSelector? = none ↔ query.labels = [] := by
  rw [labelSelector?, ite_eq_left_iff, List.isEmpty_iff]
  simp

/-- Labels without commas are the parts of their text. -/
theorem splitText_labelSelector {selector : String} (given : query.labelSelector? = some selector)
    (free : ∀ label ∈ query.labels, ',' ∉ label.toList) :
    Text.splitText ',' selector = query.labels := by
  have something : query.labels ≠ [] := fun nothing => by
    rw [labelSelector?_eq_none_iff.2 nothing] at given
    cases given
  have joined : selector.toList = Text.join ',' (query.labels.map String.toList) := by
    rw [labelSelector?, if_neg (by simpa using something)] at given
    rw [← Option.some.inj given, String.toList_intercalate, ← Text.intercalate_eq_join]
    rfl
  rw [Text.splitText, joined, Text.split_join (by simpa using something) (by simpa using free),
    List.map_map]
  simp [Function.comp_def]

/-- Labels without commas are known from their text. -/
theorem labels_eq_of_labelSelector (free : ∀ label ∈ query.labels, ',' ∉ label.toList)
    (also : ∀ label ∈ other.labels, ',' ∉ label.toList)
    (same : query.labelSelector? = other.labelSelector?) : query.labels = other.labels := by
  cases given : query.labelSelector? with
  | none =>
      rw [labelSelector?_eq_none_iff.1 given, labelSelector?_eq_none_iff.1 (same.symm.trans given)]
  | some selector =>
      rw [← splitText_labelSelector given free,
        ← splitText_labelSelector (same.symm.trans given) also]

/-- A query for all versions, namespaces and containers, whose names and labels are in the order of
their bytes, each once, and hold more than blanks. -/
structure IsCanonical (query : Query) : Prop where
  names : query.names.Pairwise fun first second => Text.utf8 first < Text.utf8 second
  labels : query.labels.Pairwise fun first second => Text.utf8 first < Text.utf8 second
  visible : ∀ text ∈ query.names ++ query.labels, Text.isBlankText text = false
  version : query.version = ""
  namespaces : query.namespaces = []
  containers : query.containers = []

end Query

/-- A set keeps its texts in the order of their bytes. -/
theorem TextSet.increasing_utf8 (set : TextSet) :
    set.texts.Pairwise fun first second => Text.utf8 first < Text.utf8 second :=
  set.increasing.imp Text.utf8_lt_utf8_iff.2

/-! ### The query of a resolution -/

namespace Inventory.Resolution

variable {σ τ : Type} (resolution : Resolution σ)

/-- The arguments give a name: under `nodes` if that is given, and else under `names`. -/
def GivesName (name : String) : Prop :=
  TextSet.Gives (resolution.arguments.get? (NodeFilter.namesKey resolution.arguments)) name

/-- The arguments give a label. -/
def GivesLabel (label : String) : Prop :=
  TextSet.Gives (resolution.arguments.get? "labels") label

variable {resolution}

/-- A connected resolution asks one query, if its arguments stand for a filter. -/
theorem queries_of_connected (connected : resolution.searcher?.isSome) :
    resolution.run.queries = (resolution.filter.toOption.map nodeQuery).toList := by
  obtain ⟨searcher, found⟩ := Option.isSome_iff_exists.1 connected
  rw [queries_run, query?, found, Option.bind_some]

/-- What a resolution asks is the query of its filter. -/
theorem exists_filter_of_mem_queries {query : Query} (asked : query ∈ resolution.run.queries) :
    ∃ filter, resolution.filter = .ok filter ∧ query = nodeQuery filter := by
  rw [queries_run, Option.mem_toList, query?] at asked
  obtain ⟨_, _, found⟩ := Option.bind_eq_some_iff.1 asked
  obtain ⟨filter, read, rfl⟩ := Option.map_eq_some_iff.1 found
  cases filtered : resolution.filter with
  | error error =>
      rw [filtered] at read
      cases read
  | ok other =>
      rw [filtered] at read
      cases read
      exact ⟨_, rfl, rfl⟩

/-- The filter has the names and the labels that are given. -/
theorem mem_iff_of_filter {filter : NodeFilter} (read : resolution.filter = .ok filter) :
    (∀ name, name ∈ filter.names.texts ↔ resolution.GivesName name) ∧
      ∀ label, label ∈ filter.labels.texts ↔ resolution.GivesLabel label := by
  obtain ⟨readNames, readLabels⟩ := NodeFilter.ofArguments_eq_ok_iff.1 read
  exact ⟨(TextSet.ofValue?_eq_ok_iff.1 readNames).2, (TextSet.ofValue?_eq_ok_iff.1 readLabels).2⟩

/-- The query of a filter is canonical. -/
theorem isCanonical_nodeQuery {filter : NodeFilter} (read : resolution.filter = .ok filter) :
    (nodeQuery filter).IsCanonical := by
  obtain ⟨names, labels⟩ := mem_iff_of_filter read
  have visible {value : Option Value} {text : String} (gives : TextSet.Gives value text) :
      Text.isBlankText text = false :=
    Text.isBlankText_of_hasVisibleEnds gives.hasVisibleEnds.1 gives.hasVisibleEnds.2
  refine ⟨filter.names.increasing_utf8, filter.labels.increasing_utf8, fun text member => ?_, rfl,
    rfl, rfl⟩
  rcases List.mem_append.1 member with member | member
  · exact visible ((names text).1 member)
  · exact visible ((labels text).1 member)

/-- Filters ask for the same exactly if they hold the same names and labels. -/
theorem nodeQuery_eq_iff {first second : NodeFilter} :
    nodeQuery first = nodeQuery second ↔
      (∀ name, name ∈ first.names.texts ↔ name ∈ second.names.texts) ∧
        ∀ label, label ∈ first.labels.texts ↔ label ∈ second.labels.texts := by
  constructor
  · intro same
    have names : first.names.texts = second.names.texts := congrArg Query.names same
    have labels : first.labels.texts = second.labels.texts := congrArg Query.labels same
    simp [names, labels]
  · rintro ⟨names, labels⟩
    rw [nodeQuery, TextSet.ext names, TextSet.ext labels, nodeQuery]

/-- **Queries are canonical.** A connected resolution asks one query, if its arguments stand for a
filter. The query is in canonical form. Two queries are the same exactly if the arguments give the
same names and the same labels, in whatever way and order. There is a text for the labels if there
are labels, and if none has a comma, they are its parts between commas, so that they are known from
it. -/
theorem queries_are_canonical :
    (resolution.searcher?.isSome →
      ((∃ query, resolution.run.queries = [query]) ↔ ∃ filter, resolution.filter = .ok filter)) ∧
    ∀ query ∈ resolution.run.queries,
      query.IsCanonical ∧
      (query.labelSelector? = none ↔ ∀ label, ¬ resolution.GivesLabel label) ∧
      (∀ selector, query.labelSelector? = some selector →
        (∀ label ∈ query.labels, ',' ∉ label.toList) →
        Text.splitText ',' selector = query.labels) ∧
      ∀ other : Resolution τ, ∀ also ∈ other.run.queries,
        (query = also ↔ (∀ name, resolution.GivesName name ↔ other.GivesName name) ∧
          ∀ label, resolution.GivesLabel label ↔ other.GivesLabel label) ∧
        ((∀ label ∈ query.labels, ',' ∉ label.toList) →
          (∀ label ∈ also.labels, ',' ∉ label.toList) →
          query.labelSelector? = also.labelSelector? → query.labels = also.labels) := by
  refine ⟨fun connected => ?_, fun query asked => ?_⟩
  · rw [queries_of_connected connected]
    cases resolution.filter <;> simp [Except.toOption]
  · obtain ⟨filter, read, rfl⟩ := exists_filter_of_mem_queries asked
    obtain ⟨names, labels⟩ := mem_iff_of_filter read
    refine ⟨isCanonical_nodeQuery read, ?_, fun selector given free =>
      Query.splitText_labelSelector given free, fun other also askedAlso => ?_⟩
    · rw [Query.labelSelector?_eq_none_iff, List.eq_nil_iff_forall_not_mem]
      exact forall_congr' fun label => not_congr (labels label)
    · obtain ⟨others, readAlso, rfl⟩ := exists_filter_of_mem_queries askedAlso
      obtain ⟨otherNames, otherLabels⟩ := mem_iff_of_filter readAlso
      refine ⟨?_, Query.labels_eq_of_labelSelector⟩
      simp only [nodeQuery_eq_iff, names, labels, otherNames, otherLabels]

/-- Names in a text, and under the other key in a list with blanks and a repetition, are asked for
alike, in the order of their bytes. -/
theorem queries_are_canonical_of_two_spellings :
    let session : Session := { kube := some ⟨.ofText "/kube", none⟩ }
    let first : Resolution Nat := ⟨Script.vacant, session,
      .ofList [("names", .string "😀 a  \uffff"), ("labels", .string "y x=1")], 0⟩
    let second : Resolution Nat := ⟨Script.vacant, session,
      .ofList [("nodes", .ofTexts ["a\t", "", "\uffff", " 😀", "a"]),
        ("labels", .ofTexts ["x=1", " y"])], 0⟩
    let query : Query :=
      { group := "core", kind := "nodes", names := ["a", "\uffff", "😀"], labels := ["x=1", "y"] }
    first.searcher?.isSome ∧ first.run.queries = [query] ∧ second.run.queries = [query] ∧
      query.IsCanonical ∧ (∀ name, first.GivesName name ↔ second.GivesName name) ∧
      query.labelSelector? = some "x=1,y" ∧ (∀ label ∈ query.labels, ',' ∉ label.toList) ∧
      Text.splitText ',' "x=1,y" = query.labels := by
  intro session first second query
  have connected : first.searcher?.isSome := rfl
  have asked : first.run.queries = [query] := rfl
  have also : second.run.queries = [query] := rfl
  have joined : query.labelSelector? = some "x=1,y" := by decide
  have free : ∀ label ∈ query.labels, ',' ∉ label.toList := by decide
  have member : query ∈ first.run.queries := by rw [asked]; exact List.mem_singleton_self query
  have memberAlso : query ∈ second.run.queries := by rw [also]; exact List.mem_singleton_self query
  obtain ⟨canonical, _, parts, known⟩ := (@queries_are_canonical Nat Nat first).2 query member
  exact ⟨connected, asked, also, canonical, ((known second query memberAlso).1.1 rfl).1, joined,
    free, parts _ joined free⟩

end Inventory.Resolution

end ClusterHosts
