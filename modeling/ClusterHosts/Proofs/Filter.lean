import ClusterHosts.Search
import ClusterHosts.Proofs.Attributes
import ClusterHosts.Value
import ClusterHosts.Proofs.Words

/-! # What filters are read from arguments

An argument stands for the words of a text or for the cores of the texts in a list, and nothing else
that is given stands for a set. A filter has what the arguments stand for, and arguments that stand
for no sets are refused: the names before the labels, and a list for the first of its values that is
no text (`NodeFilter.filter_of_arguments`).
-/

namespace ClusterHosts

/-! ### Sets -/

namespace Ordered

/-- Putting texts in order loses none and adds none. -/
theorem mem_ofList {entry : String} {entries : List String} :
    entry ∈ ofList id entries ↔ entry ∈ entries := by
  suffices keeps : ∀ sorted : List String, Increasing id sorted →
      (entry ∈ entries.foldl (fun sorted entry => insert id entry sorted) sorted ↔
        entry ∈ sorted ∨ entry ∈ entries) by
    simpa [ofList] using keeps [] increasing_nil
  induction entries with
  | nil => simp
  | cons head tail ih =>
      intro sorted increasing
      rw [List.foldl_cons, ih _ (increasing_insert head increasing), mem_insert increasing,
        List.mem_cons]
      by_cases same : entry = head
      · simp [same]
      · simp [same]

/-- Lists in order are known from what is in them. -/
theorem eq_of_mem_iff {first second : List String} (increasing : Increasing id first)
    (also : Increasing id second) (same : ∀ entry, entry ∈ first ↔ entry ∈ second) :
    first = second := by
  have distinct {entries : List String} (increasing : Increasing id entries) : entries.Nodup :=
    increasing.imp fun less => String.ne_of_lt less
  have perm := (List.perm_ext_iff_of_nodup (distinct increasing) (distinct also)).2 same
  exact eq_of_perm increasing also perm

end Ordered

namespace TextSet

/-- A set of texts has the texts that it is made of. -/
theorem mem_ofList {entry : String} {texts : List String} :
    entry ∈ (ofList texts).texts ↔ entry ∈ texts :=
  Ordered.mem_ofList

/-- A set is known from what is in it. -/
theorem ext {first second : TextSet} (same : ∀ entry, entry ∈ first.texts ↔ entry ∈ second.texts) :
    first = second := by
  obtain ⟨texts, increasing⟩ := first
  obtain ⟨others, also⟩ := second
  cases Ordered.eq_of_mem_iff increasing also same
  rfl

end TextSet

/-! ### Values that stand for sets -/

namespace TextSet

/-- A value, which may be missing, gives an entry of a set: the entry is a word of it if it is a
text, or what lies between the blanks at the ends of a text in it if it is a list. -/
def Gives : Option Value → String → Prop
  | some (.string text), entry => Text.IsRun text.toList entry.toList
  | some (.list values), entry =>
      entry ≠ "" ∧ ∃ text, .string text ∈ values ∧ Text.IsCore text.toList entry.toList
  | _, _ => False

/-- A value stands for a set: it is missing, `None`, a text, or a list of texts only. -/
def IsReadable : Option Value → Prop
  | none | some .none | some (.string _) => True
  | some (.list values) => ∀ value ∈ values, ∃ text, value = .string text
  | some _ => False

/-- A value holds nothing but blanks. -/
def IsVoid : Option Value → Prop
  | some (.string text) => Text.isBlankText text = true
  | some (.list values) => ∀ text, .string text ∈ values → Text.isBlankText text = true
  | _ => True

/-- A value is the first in a list that is not a text. -/
inductive FirstOdd : List Value → Value → Prop where
  | here {other : Value} {values : List Value} (odd : other.typeName ≠ "string") :
      FirstOdd (other :: values) other
  | behind {text : String} {values : List Value} {other : Value} (later : FirstOdd values other) :
      FirstOdd (.string text :: values) other

/-- What is wrong with a value that stands for no set. -/
inductive Refused : Option Value → Complaint → Prop where
  | wrongType {value : Value} (odd : value.typeName ∉ ["NoneType", "string", "list"]) :
      Refused (some value) (.wrongType "string or list of strings" value.typeName)
  | wrongElement {values : List Value} {other : Value} (odd : FirstOdd values other) :
      Refused (some (.list values)) (.wrongElement other.typeName)

/-- The items of a list are texts if all of them are. -/
theorem texts?_eq_ok_iff {values : List Value} {texts : List String} :
    texts? values = .ok texts ↔ values = texts.map .string := by
  induction values generalizing texts with
  | nil => cases texts <;> simp [texts?]
  | cons value values ih =>
      cases value with
      | string text =>
          rw [texts?, Outcome.map_eq_ok]
          constructor
          · rintro ⟨others, read, rfl⟩
            rw [ih.1 read, List.map_cons]
          · intro same
            cases texts with
            | nil => cases same
            | cons first others =>
                obtain ⟨head, tail⟩ := List.cons.inj same
                cases head
                exact ⟨others, ih.2 tail, rfl⟩
      | _ => cases texts <;> simp [texts?]

theorem exists_texts?_eq_ok_iff {values : List Value} :
    (∃ texts, texts? values = .ok texts) ↔ ∀ value ∈ values, ∃ text, value = .string text := by
  simp only [texts?_eq_ok_iff]
  constructor
  · rintro ⟨texts, rfl⟩ value member
    obtain ⟨text, _, rfl⟩ := List.mem_map.1 member
    exact ⟨text, rfl⟩
  · intro all
    induction values with
    | nil => exact ⟨[], rfl⟩
    | cons value values ih =>
        obtain ⟨text, rfl⟩ := all value List.mem_cons_self
        obtain ⟨texts, rfl⟩ := ih fun other member => all other (List.mem_cons_of_mem _ member)
        exact ⟨text :: texts, rfl⟩

/-- A list is refused for its first item that is no text. -/
theorem texts?_eq_error_iff {values : List Value} {found : String} :
    texts? values = .error found ↔ ∃ other, FirstOdd values other ∧ found = other.typeName := by
  induction values with
  | nil =>
      constructor
      · intro wrong
        cases wrong
      · rintro ⟨other, odd, _⟩
        cases odd
  | cons value values ih =>
      cases value with
      | string text =>
          rw [texts?, Outcome.map_eq_error, ih]
          constructor
          · rintro ⟨other, odd, rfl⟩
            exact ⟨other, .behind odd, rfl⟩
          · rintro ⟨other, odd, rfl⟩
            cases odd with
            | here odd => exact absurd rfl odd
            | behind later => exact ⟨other, later, rfl⟩
      | _ =>
          constructor
          · rintro ⟨⟩
            exact ⟨_, .here (by simp [Value.typeName]), rfl⟩
          · rintro ⟨other, odd, rfl⟩
            cases odd
            rfl

variable {function key : String} {value : Option Value}

/-- What trimming leaves of the texts in a list is what the list gives. -/
theorem mem_entries_iff {texts : List String} {entry : String} :
    entry ∈ (texts.map Text.trim).filter (fun text => !text.isEmpty) ↔
      Gives (some (.list (texts.map .string))) entry := by
  simp only [Gives, List.mem_filter, List.mem_map, Text.isCore_toList_iff, Bool.not_eq_true',
    String.isEmpty_eq_false_iff, Value.string.injEq, exists_eq_right]
  constructor
  · rintro ⟨⟨text, member, rfl⟩, something⟩
    exact ⟨something, text, member, rfl⟩
  · rintro ⟨something, text, member, rfl⟩
    exact ⟨⟨text, member, rfl⟩, something⟩

/-- A value is read as the set of what it gives, if it stands for one. -/
theorem ofValue?_eq_ok_iff {set : TextSet} :
    ofValue? function key value = .ok set ↔
      IsReadable value ∧ ∀ entry, entry ∈ set.texts ↔ Gives value entry := by
  have reads (texts : List String) (given : ∀ entry, entry ∈ texts ↔ Gives value entry)
      (readable : IsReadable value) :
      (.ok (ofList texts) : Except CallError TextSet) = .ok set ↔
        IsReadable value ∧ ∀ entry, entry ∈ set.texts ↔ Gives value entry := by
    constructor
    · rintro ⟨⟩
      exact ⟨readable, fun entry => by rw [mem_ofList, given]⟩
    · rintro ⟨_, same⟩
      rw [TextSet.ext fun entry => mem_ofList.trans ((given entry).trans (same entry).symm)]
  have refuses {error : CallError} (unreadable : ¬ IsReadable value) :
      (.error error : Except CallError TextSet) = .ok set ↔
        IsReadable value ∧ ∀ entry, entry ∈ set.texts ↔ Gives value entry := by
    simp [unreadable]
  cases value with
  | none => exact reads [] (by simp [Gives]) trivial
  | some value =>
      cases value with
      | none => exact reads [] (by simp [Gives]) trivial
      | string text => exact reads _ (fun _ => Text.mem_words_iff) trivial
      | list values =>
          rw [ofValue?, ofValue]
          cases read : texts? values with
          | ok texts =>
              obtain rfl := texts?_eq_ok_iff.1 read
              exact reads _ (fun _ => mem_entries_iff) (exists_texts?_eq_ok_iff.1 ⟨_, read⟩)
          | error found =>
              refine refuses fun readable => ?_
              obtain ⟨texts, also⟩ := exists_texts?_eq_ok_iff.2 readable
              rw [read] at also
              cases also
      | _ => exact refuses fun readable => readable

/-- What is refused cannot be read. -/
theorem not_isReadable_of_refused {complaint : Complaint} (refused : Refused value complaint) :
    ¬ IsReadable value := by
  intro readable
  cases refused with
  | @wrongType value odd =>
      cases value with
      | none | string | list => exact odd (by simp [Value.typeName])
      | bool | int | struct => exact readable
  | wrongElement odd =>
      obtain ⟨texts, read⟩ := exists_texts?_eq_ok_iff.2 readable
      rw [texts?_eq_error_iff.2 ⟨_, odd, rfl⟩] at read
      cases read

/-- A value is refused for what is wrong with it, under the key that it was given under. -/
theorem ofValue?_eq_error_iff {error : CallError} :
    ofValue? function key value = .error error ↔
      ∃ complaint, Refused value complaint ∧ error = .badArgument function key complaint := by
  have reads {set : TextSet} (readable : IsReadable value) :
      (.ok set : Except CallError TextSet) = .error error ↔
        ∃ complaint, Refused value complaint ∧ error = .badArgument function key complaint := by
    refine iff_of_false (fun wrong => by cases wrong) ?_
    rintro ⟨complaint, refused, _⟩
    exact not_isReadable_of_refused refused readable
  cases value with
  | none => exact reads trivial
  | some value =>
      cases value with
      | none | string => exact reads trivial
      | list values =>
          rw [ofValue?, ofValue]
          cases read : texts? values with
          | ok texts => exact reads (exists_texts?_eq_ok_iff.1 ⟨_, read⟩)
          | error found =>
              obtain ⟨other, odd, rfl⟩ := texts?_eq_error_iff.1 read
              constructor
              · rintro ⟨⟩
                exact ⟨_, .wrongElement odd, rfl⟩
              · rintro ⟨complaint, refused, rfl⟩
                cases refused with
                | wrongType odd => exact absurd (by simp [Value.typeName]) odd
                | wrongElement odd =>
                    rw [texts?_eq_error_iff.2 ⟨_, odd, rfl⟩] at read
                    rw [Except.error.inj read]
      | bool | int | struct =>
          constructor
          · rintro ⟨⟩
            exact ⟨_, .wrongType (by simp [Value.typeName]), rfl⟩
          · rintro ⟨complaint, refused, rfl⟩
            cases refused
            rfl

/-- A set is read from a value that can be read, and from no other. -/
theorem exists_ofValue?_iff :
    (∃ set, ofValue? function key value = .ok set) ↔ IsReadable value := by
  constructor
  · rintro ⟨set, read⟩
    exact (ofValue?_eq_ok_iff.1 read).1
  · intro readable
    cases read : ofValue? function key value with
    | ok set => exact ⟨set, rfl⟩
    | error error =>
        obtain ⟨complaint, refused, _⟩ := ofValue?_eq_error_iff.1 read
        exact absurd readable (not_isReadable_of_refused refused)

/-! ### What is given -/

/-- What a value gives is not empty and has no blanks at its ends. -/
theorem Gives.hasVisibleEnds {entry : String} (gives : Gives value entry) :
    entry ≠ "" ∧ Text.HasVisibleEnds entry.toList := by
  unfold Gives at gives
  split at gives
  · refine ⟨?_, gives.hasVisibleEnds⟩
    rintro rfl
    exact gives.nonempty rfl
  · obtain ⟨something, _, _, isCore⟩ := gives
    exact ⟨something, isCore.ends⟩
  · exact gives.elim

/-- A value gives no entries if it is void. -/
theorem forall_not_gives_iff : (∀ entry, ¬ Gives value entry) ↔ IsVoid value := by
  unfold IsVoid
  split
  · rw [← Text.words_eq_nil_iff, List.eq_nil_iff_forall_not_mem]
    simp only [Text.mem_words_iff, Gives]
  · simp only [Gives, Text.isCore_toList_iff, ← Text.trim_eq_empty_iff]
    constructor
    · intro nothing text member
      exact Classical.byContradiction fun something =>
        nothing (Text.trim text) ⟨something, text, member, rfl⟩
    · rintro blank _ ⟨something, text, member, rfl⟩
      exact something (blank text member)
  · next noText noList =>
      refine iff_of_true (fun entry gives => ?_) trivial
      unfold Gives at gives
      split at gives
      · exact noText _ rfl
      · exact noList _ rfl
      · exact gives

/-- A list of trimmed texts gives these texts. -/
theorem gives_ofTexts_iff {texts : List String} {entry : String}
    (trimmed : ∀ text ∈ texts, text ≠ "" ∧ Text.HasVisibleEnds text.toList) :
    Gives (some (.ofTexts texts)) entry ↔ entry ∈ texts := by
  have core {text : String} (member : text ∈ texts) : Text.trim text = text :=
    (Text.isCore_toList_iff.1 (trimmed text member).2.isCore).symm
  rw [Value.ofTexts, ← mem_entries_iff, List.mem_filter, List.mem_map]
  constructor
  · rintro ⟨⟨text, member, rfl⟩, _⟩
    rwa [core member]
  · intro member
    exact ⟨⟨entry, member, core member⟩, by simp [(trimmed entry member).1]⟩

theorem isReadable_ofTexts (texts : List String) : IsReadable (some (.ofTexts texts)) := by
  intro value member
  obtain ⟨text, _, rfl⟩ := List.mem_map.1 member
  exact ⟨text, rfl⟩

/-- A set that was read is read again from the list of its texts, under every key. -/
theorem ofValue?_ofTexts {set : TextSet} (other : String)
    (read : ofValue? function key value = .ok set) :
    ofValue? function other (some (.ofTexts set.texts)) = .ok set := by
  have gives := (ofValue?_eq_ok_iff.1 read).2
  refine ofValue?_eq_ok_iff.2 ⟨isReadable_ofTexts _, fun entry => ?_⟩
  rw [gives_ofTexts_iff fun text member => ((gives text).1 member).hasVisibleEnds]

/-- A text is read as the list of its words is. -/
theorem ofValue?_string (function key text : String) :
    ofValue? function key (some (.string text)) =
      ofValue? function key (some (.ofTexts (Text.words text))) := by
  have trimmed (word : String) (member : word ∈ Text.words text) :=
    (show Gives (some (.string text)) word from Text.mem_words_iff.1 member).hasVisibleEnds
  symm
  refine ofValue?_eq_ok_iff.2 ⟨isReadable_ofTexts _, fun entry => ?_⟩
  rw [gives_ofTexts_iff trimmed, mem_ofList]

end TextSet

/-! ### Filters -/

namespace NodeFilter

open TextSet (Gives IsReadable IsVoid Refused)

variable {function : String} {arguments : Attributes}

/-- A filter is read if both of its sets are. -/
theorem ofArguments_eq_ok_iff {filter : NodeFilter} :
    ofArguments function arguments = .ok filter ↔
      TextSet.ofValue? function (namesKey arguments) (arguments.get? (namesKey arguments)) =
          .ok filter.names ∧
        TextSet.ofValue? function "labels" (arguments.get? "labels") = .ok filter.labels := by
  rw [ofArguments, Outcome.bind_eq_ok]
  simp only [Outcome.bind_eq_ok]
  constructor
  · rintro ⟨names, readNames, labels, readLabels, ⟨⟩⟩
    exact ⟨readNames, readLabels⟩
  · rintro ⟨readNames, readLabels⟩
    exact ⟨_, readNames, _, readLabels, rfl⟩

/-- The names are refused before the labels are looked at. -/
theorem ofArguments_eq_error_iff {error : CallError} :
    ofArguments function arguments = .error error ↔
      TextSet.ofValue? function (namesKey arguments) (arguments.get? (namesKey arguments)) =
          .error error ∨
        (∃ names, TextSet.ofValue? function (namesKey arguments)
          (arguments.get? (namesKey arguments)) = .ok names) ∧
        TextSet.ofValue? function "labels" (arguments.get? "labels") = .error error := by
  rw [ofArguments, Outcome.bind_eq_error]
  refine or_congr Iff.rfl ?_
  simp only [Outcome.bind_eq_error]
  constructor
  · rintro ⟨names, readNames, refused | ⟨labels, _, ⟨⟩⟩⟩
    exact ⟨⟨names, readNames⟩, refused⟩
  · rintro ⟨⟨names, readNames⟩, refused⟩
    exact ⟨names, readNames, .inl refused⟩

/-- Arguments are read alike if the one in which they differ is read alike under every key. -/
theorem ofArguments_set_congr (name : String) {value other : Value}
    (alike : ∀ key, TextSet.ofValue? function key (some value) =
      TextSet.ofValue? function key (some other)) :
    ofArguments function (arguments.set name value) =
      ofArguments function (arguments.set name other) := by
  have key : namesKey (arguments.set name value) = namesKey (arguments.set name other) := by
    simp only [namesKey, Attributes.contains, Attributes.get?_set]
    by_cases same : "nodes" = name <;> simp [same]
  have found (key : String) :
      TextSet.ofValue? function key ((arguments.set name value).get? key) =
        TextSet.ofValue? function key ((arguments.set name other).get? key) := by
    rw [Attributes.get?_set, Attributes.get?_set]
    split
    · exact alike key
    · rfl
  rw [ofArguments, ofArguments, key, found, found]

/-- Both sets are found where they were given. -/
theorem get?_ofList_of_key {name : String} (key : name ∈ ["names", "nodes"])
    (names labels : Value) :
    let arguments := Attributes.ofList [(name, names), ("labels", labels)]
    namesKey arguments = name ∧ arguments.get? name = some names ∧
      arguments.get? "labels" = some labels := by
  intro arguments
  rw [List.mem_cons, List.mem_singleton] at key
  have distinct : ([(name, names), ("labels", labels)].map Prod.fst).Nodup := by
    rcases key with rfl | rfl <;> simp
  have found (other : String) :
      arguments.get? other = [(name, names), ("labels", labels)].lookup other :=
    Attributes.get?_ofList distinct other
  rw [namesKey, Attributes.contains, found, found, found]
  rcases key with rfl | rfl <;> exact ⟨rfl, rfl, rfl⟩

/-- **Filters of arguments.** The names are read from `nodes` where it is given, and else from
`names`. There is a filter exactly if both values stand for sets. It has what they give, and no
names exactly if nothing but blanks is given for them. Its texts need no trimming, so that the lists
of them are read as the same filter. Where there is no filter, a value is refused under its key,
that of the names before that of the labels. A text is read as the list of its words. -/
theorem filter_of_arguments (function : String) (arguments : Attributes) :
    let key := if arguments.contains "nodes" then "nodes" else "names"
    let selected := arguments.get? key
    let labels := arguments.get? "labels"
    ((∃ filter, ofArguments function arguments = .ok filter) ↔
      IsReadable selected ∧ IsReadable labels) ∧
    (∀ filter, ofArguments function arguments = .ok filter →
      (∀ entry, entry ∈ filter.names.texts ↔ Gives selected entry) ∧
      (∀ entry, entry ∈ filter.labels.texts ↔ Gives labels entry) ∧
      (∀ entry ∈ filter.names.texts ++ filter.labels.texts,
        entry ≠ "" ∧ Text.HasVisibleEnds entry.toList) ∧
      (filter.names.texts = [] ↔ IsVoid selected) ∧
      ∀ name ∈ ["names", "nodes"],
        ofArguments function (.ofList [(name, .ofTexts filter.names.texts),
          ("labels", .ofTexts filter.labels.texts)]) = .ok filter) ∧
    (∀ error, ofArguments function arguments = .error error ↔
      (∃ complaint, Refused selected complaint ∧ error = .badArgument function key complaint) ∨
      IsReadable selected ∧
        ∃ complaint, Refused labels complaint ∧ error = .badArgument function "labels" complaint) ∧
    ∀ name text, ofArguments function (arguments.set name (.string text)) =
      ofArguments function (arguments.set name (.ofTexts (Text.words text))) := by
  intro key selected labels
  refine ⟨?_, ?_, ?_, ?_⟩
  · have readable (key : String) (value : Option Value) : TextSet.IsReadable value ↔
        ∃ set, TextSet.ofValue? function key value = .ok set := TextSet.exists_ofValue?_iff.symm
    rw [readable key, readable "labels"]
    constructor
    · rintro ⟨filter, read⟩
      obtain ⟨readNames, readLabels⟩ := ofArguments_eq_ok_iff.1 read
      exact ⟨⟨_, readNames⟩, ⟨_, readLabels⟩⟩
    · rintro ⟨⟨names, readNames⟩, ⟨labels, readLabels⟩⟩
      exact ⟨⟨names, labels⟩, ofArguments_eq_ok_iff.2 ⟨readNames, readLabels⟩⟩
  · intro filter read
    obtain ⟨readNames, readLabels⟩ := ofArguments_eq_ok_iff.1 read
    have names := (TextSet.ofValue?_eq_ok_iff.1 readNames).2
    have labels := (TextSet.ofValue?_eq_ok_iff.1 readLabels).2
    refine ⟨names, labels, ?_, ?_, ?_⟩
    · intro entry member
      rcases List.mem_append.1 member with member | member
      · exact ((names entry).1 member).hasVisibleEnds
      · exact ((labels entry).1 member).hasVisibleEnds
    · rw [← TextSet.forall_not_gives_iff, List.eq_nil_iff_forall_not_mem]
      exact forall_congr' fun entry => not_congr (names entry)
    · intro name member
      obtain ⟨key, foundNames, foundLabels⟩ := get?_ofList_of_key member
        (.ofTexts filter.names.texts) (.ofTexts filter.labels.texts)
      rw [ofArguments_eq_ok_iff, key, foundNames, foundLabels]
      exact ⟨TextSet.ofValue?_ofTexts name readNames, TextSet.ofValue?_ofTexts "labels" readLabels⟩
  · intro error
    rw [ofArguments_eq_error_iff, TextSet.exists_ofValue?_iff, TextSet.ofValue?_eq_error_iff,
      TextSet.ofValue?_eq_error_iff]
    rfl
  · exact fun name text => ofArguments_set_congr name (TextSet.ofValue?_string function · text)

/-- A number under `names` does not matter beside `nodes`, nor do blanks and repetitions, and of the
two values that are no texts in the second list the first is to blame. -/
theorem filter_of_arguments_of_both_keys :
    let arguments := Attributes.ofList [("names", .ofNat 7),
      ("nodes", .ofTexts [" b", "\u2003", "a\t", "b"]), ("labels", .string " y=1  x ")]
    let filter : NodeFilter := ⟨.ofList ["a", "b"], .ofList ["x", "y=1"]⟩
    let others := arguments.set "nodes" (.list [.string " ", .none, .bool true])
    ofArguments "f" arguments = .ok filter ∧
      filter.names.texts = ["a", "b"] ∧ filter.labels.texts = ["x", "y=1"] ∧
      ofArguments "f" (.ofList [("names", .ofTexts filter.names.texts),
        ("labels", .ofTexts filter.labels.texts)]) = .ok filter ∧
      (IsReadable (others.get? "labels") ∧
        ofArguments "f" others = .error (.badArgument "f" "nodes" (.wrongElement "NoneType"))) := by
  intro arguments filter others
  have read : ofArguments "f" arguments = .ok filter := rfl
  obtain ⟨_, known, _, _⟩ := filter_of_arguments "f" arguments
  obtain ⟨_, _, _, _, readAgain⟩ := known filter read
  obtain ⟨_, _, refused, _⟩ := filter_of_arguments "f" others
  refine ⟨read, rfl, rfl, readAgain "names" (by decide), trivial, (refused _).2 (.inl ?_)⟩
  exact ⟨_, .wrongElement (.behind (.here (by decide))), rfl⟩

end NodeFilter

end ClusterHosts
