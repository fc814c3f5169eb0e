import ClusterHosts.Ordered
import ClusterHosts.Text.System
import ClusterHosts.Value

/-! # Structures of keywords

Structures keep their attributes in the byte order of the names. Keywords are folded into one unless
a name is repeated (`Attributes.folds_or_blames_first_repeat`). -/

namespace ClusterHosts.Text

/-! ## The order of bytes

Texts are ordered as their bytes in UTF-8 are (`Text.utf8_lt_utf8_iff`): of two characters the one
that comes first has the lesser bytes, and no character's bytes begin those of another.
-/

/-- Two numbers are told apart by the first of their digits of six bits that differ. -/
theorem digits_lt {v w : Nat} (less : v < w) :
    v / 262144 < w / 262144 ∨ v / 262144 = w / 262144 ∧
      (v / 4096 % 64 < w / 4096 % 64 ∨ v / 4096 % 64 = w / 4096 % 64 ∧
        (v / 64 % 64 < w / 64 % 64 ∨ v / 64 % 64 = w / 64 % 64 ∧ v % 64 < w % 64)) := by
  have next {v w : Nat} (less : v < w) :
      v / 64 < w / 64 ∨ v / 64 = w / 64 ∧ v % 64 < w % 64 := by omega
  have middle (v : Nat) : v / 4096 = v / 64 / 64 := by omega
  have high (v : Nat) : v / 262144 = v / 64 / 64 / 64 := by omega
  simp only [middle, high]
  rcases next less with less | ⟨same, less⟩
  · rcases next less with less | ⟨same, less⟩
    · rcases next less with less | ⟨same, less⟩
      · exact .inl less
      · exact .inr ⟨same, .inl less⟩
    · exact .inr ⟨by rw [same], .inr ⟨by rw [same], .inl less⟩⟩
  · simp [same, less]

/-- The bytes of a character are less than those of a later one, whatever comes behind them. -/
theorem utf8EncodeChar_append_lt {c d : Char} (less : c < d) (rest later : List UInt8) :
    String.utf8EncodeChar c ++ rest < String.utf8EncodeChar d ++ later := by
  have less : c.val.toNat < d.val.toNat := less
  have bound : d.val.toNat < 0x110000 := by
    have valid := d.valid
    simp only [UInt32.isValidChar, Nat.isValidChar] at valid
    omega
  have continuation (v : Nat) : (v % 64 + 128) % 256 = v % 64 + 128 := by omega
  have first (v : Nat) (small : v < 0x110000) :
      (v / 262144 % 8 + 240) % 256 = v / 262144 + 240 := by omega
  have digits := digits_lt less
  -- Encodings of different lengths differ in the first byte.
  fun_cases String.utf8EncodeChar c <;> fun_cases String.utf8EncodeChar d
  all_goals try omega
  all_goals
    simp +zetaDelta only [List.cons_append, List.nil_append, List.cons_lt_cons_iff,
      UInt8.lt_iff_toNat_lt, ← UInt8.toNat_inj, UInt8.toNat_ofNat', continuation, first _ bound,
      first _ (Nat.lt_trans less bound)] at *
    omega

/-- Texts compare as their bytes do. -/
theorem flatMap_utf8EncodeChar_lt {first second : List Char} (less : first < second) :
    first.flatMap String.utf8EncodeChar < second.flatMap String.utf8EncodeChar := by
  induction less with
  | @nil c cs =>
      have something : String.utf8EncodeChar c ≠ [] := by
        rw [← List.length_pos_iff, String.length_utf8EncodeChar]
        exact c.utf8Size_pos
      obtain ⟨byte, bytes, encoded⟩ := List.exists_cons_of_ne_nil something
      rw [List.flatMap_nil, List.flatMap_cons, encoded]
      exact List.nil_lt_cons byte _
  | rel less =>
      rw [List.flatMap_cons, List.flatMap_cons]
      exact utf8EncodeChar_append_lt less _ _
  | cons _ ih =>
      rw [List.flatMap_cons, List.flatMap_cons]
      exact List.append_left_lt ih

/-- Texts are ordered as their bytes are. -/
theorem utf8_lt_utf8_iff {first second : String} : utf8 first < utf8 second ↔ first < second := by
  have keeps {first second : String} (less : first < second) : utf8 first < utf8 second := by
    rw [utf8_eq_flatMap, utf8_eq_flatMap]
    exact flatMap_utf8EncodeChar_lt less
  refine ⟨fun less => ?_, keeps⟩
  by_cases same : first = second
  · exact absurd (same ▸ less) (List.lt_irrefl _)
  · refine Classical.byContradiction fun notLess => ?_
    have more := keeps (Ordered.lt_of_not_lt_of_ne notLess same)
    exact List.lt_asymm less more

end ClusterHosts.Text

namespace ClusterHosts

/-! ## Keywords and structs

Folding keyword arguments into a struct goes one keyword at a time, so that a name which none of
them has can be set before or after the folding (`Attributes.ofKeywords_append_fresh`). Entries with
distinct names are in the same order whatever order they came in (`Ordered.ofList_eq_of_perm`). The
struct of some keywords can be passed on as a value, and is read back from it
(`Attributes.ofValue?_value`).
-/

section Lookup

variable {β : Type} {entries : List (String × β)} {name : String}

/-- Something is found under a name that an entry has. -/
theorem lookup_ne_none_iff : entries.lookup name ≠ none ↔ name ∈ entries.map Prod.fst := by
  rw [← Option.isSome_iff_ne_none, List.lookup_isSome_iff, List.mem_map]
  simp only [beq_iff_eq, @eq_comm _ name]

/-- An entry is found under its name, if no other has the name. -/
theorem lookup_of_mem (distinct : (entries.map Prod.fst).Nodup) {value : β}
    (member : (name, value) ∈ entries) : entries.lookup name = some value := by
  induction entries with
  | nil => cases member
  | cons head tail ih =>
      obtain ⟨fresh, rest⟩ := List.nodup_cons.1 distinct
      rcases List.mem_cons.1 member with rfl | later
      · exact List.lookup_cons_self
      · have apart : name ≠ head.1 := fun same => fresh (same ▸ List.mem_map_of_mem later)
        rw [List.lookup_cons, beq_false_of_ne apart]
        exact ih rest later

theorem mem_of_lookup {value : β} (found : entries.lookup name = some value) :
    (name, value) ∈ entries := by
  obtain ⟨before, after, rfl, _⟩ := List.lookup_eq_some_iff.1 found
  exact List.mem_append_right before List.mem_cons_self

/-- Where names are distinct, entries and what is found under them are the same. -/
theorem lookup_eq_some_iff_mem (distinct : (entries.map Prod.fst).Nodup) {value : β} :
    entries.lookup name = some value ↔ (name, value) ∈ entries :=
  ⟨mem_of_lookup, lookup_of_mem distinct⟩

/-- What is found under a name does not depend on the order. -/
theorem lookup_eq_of_perm {others : List (String × β)} (perm : others.Perm entries)
    (distinct : (entries.map Prod.fst).Nodup) : others.lookup name = entries.lookup name := by
  have also : (others.map Prod.fst).Nodup := (perm.map Prod.fst).nodup_iff.2 distinct
  apply Option.ext
  intro value
  rw [lookup_eq_some_iff_mem also, lookup_eq_some_iff_mem distinct, perm.mem_iff]

end Lookup

namespace Ordered

variable {α : Type} {key : α → String}

/-- An entry behind all others is put at the end. -/
theorem insert_of_forall_lt {entry : α} {entries : List α}
    (behind : ∀ other ∈ entries, key other < key entry) :
    insert key entry entries = entries ++ [entry] := by
  induction entries with
  | nil => rfl
  | cons head tail ih =>
      have less : key head < key entry := behind head List.mem_cons_self
      have notLess : ¬ key entry < key head := String.lt_asymm less
      have different : key entry ≠ key head := fun same => String.lt_irrefl _ (same ▸ less)
      rw [insert, if_neg notLess, if_neg different,
        ih fun other member => behind other (List.mem_cons_of_mem _ member)]
      rfl

/-- Putting entries that are in order behind others leaves them as they are. -/
theorem foldl_insert_of_increasing {sorted entries : List α}
    (increasing : Increasing key (sorted ++ entries)) :
    entries.foldl (fun sorted entry => insert key entry sorted) sorted = sorted ++ entries := by
  induction entries generalizing sorted with
  | nil => exact (List.append_nil sorted).symm
  | cons head tail ih =>
      have behind : ∀ other ∈ sorted, key other < key head := fun other member =>
        (List.pairwise_append.1 increasing).2.2 other member head List.mem_cons_self
      have moved : sorted ++ head :: tail = sorted ++ [head] ++ tail := by simp
      rw [moved] at increasing ⊢
      rw [List.foldl_cons, insert_of_forall_lt behind, ih increasing]

/-- A list that is in order is its own order. -/
theorem ofList_of_increasing {entries : List α} (increasing : Increasing key entries) :
    ofList key entries = entries :=
  foldl_insert_of_increasing increasing

/-- Nothing but what was put in is in a list. -/
theorem mem_of_mem_ofList {entry : α} {entries : List α} (member : entry ∈ ofList key entries) :
    entry ∈ entries := by
  suffices keeps : ∀ (entries sorted : List α), Increasing key sorted →
      entry ∈ entries.foldl (fun sorted entry => insert key entry sorted) sorted →
      entry ∈ sorted ∨ entry ∈ entries by
    simpa using keeps entries [] increasing_nil member
  intro entries
  induction entries with
  | nil => exact fun _ _ member => .inl member
  | cons head tail ih =>
      intro sorted increasing member
      rcases ih _ (increasing_insert head increasing) member with inserted | member
      · rcases (mem_insert increasing).1 inserted with rfl | ⟨member, _⟩
        · exact .inr List.mem_cons_self
        · exact .inl member
      · exact .inr (List.mem_cons_of_mem _ member)

/-- An entry with a fresh name is added to the others. -/
theorem perm_insert {entry : α} {entries : List α} (fresh : key entry ∉ entries.map key) :
    (insert key entry entries).Perm (entry :: entries) := by
  induction entries with
  | nil => exact .refl _
  | cons head tail ih =>
      rw [List.map_cons, List.mem_cons, not_or] at fresh
      unfold insert
      by_cases less : key entry < key head
      · rw [if_pos less]
      · rw [if_neg less, if_neg fresh.1]
        exact ((ih fresh.2).cons head).trans (.swap entry head tail)

/-- Entries with distinct keys are all put in. -/
theorem perm_ofList {entries : List α} (distinct : (entries.map key).Nodup) :
    (ofList key entries).Perm entries := by
  suffices puts : ∀ sorted : List α, ((sorted ++ entries).map key).Nodup →
      (entries.foldl (fun sorted entry => insert key entry sorted) sorted).Perm
        (sorted ++ entries) from puts [] distinct
  clear distinct
  induction entries with
  | nil =>
      intro sorted _
      rw [List.append_nil]
      exact .refl _
  | cons head tail ih =>
      intro sorted distinct
      have moved : (sorted ++ head :: tail).Perm (head :: (sorted ++ tail)) := List.perm_middle
      have apart : ((head :: (sorted ++ tail)).map key).Nodup :=
        (moved.map key).nodup_iff.1 distinct
      obtain ⟨fresh, _⟩ := List.nodup_cons.1 apart
      rw [List.map_append, List.mem_append, not_or] at fresh
      have inserted : (insert key head sorted ++ tail).Perm (head :: (sorted ++ tail)) :=
        (perm_insert fresh.1).append_right tail
      have others := ih _ ((inserted.map key).nodup_iff.2 apart)
      exact others.trans (inserted.trans moved.symm)

/-- Lists in order are known from their entries, in whatever order these are. -/
theorem eq_of_perm {first second : List α} (increasing : Increasing key first)
    (also : Increasing key second) (perm : first.Perm second) : first = second :=
  perm.eq_of_pairwise (fun _ _ _ _ less more => absurd less (String.lt_asymm more)) increasing also

/-- Where names are distinct, the order in which entries come does not matter. -/
theorem ofList_eq_of_perm {first second : List α} (distinct : (second.map key).Nodup)
    (perm : first.Perm second) : ofList key first = ofList key second := by
  have also : (first.map key).Nodup := (perm.map key).nodup_iff.2 distinct
  apply eq_of_perm (increasing_ofList first) (increasing_ofList second)
  exact ((perm_ofList also).trans perm).trans (perm_ofList distinct).symm

/-- Of entries with distinct names, all are found under their names. -/
theorem lookup_ofList {β : Type} {entries : List (String × β)}
    (distinct : (entries.map Prod.fst).Nodup) (name : String) :
    (ofList Prod.fst entries).lookup name = entries.lookup name :=
  lookup_eq_of_perm (perm_ofList distinct) distinct

end Ordered

namespace Attributes

/-- A struct is read back from the value that it is. -/
theorem ofValue?_value (attributes : Attributes) : ofValue? attributes.value = some attributes := by
  have same : Ordered.ofList Prod.fst attributes.entries = attributes.entries :=
    Ordered.ofList_of_increasing attributes.increasing
  simp only [value, ofValue?, ofList, same]

theorem getSome?_of_absent {attributes : Attributes} {name : String}
    (absent : attributes.get? name = none) : attributes.getSome? name = none := by
  rw [getSome?, absent]
  rfl

/-- Setting an attribute leaves what the others say. -/
theorem getSome?_set_of_ne (attributes : Attributes) {name other : String} (value : Value)
    (different : other ≠ name) :
    (attributes.set name value).getSome? other = attributes.getSome? other := by
  rw [getSome?, get?_set, if_neg different, getSome?]

/-- An attribute that is set to something says it. -/
theorem getSome?_set (attributes : Attributes) (name : String) {value : Value}
    (something : value.isNone = false) :
    (attributes.set name value).getSome? name = some value := by
  rw [getSome?, get?_set, if_pos rfl]
  simp [Option.filter, something]

/-- Keywords are added one after the other. -/
theorem addKeywords_append (function : String) (attributes : Attributes)
    (first second : List (String × Value)) :
    addKeywords function attributes (first ++ second) =
      (addKeywords function attributes first).bind fun folded =>
        addKeywords function folded second := by
  induction first generalizing attributes with
  | nil => rfl
  | cons keyword keywords ih =>
      obtain ⟨name, value⟩ := keyword
      simp only [List.cons_append, addKeywords]
      split
      · rfl
      · exact ih _

/-- Adding keywords changes nothing under a name that none of them has. -/
theorem get?_of_addKeywords {function : String} {attributes folded : Attributes}
    {keywords : List (String × Value)} {name : String}
    (added : addKeywords function attributes keywords = .ok folded)
    (fresh : name ∉ keywords.map Prod.fst) : folded.get? name = attributes.get? name := by
  induction keywords generalizing attributes with
  | nil => rw [← Except.ok.inj added]
  | cons keyword keywords ih =>
      obtain ⟨other, value⟩ := keyword
      rw [List.map_cons, List.mem_cons, not_or] at fresh
      simp only [addKeywords] at added
      split at added
      · exact absurd added (by simp)
      · rw [ih added fresh.2, get?_set, if_neg fresh.1]

/-- Keywords that can be folded make up the struct of their entries. -/
theorem entries_of_addKeywords {function : String} {attributes folded : Attributes}
    {keywords : List (String × Value)}
    (added : addKeywords function attributes keywords = .ok folded) :
    folded.entries =
      keywords.foldl (fun sorted entry => Ordered.insert Prod.fst entry sorted)
        attributes.entries := by
  induction keywords generalizing attributes with
  | nil => rw [← Except.ok.inj added]; rfl
  | cons keyword keywords ih =>
      obtain ⟨other, value⟩ := keyword
      simp only [addKeywords] at added
      split at added
      · exact absurd added (by simp)
      · exact ih added

/-- Keywords that fold into a struct fold into the one of their entries. -/
theorem eq_ofList_of_ofKeywords {function : String} {keywords : List (String × Value)}
    {folded : Attributes} (added : ofKeywords function keywords = .ok folded) :
    folded = ofList keywords := by
  have entries := entries_of_addKeywords added
  cases folded
  cases entries
  rfl

/-- A keyword of a name that no other has is set behind all others. -/
theorem ofKeywords_append_fresh (function : String) {keywords : List (String × Value)}
    {name : String} (fresh : name ∉ keywords.map Prod.fst) (value : Value) :
    ofKeywords function (keywords ++ [(name, value)]) =
      (ofKeywords function keywords).map fun folded => folded.set name value := by
  rw [ofKeywords, addKeywords_append, ofKeywords]
  cases added : addKeywords function empty keywords with
  | error error => rfl
  | ok folded =>
      have absent : folded.contains name = false := by
        rw [contains, get?_of_addKeywords added fresh, get?_empty]
        rfl
      simp [Except.bind, Except.map, addKeywords, absent]

/-- Keywords with distinct names can be folded. -/
theorem ofKeywords_of_nodup (function : String) {keywords : List (String × Value)}
    (distinct : (keywords.map Prod.fst).Nodup) :
    ofKeywords function keywords = .ok (ofList keywords) := by
  suffices adds : ∀ attributes : Attributes,
      (∀ name ∈ keywords.map Prod.fst, attributes.get? name = none) →
      ∃ folded, addKeywords function attributes keywords = .ok folded by
    obtain ⟨folded, added⟩ := adds empty fun name _ => get?_empty name
    rw [ofKeywords, added, eq_ofList_of_ofKeywords added]
  induction keywords with
  | nil => exact fun attributes _ => ⟨attributes, rfl⟩
  | cons keyword keywords ih =>
      obtain ⟨name, value⟩ := keyword
      obtain ⟨fresh, rest⟩ := List.nodup_cons.1 distinct
      intro attributes absent
      have new : attributes.contains name = false := by
        rw [contains, absent name List.mem_cons_self]
        rfl
      simp only [addKeywords, new, Bool.false_eq_true, ↓reduceIte]
      apply ih rest
      intro other member
      have different : other ≠ name := fun same => fresh (same ▸ member)
      rw [get?_set, if_neg different, absent other (List.mem_cons_of_mem _ member)]

/-- Under each name the struct has what the entries have. -/
theorem get?_ofList {entries : List (String × Value)} (distinct : (entries.map Prod.fst).Nodup)
    (name : String) : (ofList entries).get? name = entries.lookup name :=
  Ordered.lookup_ofList distinct name

theorem mem_of_mem_names_ofList {entries : List (String × Value)} {name : String}
    (member : name ∈ (ofList entries).names) : name ∈ entries.map Prod.fst := by
  obtain ⟨entry, inside, rfl⟩ := List.mem_map.1 member
  exact List.mem_map_of_mem (Ordered.mem_of_mem_ofList inside)

end Attributes

/-! ## Folding keywords

Keywords fold into a struct if no name occurs twice, and otherwise the first name that repeats an
earlier one is to blame. The struct has all of them in the order of their names, in whatever order
they were given (`Attributes.folds_or_blames_first_repeat`).
-/

/-! ### Repeated names -/

/-- A name is the first of some that repeats an earlier one. -/
def FirstRepeat (names : List String) (name : String) : Prop :=
  ∃ before after, names = before ++ name :: after ∧ before.Nodup ∧ name ∈ before

/-- Names are distinct, or one of them is the first to be repeated. -/
theorem nodup_or_exists_firstRepeat (names : List String) :
    names.Nodup ∨ ∃ name, FirstRepeat names name := by
  -- The names that were seen have no repetition, and each new one extends them.
  suffices scans : ∀ seen : List String, seen.Nodup →
      (seen ++ names).Nodup ∨ ∃ name, FirstRepeat (seen ++ names) name from scans [] List.nodup_nil
  induction names with
  | nil =>
      intro seen distinct
      rw [List.append_nil]
      exact .inl distinct
  | cons name names ih =>
      intro seen distinct
      by_cases member : name ∈ seen
      · exact .inr ⟨name, seen, names, rfl, distinct, member⟩
      · have extended : (seen ++ [name]).Nodup := by
          rw [List.nodup_append]
          refine ⟨distinct, by simp, fun other inside last found same => ?_⟩
          obtain rfl := List.mem_singleton.1 found
          exact member (same ▸ inside)
        have scanned := ih _ extended
        rwa [List.append_assoc] at scanned

namespace Attributes

variable {function : String} {attributes folded : Attributes} {keywords : List (String × Value)}

/-! ### What is found in a struct -/

/-- The struct of keywords has the names of the keywords. -/
theorem contains_ofList (distinct : (keywords.map Prod.fst).Nodup) (name : String) :
    (ofList keywords).contains name = true ↔ name ∈ keywords.map Prod.fst := by
  rw [contains, get?_ofList distinct, Option.isSome_iff_ne_none, lookup_ne_none_iff]

/-- The struct of keywords has under each name the value that was given with it. -/
theorem get?_ofList_eq_some_iff (distinct : (keywords.map Prod.fst).Nodup) {name : String}
    {value : Value} : (ofList keywords).get? name = some value ↔ (name, value) ∈ keywords := by
  rw [get?_ofList distinct, lookup_eq_some_iff_mem distinct]

/-- The names, and with them the values, are in the order of their bytes. -/
def InByteOrder (attributes : Attributes) : Prop :=
  (attributes.names.Pairwise fun first second => Text.utf8 first < Text.utf8 second) ∧
    attributes.entries.Pairwise fun first second => Text.utf8 first.1 < Text.utf8 second.1

/-- Every struct keeps its names in the order of their bytes. -/
theorem inByteOrder (attributes : Attributes) : attributes.InByteOrder := by
  have entries : attributes.entries.Pairwise fun first second =>
      Text.utf8 first.1 < Text.utf8 second.1 :=
    attributes.increasing.imp fun less => Text.utf8_lt_utf8_iff.2 less
  exact ⟨List.pairwise_map.2 entries, entries⟩

/-! ### Folding -/

/-- Where names are distinct, the order of keywords does not matter. -/
theorem ofList_eq_of_perm {others : List (String × Value)}
    (distinct : (keywords.map Prod.fst).Nodup) (perm : others.Perm keywords) :
    ofList others = ofList keywords := by
  have entries := Ordered.ofList_eq_of_perm distinct perm
  simp only [ofList, entries]

/-- Folding stops at the first name that repeats an earlier one. -/
theorem ofKeywords_of_firstRepeat {name : String}
    (repeats : FirstRepeat (keywords.map Prod.fst) name) :
    ofKeywords function keywords = .error (.badArgument function name .repeated) := by
  obtain ⟨_, _, same, distinct, member⟩ := repeats
  obtain ⟨before, rest, rfl, rfl, found⟩ := List.map_eq_append_iff.1 same
  obtain ⟨⟨_, value⟩, after, rfl, rfl, _⟩ := List.map_eq_cons_iff.1 found
  -- What comes before folds, and then has the name already.
  have added : addKeywords function empty before = .ok (ofList before) :=
    ofKeywords_of_nodup function distinct
  rw [ofKeywords, addKeywords_append, added]
  exact if_pos ((contains_ofList distinct _).2 member)

/-- Keywords fold into a struct if no name is repeated. -/
theorem exists_ofKeywords_eq_ok_iff :
    (∃ folded, ofKeywords function keywords = .ok folded) ↔ (keywords.map Prod.fst).Nodup := by
  constructor
  · rintro ⟨folded, added⟩
    rcases nodup_or_exists_firstRepeat (keywords.map Prod.fst) with distinct | ⟨name, repeats⟩
    · exact distinct
    · rw [ofKeywords_of_firstRepeat repeats] at added
      cases added
  · exact fun distinct => ⟨_, ofKeywords_of_nodup function distinct⟩

/-- Keywords are refused for the first name that is repeated. -/
theorem ofKeywords_eq_error_iff {error : CallError} :
    ofKeywords function keywords = .error error ↔
      ∃ name, FirstRepeat (keywords.map Prod.fst) name ∧
        error = .badArgument function name .repeated := by
  constructor
  · intro refused
    rcases nodup_or_exists_firstRepeat (keywords.map Prod.fst) with distinct | ⟨name, repeats⟩
    · rw [ofKeywords_of_nodup function distinct] at refused
      cases refused
    · rw [ofKeywords_of_firstRepeat repeats] at refused
      exact ⟨name, repeats, (Except.error.inj refused).symm⟩
  · rintro ⟨name, repeats, rfl⟩
    exact ofKeywords_of_firstRepeat repeats

/-! ### Setting one after the other -/

/-- The struct after some attributes were set, one after the other. -/
def setAll (attributes : Attributes) (writes : List (String × Value)) : Attributes :=
  writes.foldl (fun written write => written.set write.1 write.2) attributes

theorem setAll_append (attributes : Attributes) (first second : List (String × Value)) :
    attributes.setAll (first ++ second) = (attributes.setAll first).setAll second :=
  List.foldl_append

/-- Each write inserts an entry at its place. -/
theorem entries_setAll (attributes : Attributes) (writes : List (String × Value)) :
    (attributes.setAll writes).entries =
      writes.foldl (fun sorted write => Ordered.insert Prod.fst write sorted)
        attributes.entries := by
  induction writes generalizing attributes with
  | nil => rfl
  | cons write writes ih => exact ih (attributes.set write.1 write.2)

theorem setAll_empty (writes : List (String × Value)) : empty.setAll writes = ofList writes := by
  have entries := entries_setAll empty writes
  cases written : empty.setAll writes
  rw [written] at entries
  cases entries
  rfl

/-- A name that is not written has what it had before. -/
theorem get?_setAll_of_notMem {writes : List (String × Value)} {name : String}
    (unwritten : name ∉ writes.map Prod.fst) :
    (attributes.setAll writes).get? name = attributes.get? name := by
  induction writes generalizing attributes with
  | nil => rfl
  | cons write writes ih =>
      rw [List.map_cons, List.mem_cons, not_or] at unwritten
      have found := get?_set attributes write.1 name write.2
      rw [if_neg unwritten.1] at found
      exact (ih unwritten.2).trans found

/-- A name has what was written to it last. -/
theorem get?_setAll_last (attributes : Attributes) (before : List (String × Value)) {name : String}
    (value : Value) {after : List (String × Value)} (last : name ∉ after.map Prod.fst) :
    (attributes.setAll (before ++ (name, value) :: after)).get? name = some value := by
  rw [setAll_append]
  have found := get?_set (attributes.setAll before) name name value
  rw [if_pos rfl] at found
  exact (get?_setAll_of_notMem last).trans found

/-! ### Keywords and structs -/

/-- **Folding keywords.** Keywords fold exactly if no name occurs twice, whatever the values are;
else the first name that repeats an earlier one is to blame. All of them, and nothing else, are then
in the struct, in the order of the bytes of their names. They give the same struct in any order,
also if they are set one after the other. Setting attributes keeps the order, the value that was set
last is found under a name, and under a name that was not set nothing changes. -/
theorem folds_or_blames_first_repeat (function : String) (keywords : List (String × Value)) :
    ((∃ folded, ofKeywords function keywords = .ok folded) ↔ (keywords.map Prod.fst).Nodup) ∧
    (∀ error, ofKeywords function keywords = .error error ↔
      ∃ name, FirstRepeat (keywords.map Prod.fst) name ∧
        error = .badArgument function name .repeated) ∧
    (∀ folded, ofKeywords function keywords = .ok folded →
      (∀ name value, folded.get? name = some value ↔ (name, value) ∈ keywords) ∧
      folded.size = keywords.length ∧
      folded.InByteOrder ∧
      ∀ others : List (String × Value), others.Perm keywords →
        empty.setAll others = folded ∧
        ∃ also, ofKeywords function others = .ok also ∧ also = folded ∧
          also.value.display = folded.value.display ∧
          also.value.json.render = folded.value.json.render) ∧
    ∀ (attributes : Attributes) (writes : List (String × Value)),
      (attributes.setAll writes).InByteOrder ∧
      (∀ before name value after, writes = before ++ (name, value) :: after →
        name ∉ after.map Prod.fst → (attributes.setAll writes).get? name = some value) ∧
      ∀ name, name ∉ writes.map Prod.fst →
        (attributes.setAll writes).get? name = attributes.get? name := by
  refine ⟨exists_ofKeywords_eq_ok_iff, fun _ => ofKeywords_eq_error_iff, ?_, ?_⟩
  · intro folded added
    have distinct := exists_ofKeywords_eq_ok_iff.1 ⟨folded, added⟩
    obtain rfl := eq_ofList_of_ofKeywords added
    refine ⟨fun name value => get?_ofList_eq_some_iff distinct, ?_, inByteOrder _, ?_⟩
    · exact (Ordered.perm_ofList distinct).length_eq
    · intro others perm
      have alsoDistinct : (others.map Prod.fst).Nodup := (perm.map _).nodup_iff.2 distinct
      have same := ofList_eq_of_perm distinct perm
      refine ⟨(setAll_empty others).trans same, _, ofKeywords_of_nodup function alsoDistinct, ?_⟩
      rw [same]
      exact ⟨rfl, rfl, rfl⟩
  · intro attributes writes
    refine ⟨inByteOrder _, ?_, fun name => get?_setAll_of_notMem⟩
    rintro before name value after rfl last
    exact get?_setAll_last attributes before value last

/-- Of two names that repeat, the one that repeats first is to blame, though the other was given
first; `None` is a value like others. -/
theorem folds_or_blames_first_repeat_of_two_repeats :
    let keywords : List (String × Value) := [("b", .none), ("a", .ofNat 1)]
    let writes : List (String × Value) := [("a", .ofNat 2), ("b", .bool true), ("a", .none)]
    ofKeywords "f" (keywords ++ writes) = .error (.badArgument "f" "a" .repeated) ∧
      ofKeywords "f" keywords = .ok (ofList keywords) ∧
      (ofList keywords).get? "b" = some .none ∧ (ofList keywords).names = ["a", "b"] ∧
      (∃ also, ofKeywords "f" keywords.reverse = .ok also ∧ also = ofList keywords) ∧
      ((ofList keywords).setAll writes).get? "a" = some .none ∧
      ((ofList keywords).setAll writes).get? "c" = none := by
  intro keywords writes
  have folded : ofKeywords "f" keywords = .ok (ofList keywords) := rfl
  obtain ⟨_, blames, _, _⟩ := folds_or_blames_first_repeat "f" (keywords ++ writes)
  obtain ⟨_, _, known, sets⟩ := folds_or_blames_first_repeat "f" keywords
  obtain ⟨found, _, _, anyOrder⟩ := known _ folded
  obtain ⟨_, last, others⟩ := sets (ofList keywords) writes
  obtain ⟨_, also, alsoFolded, same, _⟩ := anyOrder _ keywords.reverse_perm
  refine ⟨(blames _).2 ⟨"a", ?_, rfl⟩, folded, ?_, rfl, ⟨also, alsoFolded, same⟩, ?_, ?_⟩
  · exact ⟨["b", "a"], ["b", "a"], rfl, by decide, by decide⟩
  · exact (found "b" .none).2 List.mem_cons_self
  · exact last [("a", .ofNat 2), ("b", .bool true)] "a" .none [] rfl (by simp)
  · exact others "c" (by decide)

end Attributes

end ClusterHosts
