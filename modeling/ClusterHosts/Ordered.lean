/-! # Lists in the order of a key

Attribute structs and name sets are lists in strictly increasing order of a text key. Texts are
compared character by character, by code point, which is also the order of their UTF-8 bytes.
Inserting an entry keeps the order (`increasing_insert`) and makes room for the entry by dropping
the one that has the same key (`mem_insert`).
-/

namespace ClusterHosts.Ordered

variable {α : Type} (key : α → String)

/-- Each entry's key is less than the keys of all entries after it. -/
def Increasing (entries : List α) : Prop :=
  entries.Pairwise fun first second => key first < key second

/-- Puts an entry at its place in the order, in the place of an entry with the same key. -/
def insert (entry : α) : List α → List α
  | [] => [entry]
  | head :: tail =>
      if key entry < key head then entry :: head :: tail
      else if key entry = key head then entry :: tail
      else head :: insert entry tail

/-- The entries put into an empty list one after the other. -/
def ofList (entries : List α) : List α :=
  entries.foldl (fun sorted entry => insert key entry sorted) []

variable {key}

/-- Two texts of which neither is less are the same text. -/
theorem lt_of_not_lt_of_ne {first second : String} (notLess : ¬ first < second)
    (different : first ≠ second) : second < first :=
  Std.lt_of_le_of_ne (String.not_lt.1 notLess) (Ne.symm different)

theorem increasing_nil : Increasing key [] := List.Pairwise.nil

/-- After an insertion there are the new entry and the entries with another key. -/
theorem mem_insert {entry other : α} {entries : List α} (increasing : Increasing key entries) :
    other ∈ insert key entry entries ↔
      other = entry ∨ other ∈ entries ∧ key other ≠ key entry := by
  induction entries with
  | nil => simp [insert]
  | cons head tail ih =>
      have later : ∀ e ∈ tail, key head < key e := (List.pairwise_cons.1 increasing).1
      have rest : Increasing key tail := (List.pairwise_cons.1 increasing).2
      unfold insert
      split
      · next less =>
          have apart : ∀ e ∈ head :: tail, key e ≠ key entry := by
            intro e member same
            rcases List.mem_cons.1 member with rfl | member
            · exact String.lt_irrefl _ (same ▸ less)
            · exact String.lt_irrefl _ (same ▸ String.lt_trans less (later e member))
          constructor
          · intro member
            rcases List.mem_cons.1 member with rfl | member
            · exact .inl rfl
            · exact .inr ⟨member, apart other member⟩
          · rintro (rfl | ⟨member, _⟩)
            · exact List.mem_cons_self
            · exact List.mem_cons_of_mem _ member
      · next notLess =>
          split
          · next same =>
              have apart : ∀ e ∈ tail, key e ≠ key entry := by
                intro e member equal
                exact String.lt_irrefl _ ((equal.trans same) ▸ later e member)
              constructor
              · intro member
                rcases List.mem_cons.1 member with rfl | member
                · exact .inl rfl
                · exact .inr ⟨List.mem_cons_of_mem _ member, apart other member⟩
              · rintro (rfl | ⟨member, different⟩)
                · exact List.mem_cons_self
                · rcases List.mem_cons.1 member with rfl | member
                  · exact absurd same.symm different
                  · exact List.mem_cons_of_mem _ member
          · next different =>
              rw [List.mem_cons, ih rest, List.mem_cons]
              constructor
              · rintro (rfl | rfl | ⟨member, apart⟩)
                · exact .inr ⟨.inl rfl, Ne.symm different⟩
                · exact .inl rfl
                · exact .inr ⟨.inr member, apart⟩
              · rintro (rfl | ⟨rfl | member, apart⟩)
                · exact .inr (.inl rfl)
                · exact .inl rfl
                · exact .inr (.inr ⟨member, apart⟩)

/-- An insertion keeps the order. -/
theorem increasing_insert {entries : List α} (entry : α) (increasing : Increasing key entries) :
    Increasing key (insert key entry entries) := by
  induction entries with
  | nil => simp [insert, Increasing]
  | cons head tail ih =>
      have later : ∀ e ∈ tail, key head < key e := (List.pairwise_cons.1 increasing).1
      have rest : Increasing key tail := (List.pairwise_cons.1 increasing).2
      unfold insert
      split
      · next less =>
          refine List.pairwise_cons.2 ⟨?_, increasing⟩
          intro e member
          rcases List.mem_cons.1 member with rfl | member
          · exact less
          · exact String.lt_trans less (later e member)
      · next notLess =>
          split
          · next same => exact List.pairwise_cons.2 ⟨fun e member => same ▸ later e member, rest⟩
          · next different =>
              refine List.pairwise_cons.2 ⟨?_, ih rest⟩
              intro e member
              rcases (mem_insert rest).1 member with rfl | ⟨member, _⟩
              · exact lt_of_not_lt_of_ne notLess different
              · exact later e member

/-- Whatever is put into an empty list, the result is in order. -/
theorem increasing_ofList (entries : List α) : Increasing key (ofList key entries) := by
  suffices keeps : ∀ (entries sorted : List α), Increasing key sorted →
      Increasing key (entries.foldl (fun sorted entry => insert key entry sorted) sorted) from
    keeps entries [] increasing_nil
  intro entries
  induction entries with
  | nil => exact fun _ increasing => increasing
  | cons head tail ih => exact fun _ increasing => ih _ (increasing_insert head increasing)

/-- What is found in a list in order after an insertion. -/
theorem lookup_insert {β : Type} {entries : List (String × β)} (name other : String) (value : β)
    (increasing : Increasing Prod.fst entries) :
    (insert Prod.fst (name, value) entries).lookup other =
      if other = name then some value else entries.lookup other := by
  induction entries with
  | nil =>
      by_cases same : other = name
      · simp [insert, same]
      · simp [insert, List.lookup_cons, beq_false_of_ne same, same]
  | cons head tail ih =>
      obtain ⟨headName, headValue⟩ := head
      have rest : Increasing Prod.fst tail := (List.pairwise_cons.1 increasing).2
      unfold insert
      by_cases same : other = name
      · subst same
        split
        · simp
        · split
          · simp
          · next different => simp [List.lookup_cons, beq_false_of_ne different, ih rest]
      · split
        · simp [List.lookup_cons, beq_false_of_ne same]
        · split
          · next equal =>
              cases equal
              simp [List.lookup_cons, beq_false_of_ne same]
          · simp [List.lookup_cons, ih rest, same]

end ClusterHosts.Ordered
