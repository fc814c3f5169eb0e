import ClusterHosts.Text.Basic

/-! # Words and cores

The words of a text are its maximal runs of characters that are not blank (`Text.mem_runs_iff`). Its
core is what lies between the blanks at its two ends, and trimming a text yields its core
(`Text.isCore_iff`). A word is its own core and its own only word.
-/

namespace ClusterHosts.Text

/-- Neither the first nor the last of some characters is blank. -/
structure HasVisibleEnds (cs : List Char) : Prop where
  first : ∀ c ∈ cs.head?, isBlank c = false
  last : ∀ c ∈ cs.getLast?, isBlank c = false

/-- Characters are what lies between the blanks at the two ends of others. -/
structure IsCore (cs core : List Char) : Prop where
  between : ∃ before after, cs = before ++ core ++ after ∧
    (∀ c ∈ before, isBlank c = true) ∧ ∀ c ∈ after, isBlank c = true
  ends : HasVisibleEnds core

/-- Characters are a maximal run of others that are not blank. -/
structure IsRun (cs run : List Char) : Prop where
  nonempty : run ≠ []
  visible : ∀ c ∈ run, isBlank c = false
  between : ∃ before after, cs = before ++ run ++ after ∧
    (∀ c ∈ before.getLast?, isBlank c = true) ∧ ∀ c ∈ after.head?, isBlank c = true

/-- A text begins with characters that satisfy a condition, up to the first that does not. -/
theorem exists_span (p : Char → Bool) (cs : List Char) :
    ∃ before after, cs = before ++ after ∧ (∀ c ∈ before, p c = true) ∧
      ∀ c ∈ after.head?, p c = false := by
  induction cs with
  | nil => exact ⟨[], [], rfl, by simp, by simp⟩
  | cons c cs ih =>
      cases holds : p c with
      | false => exact ⟨[], c :: cs, rfl, by simp, by simpa using holds⟩
      | true =>
          obtain ⟨before, after, rfl, inside, outside⟩ := ih
          exact ⟨c :: before, after, rfl, by simpa [holds] using inside, outside⟩

/-! ### Trimming -/

/-- Blanks are dropped up to the first visible character. -/
theorem dropBlanks_append {before after : List Char} (blank : ∀ c ∈ before, isBlank c = true)
    (visible : ∀ c ∈ after.head?, isBlank c = false) : dropBlanks (before ++ after) = after := by
  rw [dropBlanks, List.dropWhile_append_of_pos blank]
  cases after with
  | nil => rfl
  | cons c after => exact List.dropWhile_cons_of_neg (by simp [visible c rfl])

/-- What lies between the blanks at the ends of a text is left by trimming it. -/
theorem trimmed_of_isCore {cs core : List Char} (isCore : IsCore cs core) : trimmed cs = core := by
  obtain ⟨⟨before, after, rfl, blankBefore, blankAfter⟩, first, last⟩ := isCore
  have blankEnd : ∀ c ∈ after.reverse, isBlank c = true := by simpa using blankAfter
  have visibleEnd : ∀ c ∈ core.reverse.head?, isBlank c = false := by
    simpa [List.head?_reverse] using last
  cases core with
  | nil =>
      have blank : ∀ c ∈ before ++ [] ++ after, isBlank c = true := by
        simpa [or_imp, forall_and] using ⟨blankBefore, blankAfter⟩
      have nothing : dropBlanks (before ++ [] ++ after ++ []) = [] :=
        dropBlanks_append blank (by simp)
      rw [List.append_nil] at nothing
      rw [trimmed, nothing]
      rfl
  | cons c core =>
      have front : dropBlanks (before ++ (c :: core ++ after)) = c :: core ++ after :=
        dropBlanks_append blankBefore first
      have back := dropBlanks_append blankEnd visibleEnd
      rw [trimmed, List.append_assoc, front, List.reverse_append, back, List.reverse_reverse]

theorem exists_isCore (cs : List Char) : ∃ core, IsCore cs core := by
  obtain ⟨before, rest, rfl, blankBefore, visible⟩ := exists_span isBlank cs
  obtain ⟨after, core, split, blankAfter, last⟩ := exists_span isBlank rest.reverse
  have whole : rest = core.reverse ++ after.reverse := by
    rw [← List.reverse_append, ← split, List.reverse_reverse]
  refine ⟨core.reverse, ⟨before, after.reverse, ?_, blankBefore, by simpa using blankAfter⟩, ?_, ?_⟩
  · rw [whole, List.append_assoc]
  · intro c first
    apply visible
    rw [whole, List.head?_append, Option.mem_def.1 first]
    rfl
  · simpa [List.getLast?_reverse] using last

/-- The core of a text is the trimmed text. -/
theorem isCore_iff {cs core : List Char} : IsCore cs core ↔ core = trimmed cs := by
  constructor
  · exact fun isCore => (trimmed_of_isCore isCore).symm
  · rintro rfl
    obtain ⟨core, isCore⟩ := exists_isCore cs
    rwa [trimmed_of_isCore isCore]

/-- A text with visible ends is its own core. -/
theorem HasVisibleEnds.isCore {cs : List Char} (ends : HasVisibleEnds cs) : IsCore cs cs :=
  ⟨⟨[], [], by simp, by simp, by simp⟩, ends⟩

/-- Nothing is left of a text of blanks alone. -/
theorem trimmed_eq_nil_iff {cs : List Char} : trimmed cs = [] ↔ cs.all isBlank = true := by
  constructor
  · intro nothing
    obtain ⟨⟨before, after, rfl, blankBefore, blankAfter⟩, _⟩ := isCore_iff.2 nothing.symm
    simpa [or_imp, forall_and] using ⟨blankBefore, blankAfter⟩
  · intro blank
    exact trimmed_of_isCore ⟨⟨cs, [], by simp, by simpa using blank, by simp⟩, by simp, by simp⟩

/-! ### Words -/

/-- A blank in front adds no run. -/
theorem runs_cons_of_isBlank {c : Char} (cs : List Char) (blank : isBlank c = true) :
    runs (c :: cs) = runs cs := by
  rw [runs.eq_def]
  exact if_pos blank

/-- A run that ends at a blank or at the end of the text comes before the runs behind it. -/
theorem runs_append {run after : List Char} (nonempty : run ≠ [])
    (visible : ∀ c ∈ run, isBlank c = false) (ends : ∀ c ∈ after.head?, isBlank c = true) :
    runs (run ++ after) = run :: runs after := by
  induction run with
  | nil => exact absurd rfl nonempty
  | cons c run ih =>
      have here : isBlank c = false := visible c List.mem_cons_self
      have later : ∀ c ∈ run, isBlank c = false := fun c member =>
        visible c (List.mem_cons_of_mem _ member)
      cases run with
      | nil =>
          rw [List.singleton_append, runs.eq_def (c :: after)]
          cases after with
          | nil =>
              have empty : runs [] = [] := rfl
              simp [here, empty]
          | cons next after => simp [here, ends next rfl]
      | cons next run =>
          have rest := ih (by simp) later
          have goesOn : isBlank next = false := later next List.mem_cons_self
          rw [List.cons_append] at rest
          rw [List.cons_append, List.cons_append, runs.eq_def]
          simp [here, goesOn, rest]

/-- A text is empty, or begins with a blank, or begins with a run that ends at a blank or at the
end. -/
theorem run_induction {motive : List Char → Prop} (nil : motive [])
    (blank : ∀ c cs, isBlank c = true → motive cs → motive (c :: cs))
    (run : ∀ run after, run ≠ [] → (∀ c ∈ run, isBlank c = false) →
      (∀ c ∈ after.head?, isBlank c = true) → motive after → motive (run ++ after))
    (cs : List Char) : motive cs := by
  match cs with
  | [] => exact nil
  | c :: cs =>
      cases isBlank_c : isBlank c with
      | true => exact blank c cs isBlank_c (run_induction nil blank run cs)
      | false =>
          obtain ⟨before, after, split, visible, ends⟩ := exists_span (fun c => !isBlank c) cs
          have shorter : after.length ≤ cs.length := by simp [split]
          rw [split, ← List.cons_append]
          refine run (c :: before) after (by simp) ?_ (by simpa using ends)
            (run_induction nil blank run after)
          simpa [isBlank_c] using visible
termination_by cs.length

/-- Where a part ends with a blank, the runs of both parts are those of the text. -/
theorem runs_append_of_isBlank (before after : List Char)
    (ends : ∀ c ∈ before.getLast?, isBlank c = true) :
    runs (before ++ after) = runs before ++ runs after := by
  induction before using run_induction with
  | nil => rfl
  | blank c cs isBlank_c ih =>
      rw [List.cons_append, runs_cons_of_isBlank _ isBlank_c, runs_cons_of_isBlank _ isBlank_c]
      apply ih
      intro last member
      apply ends
      rw [List.getLast?_cons, Option.mem_def.1 member]
      rfl
  | run run rest nonempty visible stops ih =>
      -- The run does not reach the end, where there is a blank.
      have continues : rest ≠ [] := by
        rintro rfl
        have last := ends (run.getLast nonempty) (by simp [List.getLast?_eq_some_getLast nonempty])
        rw [visible _ (List.getLast_mem nonempty)] at last
        cases last
      have same : (run ++ rest).getLast? = rest.getLast? := by
        rw [List.getLast?_append, Option.or_of_isSome (by simpa using continues)]
      rw [same] at ends
      have stopsStill : ∀ c ∈ (rest ++ after).head?, isBlank c = true := by
        rwa [List.head?_append, Option.or_of_isSome (by simpa using continues)]
      rw [List.append_assoc, runs_append nonempty visible stopsStill, ih ends,
        runs_append nonempty visible stops, List.cons_append]

/-- A run begins with a visible character. -/
theorem IsRun.exists_visible {cs run : List Char} (isRun : IsRun cs run) :
    ∃ c rest, run = c :: rest ∧ isBlank c = false := by
  cases run with
  | nil => exact absurd rfl isRun.nonempty
  | cons c rest => exact ⟨c, rest, rfl, isRun.visible c List.mem_cons_self⟩

/-- A run remains one behind other characters, if there is a blank between it and them. -/
theorem IsRun.behind {front cs run : List Char} (isRun : IsRun cs run)
    (apart : (∀ c ∈ front.getLast?, isBlank c = true) ∨ ∀ c ∈ cs.head?, isBlank c = true) :
    IsRun (front ++ cs) run := by
  obtain ⟨c, rest, starts, visible⟩ := isRun.exists_visible
  obtain ⟨before, after, split, endsBefore, endsAfter⟩ := isRun.between
  refine ⟨isRun.nonempty, isRun.visible, front ++ before, after, by simp [split], ?_, endsAfter⟩
  cases before with
  | nil =>
      rcases apart with endsFront | startsBlank
      · simpa using endsFront
      · rw [startsBlank c (by simp [split, starts])] at visible
        cases visible
  | cons first before =>
      rwa [List.getLast?_append, Option.or_of_isSome (by simp)]

/-- **The words of a text** are its maximal runs of characters that are not blank. -/
theorem mem_runs_iff {cs run : List Char} : run ∈ runs cs ↔ IsRun cs run := by
  constructor
  · intro member
    induction cs using run_induction with
    | nil => cases member
    | blank c cs isBlank_c ih =>
        rw [runs_cons_of_isBlank cs isBlank_c] at member
        have apart : ∀ last ∈ [c].getLast?, isBlank last = true := by simpa using isBlank_c
        exact (ih member).behind (.inl apart)
    | run first after nonempty visible ends ih =>
        rw [runs_append nonempty visible ends] at member
        rcases List.mem_cons.1 member with rfl | member
        · exact ⟨nonempty, visible, [], after, by simp, by simp, ends⟩
        · exact (ih member).behind (.inr ends)
  · rintro ⟨nonempty, visible, before, after, rfl, endsBefore, endsAfter⟩
    rw [List.append_assoc, runs_append_of_isBlank _ _ endsBefore,
      runs_append nonempty visible endsAfter]
    exact List.mem_append_right _ List.mem_cons_self

/-- A text of blanks alone has no runs. -/
theorem runs_eq_nil_iff {cs : List Char} : runs cs = [] ↔ cs.all isBlank = true := by
  constructor
  · intro nothing
    induction cs using run_induction with
    | nil => rfl
    | blank c cs isBlank_c ih =>
        rw [runs_cons_of_isBlank cs isBlank_c] at nothing
        rw [List.all_cons, isBlank_c, ih nothing]
        rfl
    | run first after nonempty visible ends ih =>
        rw [runs_append nonempty visible ends] at nothing
        cases nothing
  · exact runs_eq_nil_of_all

/-- A run has visible ends. -/
theorem IsRun.hasVisibleEnds {cs run : List Char} (isRun : IsRun cs run) : HasVisibleEnds run :=
  ⟨fun c first => isRun.visible c (List.mem_of_head? first),
    fun c last => isRun.visible c (List.mem_of_getLast? last)⟩

/-! ### Texts -/

/-- The words of a text are its runs. -/
theorem mem_words_iff {text word : String} :
    word ∈ words text ↔ IsRun text.toList word.toList := by
  rw [words, ← mem_runs_iff, List.mem_map]
  constructor
  · rintro ⟨run, member, rfl⟩
    rwa [String.toList_ofList]
  · exact fun member => ⟨word.toList, member, String.ofList_toList⟩

/-- The core of a text is what trimming leaves. -/
theorem isCore_toList_iff {text core : String} :
    IsCore text.toList core.toList ↔ core = trim text := by
  rw [isCore_iff, trim, ← String.toList_inj, String.toList_ofList]

theorem words_eq_nil_iff {text : String} : words text = [] ↔ isBlankText text = true := by
  rw [words, List.map_eq_nil_iff, runs_eq_nil_iff, isBlankText]

/-- Trimming leaves nothing of a blank text. -/
theorem trim_eq_empty_iff {text : String} : trim text = "" ↔ isBlankText text = true := by
  rw [← String.toList_inj, trim, String.toList_ofList, isBlankText, ← trimmed_eq_nil_iff]
  rfl

/-- A text that needs no trimming holds more than blanks, unless it is empty. -/
theorem isBlankText_of_hasVisibleEnds {text : String} (something : text ≠ "")
    (ends : HasVisibleEnds text.toList) : isBlankText text = false := by
  have trimmed : trim text = text := (isCore_toList_iff.1 ends.isCore).symm
  rw [Bool.eq_false_iff, ne_eq, ← trim_eq_empty_iff, trimmed]
  exact something

end ClusterHosts.Text
