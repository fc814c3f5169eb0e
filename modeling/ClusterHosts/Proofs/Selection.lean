import ClusterHosts.Invocation
import ClusterHosts.Proofs.CommandLine
import ClusterHosts.Proofs.Contact
import ClusterHosts.Proofs.Course
import ClusterHosts.Proofs.Queries

/-! # Nodes selected on a command line

Names and labels may be spelled in several ways; whatever the way, they make a filter, and lines
that select alike ask alike (`Program.every_command_line_gives_a_filter`). -/

namespace ClusterHosts

/-! ## How options are spelled

The value of an option stands behind the equals sign of its long name, or is the next word. Names of
nodes in one value, with commas between them, are read as in values of their own
(`Invocation.parse_grouped`).
-/

section

open Invocation (Word)

namespace CommandOption

/-- Words that give an option a value. A value of its own word must not look like an option. -/
inductive Spells (option : CommandOption) (value : String) : List SystemText → Prop where
  | attached : Spells option value [.ofText ("--" ++ option.name ++ "=" ++ value)]
  | apart (bare : Word.ofSystem (.ofText value) = .bare) :
      Spells option value [.ofText ("--" ++ option.name), .ofText value]

/-- An option is found by its name. -/
theorem find?_name (option : CommandOption) :
    all.find? (fun other => .ofText other.name == SystemText.ofText option.name) = some option := by
  cases option <;> decide

/-- Two dashes and a name are the name. -/
theorem ofSystem_name (option : CommandOption) :
    Word.ofSystem (.ofText ("--" ++ option.name)) = .long (.ofText option.name) none := by
  cases option <;> decide

/-- What stands behind the equals sign of a name is its value. -/
theorem ofSystem_attached (option : CommandOption) (value : String) :
    Word.ofSystem (.ofText ("--" ++ option.name ++ "=" ++ value)) =
      .long (.ofText option.name) (some (.ofText value)) := by
  let name := (SystemText.ofText option.name).bytes
  let rest := name ++ Invocation.equalsSign :: (SystemText.ofText value).bytes
  have free : ∀ byte ∈ name, (byte != Invocation.equalsSign) = true := by
    rw [← List.all_eq_true]
    cases option <;> decide
  have bytes : (SystemText.ofText ("--" ++ option.name ++ "=" ++ value)).bytes =
      Invocation.dash :: Invocation.dash :: rest := by
    rw [SystemText.bytes_ofText_append, SystemText.bytes_ofText_append,
      SystemText.bytes_ofText_append, List.append_assoc, List.append_assoc]
    rfl
  have something : rest.isEmpty = false := by simp [rest]
  have long : Word.ofSystem (.ofText ("--" ++ option.name ++ "=" ++ value)) =
      .long ⟨rest.takeWhile (· != Invocation.equalsSign)⟩ (Invocation.attached? rest) := by
    simp only [Word.ofSystem, bytes, Word.dashed, ne_eq, not_true_eq_false, ↓reduceIte, something,
      Bool.false_eq_true]
  rw [long, Invocation.attached?, List.takeWhile_append_of_pos free,
    List.dropWhile_append_of_pos free]
  simp [name]

end CommandOption

namespace Invocation.Reading

variable {first second reading : Reading} {words : List SystemText}

/-- Readings that settle alike, and of which none waits for a value, go on alike. -/
theorem finish_congr (same : first.settle = second.settle)
    (waits : ∀ raw, first.takeBare raw = second.takeBare raw) :
    first.finish words = second.finish words := by
  have options (option : CommandOption) (value : Option SystemText) :
      first.takeOption option value = second.takeOption option value := by
    rw [takeOption, takeOption, same]
  have switches (switch : CommandSwitch) : first.takeSwitch switch = second.takeSwitch switch := by
    rw [takeSwitch, takeSwitch, same]
  cases words with
  | nil => rw [finish, finish, same]
  | cons raw words =>
      rw [finish, finish]
      cases Word.ofSystem raw with
      | divider => simp only [same]
      | long name value => simp only [takeLong, options, switches]
      | letters letter rest => simp only [takeLetters, options, switches]
      | bare => simp only [waits]

/-- What follows the words of an option is read after the option is given. -/
theorem finish_spelled {option : CommandOption} {value : String} {spelling : List SystemText}
    (spelled : option.Spells value spelling) {give : Invocation → Invocation}
    (gives : ∀ invocation : Invocation,
      invocation.give option (some (.ofText value)) = .ok (give invocation)) :
    reading.finish (spelling ++ words) =
      reading.settle.bind fun settled => finish ⟨give settled.invocation, none⟩ words := by
  cases spelled with
  | attached =>
      rw [List.singleton_append, finish, option.ofSystem_attached]
      simp only [takeLong, option.find?_name, takeOption]
      cases reading.settle with
      | error declined => rfl
      | ok settled =>
          simp only [bind, Except.bind, Option.isSome_some, ↓reduceIte, settle, gives]
  | apart bare =>
      rw [List.cons_append, List.singleton_append, finish, option.ofSystem_name]
      simp only [takeLong, option.find?_name, takeOption]
      cases reading.settle with
      | error declined => rfl
      | ok settled =>
          simp only [bind, Except.bind, Option.isSome_none, Bool.false_eq_true, ↓reduceIte, pure,
            Except.pure]
          rw [finish, bare]
          simp only [takeBare, bind, Except.bind]
          -- The value waits until something else is understood, which settles the option.
          apply finish_congr
          · simp only [settle, gives]
          · exact fun raw => rfl

/-- What comes before the words that differ does not matter. -/
theorem finish_append_congr {rest others : List SystemText} (some : rest ≠ [])
    (also : others ≠ []) (alike : ∀ reading : Reading, reading.finish rest = reading.finish others)
    (before : List SystemText) :
    reading.finish (before ++ rest) = reading.finish (before ++ others) := by
  induction before generalizing reading with
  | nil => exact alike reading
  | cons raw before ih =>
      rw [List.cons_append, List.cons_append, finish, finish]
      cases Word.ofSystem raw with
      -- Nothing may follow a divider, and on both sides something does.
      | divider => simp [some, also]
      | long name value => simp only [ih]
      | letters letter rest => simp only [ih]
      | bare => simp only [ih]

end Invocation.Reading

namespace Invocation

variable {option : CommandOption} {first second : String}

/-- The names in a value with a comma are those before it and those behind it. -/
theorem namesIn_append (first second : String) :
    namesIn (first ++ "," ++ second) = namesIn first ++ namesIn second := by
  have characters : (first ++ "," ++ second).toList = first.toList ++ ',' :: second.toList := by
    simp
  rw [namesIn, Text.splitText, characters, Text.split_append_mark, List.map_append]
  rfl

/-- The invocation with more names of nodes, given under one of the two options for them. -/
def addNames (invocation : Invocation) (option : CommandOption) (names : List String) :
    Invocation :=
  match option with
  | .nodes => { invocation with nodes := invocation.nodes ++ names }
  | _ => { invocation with names := invocation.names ++ names }

/-- Names can be added one part after the other. -/
theorem addNames_append (invocation : Invocation) (option : CommandOption)
    (first second : List String) :
    invocation.addNames option (first ++ second) =
      (invocation.addNames option first).addNames option second := by
  cases option <;> simp [addNames]

/-- The names in a value are added to those that are given. -/
theorem give_names (several : option ∈ [CommandOption.names, .nodes]) (value : String)
    (invocation : Invocation) :
    invocation.give option (some (.ofText value)) =
      .ok (invocation.addNames option (namesIn value)) := by
  have read : textIn (.ofText value) = .ok value := by rw [textIn, SystemText.text?_ofText]
  simp only [List.mem_cons, List.not_mem_nil, or_false] at several
  rcases several with rfl | rfl
  · simp only [give, hasGiven, Bool.false_eq_true, ↓reduceIte, accept, read]
    rfl
  · simp only [give, hasGiven, Bool.false_eq_true, ↓reduceIte, accept, read]
    rfl

/-- **Grouping.** Names of nodes in one value are read as in two, wherever on a command line. -/
theorem parse_grouped (several : option ∈ [CommandOption.names, .nodes])
    {both one other : List SystemText} (grouped : option.Spells (first ++ "," ++ second) both)
    (spelled : option.Spells first one) (also : option.Spells second other)
    (before after : List SystemText) :
    parse (before ++ (both ++ after)) = parse (before ++ (one ++ (other ++ after))) := by
  apply Reading.finish_append_congr
  · cases grouped <;> simp
  · cases spelled <;> simp
  · intro reading
    rw [Reading.finish_spelled grouped (give_names several _),
      Reading.finish_spelled spelled (give_names several _)]
    simp only [Reading.finish_spelled also (give_names several _), namesIn_append, addNames_append]
    rfl

end Invocation

end

/-! ## What command lines search for

The arguments of the search that a command line asks for are never refused. The names that are
searched for are the trimmed values under `nodes` that are not blank, or under `names` where no
value at all is given under `nodes`; the same goes for the labels. Neither the order of the values
matters, nor repetitions, blanks and grouping (`Program.every_command_line_gives_a_filter`).
-/

/-- An entry is what trimming leaves of a text in a list, unless that is nothing. -/
def Text.IsEntry (texts : List String) (entry : String) : Prop :=
  entry ≠ "" ∧ ∃ text ∈ texts, trim text = entry

/-- An entry is one of the trimmed texts that are not empty. -/
theorem Text.isEntry_iff {texts : List String} {entry : String} :
    IsEntry texts entry ↔ entry ∈ (texts.map trim).filter fun text => !text.isEmpty := by
  rw [List.mem_filter, List.mem_map, Bool.not_eq_true', String.isEmpty_eq_false_iff]
  exact and_comm

/-! ### Arguments of command lines -/

namespace Invocation

/-- The values that names are taken from: those under `nodes`, if there are any, be they blank. -/
def selected (invocation : Invocation) : List String :=
  if invocation.nodes = [] then invocation.names else invocation.nodes

/-- The arguments of the search. -/
def arguments (invocation : Invocation) : Attributes := .ofList invocation.keywords

/-- The value of an argument, if texts are given for it. -/
def given? (texts : List String) : Option Value :=
  if texts.isEmpty then none else some (.ofTexts texts)

/-- An argument is there exactly if texts are given for it. -/
theorem lookup_keywords (invocation : Invocation) (name : String) :
    invocation.keywords.lookup name =
      ([("names", invocation.names), ("nodes", invocation.nodes),
        ("labels", invocation.labels)].lookup name).bind given? := by
  have distinct : ([("names", invocation.names), ("nodes", invocation.nodes),
      ("labels", invocation.labels)].map Prod.fst).Nodup := by
    change ["names", "nodes", "labels"].Nodup
    decide
  apply Option.ext
  intro value
  rw [lookup_eq_some_iff_mem invocation.nodup_keywords, keywords, List.mem_filterMap,
    Option.bind_eq_some_iff]
  constructor
  · rintro ⟨⟨key, texts⟩, member, kept⟩
    by_cases nothing : texts.isEmpty = true
    · simp [nothing] at kept
    · simp only [nothing, Bool.false_eq_true, ↓reduceIte, Option.some.injEq, Prod.mk.injEq] at kept
      obtain ⟨rfl, rfl⟩ := kept
      exact ⟨texts, lookup_of_mem distinct member, if_neg nothing⟩
  · rintro ⟨texts, found, given⟩
    refine ⟨(name, texts), mem_of_lookup found, ?_⟩
    by_cases nothing : texts.isEmpty = true
    · simp [given?, nothing] at given
    · simpa [given?, nothing] using given

/-- Values on a command line give their entries. -/
theorem gives_given?_iff {texts : List String} {entry : String} :
    TextSet.Gives (given? texts) entry ↔ Text.IsEntry texts entry := by
  cases texts with
  | nil => simp [given?, TextSet.Gives, Text.IsEntry]
  | cons text texts =>
      rw [given?, if_neg (by simp), Value.ofTexts, ← TextSet.mem_entries_iff, Text.isEntry_iff]

theorem isReadable_given? (texts : List String) : TextSet.IsReadable (given? texts) := by
  unfold given?
  split
  · trivial
  · exact TextSet.isReadable_ofTexts texts

/-- The arguments of a command line are found under their names. -/
theorem get?_arguments (invocation : Invocation) (name : String) :
    invocation.arguments.get? name =
      ([("names", invocation.names), ("nodes", invocation.nodes),
        ("labels", invocation.labels)].lookup name).bind given? :=
  (Attributes.get?_ofList invocation.nodup_keywords name).trans (invocation.lookup_keywords name)

/-- A command line gives no arguments under other names. -/
theorem getSome?_arguments_of_notMem (invocation : Invocation) {name : String}
    (other : name ∉ ["names", "nodes", "labels"]) : invocation.arguments.getSome? name = none := by
  apply Attributes.getSome?_of_absent
  rw [get?_arguments, Classical.not_not.1 (mt lookup_ne_none_iff.1 other), Option.bind_none]

/-- Names are searched for as the command line selects them. -/
theorem get?_namesKey (invocation : Invocation) :
    invocation.arguments.get? (NodeFilter.namesKey invocation.arguments) =
      given? invocation.selected := by
  rw [Inventory.get?_namesKey, get?_arguments, get?_arguments]
  change (given? invocation.nodes).or (given? invocation.names) = given? invocation.selected
  unfold selected given?
  by_cases nothing : invocation.nodes = []
  · simp [nothing]
  · simp [nothing]

/-- The arguments of a command line stand for a filter. -/
theorem exists_filter (invocation : Invocation) :
    ∃ filter, NodeFilter.ofArguments Inventory.kind invocation.arguments = .ok filter ∧
      (∀ name, name ∈ filter.names.texts ↔ Text.IsEntry invocation.selected name) ∧
      ∀ label, label ∈ filter.labels.texts ↔ Text.IsEntry invocation.labels label := by
  have labelled : invocation.arguments.get? "labels" = given? invocation.labels :=
    invocation.get?_arguments "labels"
  have reads (key : String) (texts : List String) :
      ∃ set, TextSet.ofValue? Inventory.kind key (given? texts) = .ok set :=
    TextSet.exists_ofValue?_iff.2 (isReadable_given? texts)
  obtain ⟨names, readNames⟩ := reads (NodeFilter.namesKey invocation.arguments) invocation.selected
  obtain ⟨labels, readLabels⟩ := reads "labels" invocation.labels
  refine ⟨⟨names, labels⟩, ?_, fun name => ?_, fun label => ?_⟩
  · rw [NodeFilter.ofArguments_eq_ok_iff, get?_namesKey, labelled]
    exact ⟨readNames, readLabels⟩
  · rw [(TextSet.ofValue?_eq_ok_iff.1 readNames).2, gives_given?_iff]
  · rw [(TextSet.ofValue?_eq_ok_iff.1 readLabels).2, gives_given?_iff]

/-- Two command lines give the same values for their searches, apart from the order, from
repetitions and from blanks, and both give values under `nodes` or neither does. -/
structure SearchesAlike (first second : Invocation) : Prop where
  names : ∀ entry, Text.IsEntry first.names entry ↔ Text.IsEntry second.names entry
  nodes : ∀ entry, Text.IsEntry first.nodes entry ↔ Text.IsEntry second.nodes entry
  labels : ∀ entry, Text.IsEntry first.labels entry ↔ Text.IsEntry second.labels entry
  given : first.nodes = [] ↔ second.nodes = []

variable {first second : Invocation}

/-- Command lines that search alike select the same entries. -/
theorem SearchesAlike.selected (alike : first.SearchesAlike second) (entry : String) :
    Text.IsEntry first.selected entry ↔ Text.IsEntry second.selected entry := by
  by_cases nothing : first.nodes = []
  · rw [Invocation.selected, Invocation.selected, if_pos nothing, if_pos (alike.given.1 nothing)]
    exact alike.names entry
  · rw [Invocation.selected, Invocation.selected, if_neg nothing, if_neg (mt alike.given.2 nothing)]
    exact alike.nodes entry

/-- Command lines that search alike have one filter. -/
theorem SearchesAlike.ofArguments_eq (alike : first.SearchesAlike second) :
    NodeFilter.ofArguments Inventory.kind first.arguments =
      NodeFilter.ofArguments Inventory.kind second.arguments := by
  obtain ⟨filter, read, names, labels⟩ := first.exists_filter
  obtain ⟨other, also, otherNames, otherLabels⟩ := second.exists_filter
  have sameNames : filter.names = other.names := TextSet.ext fun name => by
    rw [names, otherNames, alike.selected]
  have sameLabels : filter.labels = other.labels := TextSet.ext fun label => by
    rw [labels, otherLabels, alike.labels]
  have same : filter = other := by
    cases filter
    cases sameNames
    cases sameLabels
    rfl
  rw [read, also, same]

end Invocation

/-! ### Complaints about arguments -/

/-- Three stages complain about arguments. -/
theorem Complaint.stage_mem (key : String) (complaint : Complaint) :
    complaint.stage key ∈ [Inventory.Stage.target, .filter, .settings] := by
  have ofKey : Inventory.Stage.ofKey key ∈ [Inventory.Stage.target, .filter, .settings] := by
    unfold Inventory.Stage.ofKey
    split
    · simp
    · split <;> simp
  unfold Complaint.stage
  split
  · split <;> simp
  · exact ofKey

/-- A resolution with a filter whose target and settings are no arguments does not complain about
arguments. -/
theorem Inventory.Resolution.ne_badArgument {σ : Type} {resolution : Resolution σ}
    (targetless : resolution.arguments.getSome? "kube_config" = none)
    (settingless : resolution.arguments.getSome? "ssh_config" = none)
    {filter : NodeFilter} (read : resolution.filter = .ok filter)
    (function key : String) (complaint : Complaint) :
    resolution.run.result ≠ .error (.badArgument function key complaint) := by
  intro fails
  have first : resolution.firstFailure? = some (.badArgument function key complaint) := by
    rw [← resolution.course.1, fails]
    rfl
  obtain ⟨stage, here, _⟩ := resolution.exists_stage_of_firstFailure? first
  have known : some (complaint.stage key) = some stage := resolution.stage?_of_failureAt? here
  -- Three stages can complain about arguments. The filter is read, and the other two fail for want
  -- of a default only.
  have among := complaint.stage_mem key
  rw [Option.some.inj known] at among
  cases stage with
  | target =>
      rw [failureAt?, Resolution.target, Inventory.target, targetless] at here
      cases found : resolution.session.kube with
      | none => simp [found, failure?] at here
      | some target => simp [found, failure?] at here
  | filter =>
      rw [failureAt?, read] at here
      cases here
  | settings =>
      rw [failureAt?, settings, sshSettings, settingless] at here
      cases found : resolution.session.ssh with
      | none => simp [found, failure?] at here
      | some target => simp [found, failure?] at here
  | connection | search | nodes => simp at among

/-! ### Runs -/

namespace Program

variable {σ τ : Type}

/-- The resolution in a run, with the defaults and in the world that the run has come to. -/
def resolution (surroundings : Surroundings (StateM σ)) (invocation : Invocation)
    (defaults : SavedDefaults) (world : σ) : Inventory.Resolution σ :=
  let found := (surroundings.environment.fallbackKubeconfig? surroundings.files).run world
  ⟨surroundings.clusters invocation.timeoutSeconds, defaults.session found.1, invocation.arguments,
    found.2⟩

/-- A run resolves with the session of its defaults. -/
theorem resolve_eq (surroundings : Surroundings (StateM σ)) (invocation : Invocation)
    (defaults : SavedDefaults) :
    resolve surroundings invocation defaults =
      surroundings.environment.fallbackKubeconfig? surroundings.files >>= fun fallback =>
        Inventory.resolve (surroundings.clusters invocation.timeoutSeconds)
          (defaults.session fallback) invocation.arguments := by
  unfold resolve
  rw [Attributes.ofKeywords_of_nodup Inventory.kind invocation.nodup_keywords]
  rfl

/-- A run resolves as its resolution does. -/
theorem run_resolve (surroundings : Surroundings (StateM σ)) (invocation : Invocation)
    (defaults : SavedDefaults) (world : σ) :
    (resolve surroundings invocation defaults).run world =
      let resolved := (resolution surroundings invocation defaults world).run
      (resolved.result, resolved.world) := by
  rw [resolve_eq, run_bind]
  exact Inventory.run_resolve _ _ _ _

/-- Command lines that search alike resolve alike. -/
theorem resolve_congr {first second : Invocation} (alike : first.SearchesAlike second)
    (timeouts : first.timeoutSeconds = second.timeoutSeconds)
    (surroundings : Surroundings (StateM σ)) (defaults : SavedDefaults) :
    resolve surroundings first defaults = resolve surroundings second defaults := by
  have targetless (invocation : Invocation) :=
    invocation.getSome?_arguments_of_notMem (show "kube_config" ∉ _ by decide)
  have settingless (invocation : Invocation) :=
    invocation.getSome?_arguments_of_notMem (show "ssh_config" ∉ _ by decide)
  rw [resolve_eq, resolve_eq, timeouts]
  congr 1
  funext fallback
  apply Inventory.resolve_congr
  · rw [Inventory.target, Inventory.target, targetless, targetless]
  · exact alike.ofArguments_eq
  · rw [Inventory.sshSettings, Inventory.sshSettings, settingless, settingless]

/-- **Every command line gives a filter.** The arguments of the search fold and are read as a
filter, whatever a command line gives, and no run complains about them. The names of the filter are
the trimmed values under `nodes` that are not blank, if any value is given there, and else those
under `names`; its labels are those under `labels`. The filter is what is asked for. Command lines
that give the same but for the order, repetitions and blanks ask for the same, and it does not
matter whether names stand in one value or in two. -/
theorem every_command_line_gives_a_filter {words : List SystemText} {invocation : Invocation}
    (parsed : Invocation.parse words = .ok invocation) :
    (∃ arguments filter,
      Attributes.ofKeywords Inventory.kind invocation.keywords = .ok arguments ∧
      NodeFilter.ofArguments Inventory.kind arguments = .ok filter ∧
      (∀ name, name ∈ filter.names.texts ↔ Text.IsEntry
        (if invocation.nodes = [] then invocation.names else invocation.nodes) name) ∧
      (∀ label, label ∈ filter.labels.texts ↔ Text.IsEntry invocation.labels label) ∧
      ∀ (surroundings : Surroundings (StateM σ)) (merged : SavedDefaults) (world between : σ),
        (beginning surroundings invocation).run world = (.ok merged, between) →
        let resolution := resolution surroundings invocation merged between
        (∃ errors, (run surroundings words).run world =
          ({ conclude invocation.format resolution.run.result with errors },
            resolution.run.world)) ∧
        (∀ function key complaint,
          resolution.run.result ≠ .error (.badArgument function key complaint)) ∧
        resolution.run.queries =
          resolution.searcher?.toList.map fun _ => Inventory.nodeQuery filter) ∧
    (∀ other : Invocation, invocation.SearchesAlike other →
      (∀ (surroundings : Surroundings (StateM σ)) (elsewhere : Surroundings (StateM τ))
        (defaults others : SavedDefaults) (world : σ) (beyond : τ),
        ∀ query ∈ (resolution surroundings invocation defaults world).run.queries,
        ∀ also ∈ (resolution elsewhere other others beyond).run.queries, query = also) ∧
      (invocation.timeoutSeconds = other.timeoutSeconds →
        ∀ (surroundings : Surroundings (StateM σ)) (defaults : SavedDefaults),
          resolve surroundings invocation defaults = resolve surroundings other defaults)) ∧
    ∀ option ∈ [CommandOption.names, .nodes], ∀ first second both one other,
      option.Spells (first ++ "," ++ second) both → option.Spells first one →
      option.Spells second other → ∀ before after,
        Invocation.parse (before ++ (both ++ after)) =
          Invocation.parse (before ++ (one ++ (other ++ after))) := by
  obtain ⟨filter, read, names, labels⟩ := invocation.exists_filter
  refine ⟨⟨invocation.arguments, filter, ?_, read, names, labels, ?_⟩, ?_, ?_⟩
  · exact Attributes.ofKeywords_of_nodup Inventory.kind invocation.nodup_keywords
  · intro surroundings merged world between begins resolution
    have filtered : resolution.filter = .ok filter := read
    refine ⟨?_, ?_, ?_⟩
    · obtain ⟨errors, ends⟩ := run_of_beginning begins
      rw [run_resolve] at ends
      rw [run, parsed]
      exact ⟨errors, ends⟩
    · apply Inventory.Resolution.ne_badArgument _ _ filtered
      · exact invocation.getSome?_arguments_of_notMem (by decide)
      · exact invocation.getSome?_arguments_of_notMem (by decide)
    · rw [resolution.queries_run, Inventory.Resolution.query?, filtered]
      cases resolution.searcher? <;> rfl
  · intro other alike
    refine ⟨?_, fun timeouts surroundings => resolve_congr alike timeouts surroundings⟩
    intro surroundings elsewhere defaults others world beyond query asked also askedAlso
    obtain ⟨_, found, rfl⟩ := Inventory.Resolution.exists_filter_of_mem_queries asked
    obtain ⟨_, foundAlso, rfl⟩ := Inventory.Resolution.exists_filter_of_mem_queries askedAlso
    have same := (found.symm.trans alike.ofArguments_eq).trans foundAlso
    rw [Except.ok.inj same]
  · intro option several first second both one other grouped spelled also before after
    exact Invocation.parse_grouped several grouped spelled also before after

/-- Blanks, a repetition and an empty label do not matter. A blank value under `nodes` hides the
names, so that none is asked for. -/
theorem every_command_line_gives_a_filter_of_blanks :
    let words := ["--names=b,\u2003a", "-l", " x=1", "--names", "a ", "--labels="].map
      SystemText.ofText
    let invocation : Invocation := { names := ["b", "\u2003a", "a "], labels := [" x=1", ""] }
    let other : Invocation := { names := ["a", "b"], labels := ["x=1"] }
    let masked : Invocation := { names := ["a", "b"], nodes := [" "], labels := ["x=1"] }
    let query : Query :=
      { group := "core", kind := "nodes", names := ["a", "b"], labels := ["x=1"] }
    let resolution := resolution (onList nodeless) invocation {} []
    Invocation.parse words = .ok invocation ∧
      Attributes.ofKeywords Inventory.kind invocation.keywords = .ok invocation.arguments ∧
      (beginning (onList nodeless) invocation).run [] = (.ok {}, []) ∧
      (∃ errors, (run (onList nodeless) words).run [] = ({ code := 1, errors }, [])) ∧
      resolution.run.result = .error (.missingDefault Inventory.kind "ssh_config") ∧
      resolution.run.queries = [query] ∧
      invocation.SearchesAlike other ∧
      resolve (onList nodeless) invocation {} = resolve (onList nodeless) other {} ∧
      NodeFilter.ofArguments Inventory.kind masked.arguments = .ok ⟨.empty, .ofList ["x=1"]⟩ ∧
      Invocation.parse (["-l", "x=1", "--names", "a,b"].map .ofText) =
        Invocation.parse (["-l", "x=1", "--names=a", "--names", "b"].map .ofText) := by
  intro words invocation other masked query resolution
  have parsed : Invocation.parse words = .ok invocation := rfl
  have begins : (beginning (onList nodeless) invocation).run [] = (.ok {}, []) := rfl
  have refused : resolution.run.result =
      .error (.missingDefault Inventory.kind "ssh_config") := by
    dsimp only [resolution, invocation]
    rfl
  have filters : NodeFilter.ofArguments Inventory.kind invocation.arguments =
      .ok ⟨.ofList ["a", "b"], .ofList ["x=1"]⟩ := by
    dsimp only [invocation]
    rfl
  have masks : NodeFilter.ofArguments Inventory.kind masked.arguments =
      .ok ⟨.empty, .ofList ["x=1"]⟩ := by
    dsimp only [masked]
    rfl
  have alike : invocation.SearchesAlike other := by
    have names : (invocation.names.map Text.trim).filter (fun text => !text.isEmpty) =
        ["b", "a", "a"] := by decide
    have labels : (invocation.labels.map Text.trim).filter (fun text => !text.isEmpty) =
        ["x=1"] := by decide
    have otherNames : (other.names.map Text.trim).filter (fun text => !text.isEmpty) =
        ["a", "b"] := by decide
    have otherLabels : (other.labels.map Text.trim).filter (fun text => !text.isEmpty) =
        ["x=1"] := by decide
    refine ⟨fun entry => ?_, fun entry => Iff.rfl, fun entry => ?_, Iff.rfl⟩
    · rw [Text.isEntry_iff, Text.isEntry_iff, names, otherNames]
      simp [or_comm]
    · rw [Text.isEntry_iff, Text.isEntry_iff, labels, otherLabels]
  obtain ⟨⟨arguments, filter, folded, read, _, _, runs⟩, alikes, grouping⟩ :=
    @every_command_line_gives_a_filter _ Nat words invocation parsed
  obtain rfl := Attributes.eq_ofList_of_ofKeywords folded
  obtain rfl := Except.ok.inj (filters.symm.trans read)
  obtain ⟨⟨errors, ends⟩, _, asked⟩ := runs (onList nodeless) {} [] [] begins
  have unchanged : resolution.run.world = [] := by
    dsimp only [resolution, invocation]
    rfl
  refine ⟨parsed, folded, begins, ⟨errors, ?_⟩, refused, ?_, alike, ?_, masks, ?_⟩
  · change (run (onList nodeless) words).run [] =
      ({ conclude invocation.format resolution.run.result with errors },
        resolution.run.world) at ends
    rw [refused, unchanged] at ends
    exact ends
  · apply asked.trans
    dsimp only [invocation]
    rfl
  · exact (alikes other alike).2 rfl _ _
  · exact grouping .names (by decide) "a" "b" _ _ _ (.apart rfl) .attached (.apart rfl)
      [.ofText "-l", .ofText "x=1"] []

end Program

end ClusterHosts
