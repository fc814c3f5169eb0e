import ClusterHosts.Proofs.Interchange
import ClusterHosts.Proofs.LaterRuns
import ClusterHosts.Proofs.Merging
import ClusterHosts.Proofs.Untouched

/-! # Saving and the file of the defaults

Where the operations on the file of the defaults succeed, the command line and the content of the
file decide whether a run comes to its resolution. What has been saved by then is the merged
defaults, if they are to be saved and there is a text for them
(`Surroundings.Reliable.defaults_beginsAs`).
-/

namespace ClusterHosts

variable {σ : Type}

/-! ### The file of the defaults -/

/-- The defaults that the content of a file stands for. No file holds no defaults. -/
def SavedDefaults.AreIn (defaults : SavedDefaults) : Option ByteArray → Prop
  | none => defaults = {}
  | some bytes => ∃ text, String.fromUTF8? bytes = some text ∧ parse text = .ok defaults

/-- The operations on the file of the defaults succeed, and no other operation on files touches it.
What is seen of a world is which contents the file has had, the last one first. -/
structure Surroundings.Reliable (surroundings : Surroundings (StateM σ))
    (history : σ → List ByteArray) : Prop where
  /-- The file is there if it has a content. -/
  finds : ∀ path, surroundings.environment.defaultsPath = .ok path → ∀ world,
    ((surroundings.files.isPresent path).run world).1 = !(history world).isEmpty
  reads : ∀ path, surroundings.environment.defaultsPath = .ok path → ∀ world,
    ((surroundings.files.read path).run world).1 = (history world).head?.elim (.error .missing) .ok
  creates : ∀ path parent, surroundings.environment.defaultsPath = .ok path →
    Path.parent? path = some parent →
    ∀ world, ((surroundings.files.createDirectories parent).run world).1 = .ok ()
  replaces : ∀ path, surroundings.environment.defaultsPath = .ok path → ∀ content world,
    ((surroundings.files.replace path content).run world).1 = .ok () ∧
      history ((surroundings.files.replace path content).run world).2 = content :: history world
  isPresent_keeps : ∀ path, Keeps history (surroundings.files.isPresent path)
  isDirectory_keeps : ∀ path, Keeps history (surroundings.files.isDirectory path)
  read_keeps : ∀ path, Keeps history (surroundings.files.read path)
  createDirectory_keeps : ∀ path, surroundings.environment.defaultsPath ≠ .ok path →
    Keeps history (surroundings.files.createDirectory path)
  openLog_keeps : ∀ path, surroundings.environment.defaultsPath ≠ .ok path →
    Keeps history (surroundings.files.openLog path)

/-! ### What is to be saved -/

namespace Program

/-- A command line can be laid over the defaults in a file with a certain content. -/
structure Merges (environment : Environment) (invocation : Invocation)
    (content : Option ByteArray) (merged : SavedDefaults) : Prop where
  located : ∃ path, environment.defaultsPath = .ok path
  accepted : ∃ saved : SavedDefaults, saved.AreIn content ∧
    saved.override invocation = (.ok (), merged)

/-- There is at most one way to read the content of a file and to lay a command line over it. -/
theorem Merges.eq {environment : Environment} {invocation : Invocation}
    {content : Option ByteArray} {first second : SavedDefaults}
    (merges : Merges environment invocation content first)
    (again : Merges environment invocation content second) : first = second := by
  obtain ⟨saved, inside, accepted⟩ := merges.accepted
  obtain ⟨other, insideToo, acceptedToo⟩ := again.accepted
  have same : saved = other := by
    cases content with
    | none => exact Eq.trans inside insideToo.symm
    | some bytes =>
        obtain ⟨text, decoded, parsed⟩ := inside
        obtain ⟨textToo, decodedToo, parsedToo⟩ := insideToo
        rw [decoded] at decodedToo
        cases decodedToo
        rw [parsed] at parsedToo
        cases parsedToo
        rfl
  rw [same, acceptedToo] at accepted
  exact (congrArg Prod.snd accepted).symm

/-- What the content of the file makes of what a run does before its resolution: it ends with the
merged defaults, which are saved if the command line asks for it, or fails and saves nothing. -/
inductive BeginsAs (environment : Environment) (invocation : Invocation)
    (before after : List ByteArray) : Except DefaultsError SavedDefaults → Prop where
  | merged {merged : SavedDefaults} (merges : Merges environment invocation before.head? merged)
      (unasked : ¬ invocation.save = true) (same : after = before) :
      BeginsAs environment invocation before after (.ok merged)
  | saved {merged : SavedDefaults} {text : String}
      (merges : Merges environment invocation before.head? merged)
      (asked : invocation.save = true) (written : merged.text? = some text)
      (added : after = text.toUTF8 :: before) :
      BeginsAs environment invocation before after (.ok merged)
  | unstorable {merged : SavedDefaults}
      (merges : Merges environment invocation before.head? merged)
      (asked : invocation.save = true) (foreign : ¬ merged.IsStorable) (same : after = before) :
      BeginsAs environment invocation before after (.error .noText)
  | refused {error : DefaultsError}
      (refused : ¬ ∃ merged, Merges environment invocation before.head? merged)
      (same : after = before) : BeginsAs environment invocation before after (.error error)

/-- A command line asks for defaults to be saved, and these can be had and stored. -/
structure Saves (environment : Environment) (words : List SystemText)
    (content : Option ByteArray) (merged : SavedDefaults) : Prop where
  asked : ∃ invocation, Invocation.parse words = .ok invocation ∧ invocation.save = true ∧
    Merges environment invocation content merged
  storable : merged.IsStorable

/-- The file is replaced by what is to be saved, and otherwise left as it is. -/
structure Leaves (environment : Environment) (words : List SystemText)
    (before after : List ByteArray) : Prop where
  saved : ∀ merged text, Saves environment words before.head? merged →
    merged.text? = some text → after = text.toUTF8 :: before
  unsaved : (¬ ∃ merged, Saves environment words before.head? merged) → after = before

/-- A command line saves defaults if it asks for it, they can be merged and there is a text for
them. -/
theorem saves_iff {environment : Environment} {invocation : Invocation} {words : List SystemText}
    {content : Option ByteArray} (parsed : Invocation.parse words = .ok invocation)
    (merged : SavedDefaults) :
    Saves environment words content merged ↔
      invocation.save = true ∧ Merges environment invocation content merged ∧
        merged.IsStorable := by
  constructor
  · rintro ⟨⟨other, again, asked, merges⟩, storable⟩
    obtain rfl := Except.ok.inj (parsed.symm.trans again)
    exact ⟨asked, merges, storable⟩
  · rintro ⟨asked, merges, storable⟩
    exact ⟨⟨invocation, parsed, asked, merges⟩, storable⟩

/-- Merged defaults without a text are not saved, nor are any others in their place. -/
theorem Merges.not_saves {environment : Environment} {invocation : Invocation}
    {words : List SystemText} {content : Option ByteArray} {merged : SavedDefaults}
    (merges : Merges environment invocation content merged)
    (parsed : Invocation.parse words = .ok invocation) (foreign : ¬ merged.IsStorable) :
    ¬ ∃ other, Saves environment words content other := by
  rintro ⟨other, saves⟩
  obtain ⟨_, mergesToo, storable⟩ := (saves_iff parsed other).1 saves
  exact foreign (merges.eq mergesToo ▸ storable)

/-- How a run begins decides what it leaves of the file. -/
theorem BeginsAs.leaves {environment : Environment} {invocation : Invocation}
    {words : List SystemText} {before after : List ByteArray}
    {result : Except DefaultsError SavedDefaults}
    (parsed : Invocation.parse words = .ok invocation)
    (begins : BeginsAs environment invocation before after result) :
    Leaves environment words before after := by
  cases begins with
  | merged merges unasked same =>
      refine ⟨fun other text saves _ => ?_, fun _ => same⟩
      exact absurd ((saves_iff parsed other).1 saves).1 unasked
  | @saved merged text merges asked written added =>
      constructor
      · intro other otherText saves writtenToo
        obtain ⟨_, mergesToo, _⟩ := (saves_iff parsed other).1 saves
        rw [← merges.eq mergesToo, written] at writtenToo
        rw [added, Option.some.inj writtenToo]
      · intro nothing
        have storable := SavedDefaults.exists_text?_iff.1 ⟨text, written⟩
        exact absurd ⟨_, (saves_iff parsed _).2 ⟨asked, merges, storable⟩⟩ nothing
  | unstorable merges asked foreign same =>
      have nothing := merges.not_saves parsed foreign
      exact ⟨fun other text saves _ => absurd ⟨other, saves⟩ nothing, fun _ => same⟩
  | refused refused same =>
      refine ⟨fun other text saves _ => ?_, fun _ => same⟩
      exact absurd ⟨other, ((saves_iff parsed other).1 saves).2.1⟩ refused

/-- What a run does before its resolution. -/
def beginning (surroundings : Surroundings (StateM σ)) (invocation : Invocation) :
    StateM σ (Except DefaultsError SavedDefaults) := do
  let _ ← prepareLog surroundings
  defaults surroundings invocation

end Program

/-! ### Loading and saving -/

/-- The directory of the log has a shorter path than the file of the defaults, and the file in it
has another one. -/
theorem Path.log_apart (base : SystemText) :
    (join base (.ofText "log")).length < (join base (.ofText "config.json")).length ∧
      join base (.ofText "config.json") ≠ join (join base (.ofText "log")) Program.logName := by
  obtain ⟨lead, joins⟩ := exists_join_eq base
  obtain ⟨within, joinsWithin⟩ := exists_join_eq (join base (.ofText "log"))
  constructor
  · rw [SystemText.length, SystemText.length, joins _ (by decide), joins _ (by decide),
      List.length_append, List.length_append]
    exact Nat.add_lt_add_left (by decide) _
  · intro same
    have last := congrArg List.getLast? (congrArg SystemText.bytes same)
    rw [joins _ (by decide), joinsWithin _ (by decide), List.getLast?_append,
      List.getLast?_append] at last
    change some 0x6E = some 0x67 at last
    exact absurd last (by decide)

namespace Surroundings.Reliable

variable {surroundings : Surroundings (StateM σ)} {history : σ → List ByteArray}
  (reliable : surroundings.Reliable history)

include reliable

/-- Reading a file leaves the history of the defaults. -/
theorem loadFrom_keeps (path : SystemText) :
    Keeps history (SavedDefaults.loadFrom surroundings.files path) := by
  refine (reliable.isPresent_keeps path).bind fun world => ?_
  split
  · refine (Files.readText_keeps (reliable.read_keeps path)).bind fun world => ?_
    split
    · exact .pure _
    · split
      · exact .pure _
      · exact .pure _
  · exact .pure _

/-- Loading the defaults leaves their history. -/
theorem load_keeps :
    Keeps history (SavedDefaults.load surroundings.files surroundings.environment) := by
  unfold SavedDefaults.load
  cases surroundings.environment.defaultsPath with
  | error error => exact .pure _
  | ok path => exact reliable.loadFrom_keeps path

/-- The file of the defaults is read as the text that its content stands for. -/
theorem readText_eq {path : SystemText} {world : σ} {content : ByteArray}
    (located : surroundings.environment.defaultsPath = .ok path)
    (holds : (history world).head? = some content) :
    ((surroundings.files.readText path).run world).1 =
      (String.fromUTF8? content).elim (.error .notText) .ok := by
  rw [Files.readText, run_bind, reliable.reads path located, holds]
  simp only [Option.elim_some]
  cases String.fromUTF8? content <;> rfl

/-- Defaults are read from their file if its content stands for them. -/
theorem loadFrom_eq_ok_iff {path : SystemText} {world : σ} {saved : SavedDefaults}
    (located : surroundings.environment.defaultsPath = .ok path) :
    ((SavedDefaults.loadFrom surroundings.files path).run world).1 = .ok saved ↔
      saved.AreIn (history world).head? := by
  rw [SavedDefaults.loadFrom, run_bind, reliable.finds path located]
  cases contents : history world with
  | nil =>
      change Except.ok {} = Except.ok saved ↔ saved = {}
      rw [Except.ok.injEq, eq_comm]
  | cons content older =>
      have between := reliable.isPresent_keeps path world
      have holds : (history ((surroundings.files.isPresent path).run world).2).head? =
          some content := by
        rw [between, contents, List.head?_cons]
      simp only [List.isEmpty_cons, Bool.not_false, ↓reduceIte]
      rw [run_bind, reliable.readText_eq located holds]
      simp only [List.head?_cons, SavedDefaults.AreIn]
      cases String.fromUTF8? content with
      | none => simp
      | some text =>
          simp only [Option.elim_some, Option.some.injEq, exists_eq_left']
          cases SavedDefaults.parse text with
          | error cause =>
              constructor
              · intro wrong
                cases wrong
              · intro wrong
                cases wrong
          | ok defaults =>
              change Except.ok defaults = Except.ok saved ↔ Except.ok defaults = Except.ok saved
              rw [Except.ok.injEq, Except.ok.injEq]

/-- Defaults are loaded if there is a place for them and the content there stands for them. -/
theorem load_eq_ok_iff (world : σ) (saved : SavedDefaults) :
    ((SavedDefaults.load surroundings.files surroundings.environment).run world).1 = .ok saved ↔
      (∃ path, surroundings.environment.defaultsPath = .ok path) ∧
        saved.AreIn (history world).head? := by
  rw [SavedDefaults.load]
  cases located : surroundings.environment.defaultsPath with
  | error error =>
      constructor
      · intro gives
        cases gives
      · rintro ⟨⟨path, wrong⟩, _⟩
        cases wrong
  | ok path =>
      rw [reliable.loadFrom_eq_ok_iff located]
      exact ⟨fun inside => ⟨⟨path, rfl⟩, inside⟩, And.right⟩

/-- The directory of the defaults can be made, and their history is left. -/
theorem createParent_eq {path : SystemText}
    (located : surroundings.environment.defaultsPath = .ok path) (world : σ) :
    let prepared := (SavedDefaults.createParent surroundings.files path).run world
    prepared.1 = .ok () ∧ history prepared.2 = history world := by
  unfold SavedDefaults.createParent
  cases lies : Path.parent? path with
  | none => exact ⟨rfl, rfl⟩
  | some parent =>
      -- The directories above the file have shorter paths than the file, so none of them is it.
      have others (other : SystemText) (shorter : other.length < path.length) :
          Keeps history (surroundings.files.createDirectory other) := by
        apply reliable.createDirectory_keeps
        intro same
        rw [located, Except.ok.injEq] at same
        rw [same] at shorter
        exact Nat.lt_irrefl _ shorter
      have keeps := Files.createDirectories_keeps others reliable.isDirectory_keeps
        (Path.length_parent_lt lies) world
      have creates := reliable.creates path parent located lies world
      simp only [run_bind, creates]
      exact ⟨rfl, keeps⟩

/-- Saving puts the text of the defaults into the file. -/
theorem save_eq {path : SystemText} {defaults : SavedDefaults} {text : String}
    (located : surroundings.environment.defaultsPath = .ok path)
    (written : defaults.text? = some text) (world : σ) :
    ((defaults.save surroundings.files surroundings.environment).run world).1 = .ok () ∧
      history ((defaults.save surroundings.files surroundings.environment).run world).2 =
        text.toUTF8 :: history world := by
  obtain ⟨prepared, kept⟩ := reliable.createParent_eq located world
  obtain ⟨replaced, added⟩ := reliable.replaces path located text.toUTF8
    ((SavedDefaults.createParent surroundings.files path).run world).2
  simp only [SavedDefaults.save, located, SavedDefaults.saveTo, run_bind, prepared, written,
    replaced]
  exact ⟨rfl, added.trans (congrArg _ kept)⟩

/-- Saving fails where there is no text for the defaults, and leaves the file as it is. -/
theorem save_of_not_isStorable {path : SystemText} {defaults : SavedDefaults}
    (located : surroundings.environment.defaultsPath = .ok path)
    (foreign : ¬ defaults.IsStorable) (world : σ) :
    ((defaults.save surroundings.files surroundings.environment).run world).1 = .error .noText ∧
      history ((defaults.save surroundings.files surroundings.environment).run world).2 =
        history world := by
  obtain ⟨prepared, kept⟩ := reliable.createParent_eq located world
  have unwritten := SavedDefaults.text?_eq_none_iff.2 foreign
  simp only [SavedDefaults.save, located, SavedDefaults.saveTo, run_bind, prepared, unwritten]
  exact ⟨rfl, kept⟩

/-- The log lies beside the file, in a directory whose path is shorter than that of the file. -/
theorem prepareLog_keeps : Keeps history (Program.prepareLog surroundings) := by
  unfold Program.prepareLog
  extract_lets directory
  obtain ⟨bound, below, others, apart⟩ : ∃ bound, directory.length < bound ∧
      (∀ path : SystemText, path.length < bound →
        surroundings.environment.defaultsPath ≠ .ok path) ∧
      surroundings.environment.defaultsPath ≠
        .ok (Path.join directory Program.logName) := by
    cases found : surroundings.environment.baseDirectory with
    | error error =>
        have missing : surroundings.environment.defaultsPath = .error error := by
          rw [Environment.defaultsPath, found]
          rfl
        rw [missing]
        exact ⟨_, Nat.lt_succ_self _, nofun, nofun⟩
    | ok base =>
        have located : surroundings.environment.defaultsPath =
            .ok (Path.join base (.ofText "config.json")) := by
          rw [Environment.defaultsPath, found]
          rfl
        obtain ⟨below, apart⟩ := Path.log_apart base
        have here : directory = Path.join base (.ofText "log") := by
          simp only [directory, found]
        rw [here, located]
        refine ⟨_, below, fun path shorter same => ?_, fun same => apart (Except.ok.inj same)⟩
        rw [← Except.ok.inj same] at shorter
        exact Nat.lt_irrefl _ shorter
  have creates (path : SystemText) (shorter : path.length < bound) :=
    reliable.createDirectory_keeps path (others path shorter)
  have makes := Files.createDirectories_keeps creates reliable.isDirectory_keeps below
  refine makes.bind fun world => ?_
  split
  · exact .pure _
  · refine (reliable.openLog_keeps _ apart).bind fun world => ?_
    split
    · exact .pure _
    · exact .pure _

/-- What becomes of the defaults of a run is known from the content of the file. -/
theorem defaults_beginsAs (invocation : Invocation) (world : σ) :
    Program.BeginsAs surroundings.environment invocation (history world)
      (history ((Program.defaults surroundings invocation).run world).2)
      ((Program.defaults surroundings invocation).run world).1 := by
  have loading := reliable.load_keeps world
  have loads := reliable.load_eq_ok_iff world
  rcases loaded : (SavedDefaults.load surroundings.files surroundings.environment).run world with
    ⟨error | saved, between⟩
  · rw [loaded] at loading loads
    rw [Program.defaults, run_bind, loaded]
    refine .refused ?_ loading
    -- Defaults that could be merged with would have been loaded.
    rintro ⟨merged, located, saved, inside, _⟩
    cases (loads saved).2 ⟨located, inside⟩
  rw [loaded] at loading loads
  obtain ⟨⟨path, located⟩, inside⟩ := (loads saved).1 rfl
  rcases accepted : saved.override invocation with ⟨error | done, merged⟩
  · rw [Program.defaults, run_bind, loaded]
    simp only [accepted]
    refine .refused ?_ loading
    rintro ⟨merged, located, other, same, merges⟩
    cases (loads other).2 ⟨located, same⟩
    rw [accepted] at merges
    cases merges
  have merges : Program.Merges surroundings.environment invocation (history world).head? merged :=
    ⟨⟨path, located⟩, saved, inside, accepted⟩
  rw [Program.run_defaults loaded accepted]
  by_cases asked : invocation.save = true
  · rw [if_pos asked]
    cases written : merged.text? with
    | some text =>
        obtain ⟨saves, added⟩ := reliable.save_eq located written between
        simp only [saves]
        exact .saved merges asked written (added.trans (congrArg _ loading))
    | none =>
        have foreign := SavedDefaults.text?_eq_none_iff.1 written
        obtain ⟨fails, kept⟩ := reliable.save_of_not_isStorable located foreign between
        simp only [fails]
        exact .unstorable merges asked foreign (kept.trans loading)
  · rw [if_neg asked]
    exact .merged merges asked loading

/-- What a run does before its resolution is known from the content of the file. -/
theorem beginning_beginsAs (invocation : Invocation) (world : σ) :
    Program.BeginsAs surroundings.environment invocation (history world)
      (history ((Program.beginning surroundings invocation).run world).2)
      ((Program.beginning surroundings invocation).run world).1 := by
  rw [Program.beginning, run_bind, ← reliable.prepareLog_keeps world]
  exact reliable.defaults_beginsAs invocation _

/-- A run comes to its resolution if its command line can be laid over what is in the file, and what
is to be saved has a text. -/
theorem exists_beginning_iff {invocation : Invocation} {world : σ} {merged : SavedDefaults} :
    (∃ between, (Program.beginning surroundings invocation).run world = (.ok merged, between)) ↔
      Program.Merges surroundings.environment invocation (history world).head? merged ∧
        (invocation.save = true → merged.IsStorable) := by
  have begins := reliable.beginning_beginsAs invocation world
  rcases begun : (Program.beginning surroundings invocation).run world with
    ⟨error | other, after⟩
  · rw [begun] at begins
    refine iff_of_false (fun ⟨_, wrong⟩ => by cases wrong) fun ⟨merges, storable⟩ => ?_
    cases begins with
    | unstorable mergesToo asked foreign _ => exact foreign (merges.eq mergesToo ▸ storable asked)
    | refused refused _ => exact refused ⟨merged, merges⟩
  · rw [begun] at begins
    have outcome : Program.Merges surroundings.environment invocation (history world).head? other ∧
        (invocation.save = true → other.IsStorable) := by
      cases begins with
      | merged merges unasked _ => exact ⟨merges, fun asked => absurd asked unasked⟩
      | saved merges _ written _ =>
          exact ⟨merges, fun _ => SavedDefaults.exists_text?_iff.1 ⟨_, written⟩⟩
    constructor
    · rintro ⟨between, same⟩
      cases same
      exact outcome
    · rintro ⟨merges, _⟩
      rw [merges.eq outcome.1]
      exact ⟨after, rfl⟩

/-- A run that is to save what has no text ends there. -/
theorem beginning_of_not_isStorable {invocation : Invocation} {world : σ} {merged : SavedDefaults}
    (merges : Program.Merges surroundings.environment invocation (history world).head? merged)
    (asked : invocation.save = true) (foreign : ¬ merged.IsStorable) :
    ∃ after, (Program.beginning surroundings invocation).run world = (.error .noText, after) := by
  have begins := reliable.beginning_beginsAs invocation world
  rcases begun : (Program.beginning surroundings invocation).run world with ⟨result, after⟩
  rw [begun] at begins
  cases begins with
  | merged _ unasked _ => exact absurd asked unasked
  | saved mergesToo _ written _ =>
      have storable := SavedDefaults.exists_text?_iff.1 ⟨_, written⟩
      exact absurd (merges.eq mergesToo ▸ storable) foreign
  | unstorable => exact ⟨after, rfl⟩
  | refused refused _ => exact absurd ⟨merged, merges⟩ refused

/-- A resolution leaves the history of the defaults. -/
theorem resolve_keeps (keep : ∀ seconds, (surroundings.clusters seconds).Keep history)
    (invocation : Invocation) (defaults : SavedDefaults) :
    Keeps history (Program.resolve surroundings invocation defaults) := by
  have fallback : Keeps history
      (surroundings.environment.fallbackKubeconfig? surroundings.files) := by
    unfold Environment.fallbackKubeconfig?
    split
    · exact .pure _
    · split
      · exact .pure _
      · refine (reliable.isPresent_keeps _).bind fun world => ?_
        split
        · exact .pure _
        · exact .pure _
  refine fallback.bind fun world => ?_
  split
  · exact .pure _
  · exact Inventory.resolve_keeps (keep _) _ _

end Surroundings.Reliable

end ClusterHosts
