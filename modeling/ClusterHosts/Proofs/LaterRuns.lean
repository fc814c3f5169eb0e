import ClusterHosts.Program
import ClusterHosts.Proofs.Contact
import ClusterHosts.Proofs.Kept

/-! # Later runs

What a run saves, later runs find, as long as the file stays as it is. So the options of a run that
saves them are the defaults of later runs that do not say otherwise
(`Program.saved_options_become_defaults`).
-/

namespace ClusterHosts

variable {σ : Type}

/-! ### Files that hold texts -/

/-- A file is at a path in a world, and looking at it or reading it does not change the world. -/
structure Files.Holds (files : Files (StateM σ)) (path : SystemText) (content : ByteArray)
    (world : σ) : Prop where
  isPresent : (files.isPresent path).run world = (true, world)
  read : (files.read path).run world = (.ok content, world)

/-- What files are replaced with is stored in them. -/
def Files.Stores (files : Files (StateM σ)) : Prop :=
  ∀ path content world next, (files.replace path content).run world = (.ok (), next) →
    files.Holds path content next

/-- A file that holds a text is read as the text. -/
theorem Files.Holds.readText {files : Files (StateM σ)} {path : SystemText} {text : String}
    {world : σ} (holds : files.Holds path text.toUTF8 world) :
    (files.readText path).run world = (.ok text, world) := by
  have decoded : String.fromUTF8? text.toUTF8 = some text := dif_pos text.isValidUTF8
  rw [Files.readText, run_bind, holds.read]
  simp only [decoded]
  rfl

/-! ### Loading and saving -/

/-- The command line says nothing that could be a default. -/
structure Invocation.IsSilent (invocation : Invocation) : Prop where
  kubeconfig : invocation.kubeconfig = none
  clusterContext : invocation.clusterContext = none
  sshUser : invocation.sshUser = none
  sshPort : invocation.sshPort = none
  privateKey : invocation.privateKey = none
  maxRetries : invocation.maxRetries = none

namespace SavedDefaults

variable {files : Files (StateM σ)} {defaults : SavedDefaults} {path : SystemText} {text : String}
  {world next : σ}

/-- Options that are not given change nothing. -/
theorem override_of_isSilent {invocation : Invocation} (silent : invocation.IsSilent) :
    defaults.override invocation = (.ok (), defaults) := by
  have same : overlaid invocation = id := by
    funext settings
    rw [overlaid, silent.sshPort, silent.privateKey, silent.maxRetries]
    rfl
  have calm : needsUser invocation = false := by
    rw [needsUser, silent.sshPort, silent.privateKey, silent.maxRetries]
    rfl
  rw [override, calm, silent.kubeconfig, silent.clusterContext, silent.sshUser, same, Option.map_id]
  rfl

/-- A file that holds the text of defaults is loaded as the defaults. -/
theorem loadFrom_of_holds (kept : defaults.text? = some text)
    (holds : files.Holds path text.toUTF8 world) :
    (loadFrom files path).run world = (.ok defaults, world) := by
  rw [loadFrom, run_bind, holds.isPresent]
  simp only [↓reduceIte]
  rw [run_bind, holds.readText]
  simp only [parse_of_text? kept]
  rfl

/-- Saving ends with the replacement of the file by the text of the defaults. -/
theorem exists_replace_of_saveTo
    (saves : (saveTo files defaults path).run world = (.ok (), next)) :
    ∃ text, defaults.text? = some text ∧
      ∃ between, (files.replace path text.toUTF8).run between = (.ok (), next) := by
  rw [saveTo, run_bind] at saves
  rcases prepared : (createParent files path).run world with ⟨error | done, between⟩
  · rw [prepared] at saves
    cases saves
  · rw [prepared] at saves
    cases kept : defaults.text? with
    | none =>
        rw [kept] at saves
        cases saves
    | some text =>
        rw [kept] at saves
        simp only [run_bind] at saves
        refine ⟨text, rfl, between, ?_⟩
        rcases replaced : (files.replace path text.toUTF8).run between with ⟨error | done, last⟩
        · rw [replaced] at saves
          cases error <;> cases saves
        · rw [replaced] at saves
          cases saves
          rfl

end SavedDefaults

namespace Program

variable {surroundings : Surroundings (StateM σ)} {invocation : Invocation}
  {saved merged : SavedDefaults} {world between : σ}

/-- The defaults of a run whose options are accepted. -/
theorem run_defaults
    (loads : (SavedDefaults.load surroundings.files surroundings.environment).run world =
      (.ok saved, between))
    (accepted : saved.override invocation = (.ok (), merged)) :
    (defaults surroundings invocation).run world =
      if invocation.save then
        let outcome := (merged.save surroundings.files surroundings.environment).run between
        (outcome.1.map fun _ => merged, outcome.2)
      else (.ok merged, between) := by
  rw [defaults, run_bind, loads]
  simp only [accepted]
  cases invocation.save with
  | false => rfl
  | true =>
      simp only [↓reduceIte, run_bind]
      rcases (merged.save surroundings.files surroundings.environment).run between with
        ⟨error | done, next⟩ <;> rfl

/-- A run without options of its own has the saved defaults, and if it saves them again the file
stays the same. -/
theorem defaults_of_holds (stores : surroundings.files.Stores) {path : SystemText} {text : String}
    {later : σ} (located : surroundings.environment.defaultsPath = .ok path)
    (kept : saved.text? = some text)
    (holds : surroundings.files.Holds path text.toUTF8 later) (silent : invocation.IsSilent) :
    (invocation.save = false →
      (defaults surroundings invocation).run later = (.ok saved, later)) ∧
    ∀ other last, (defaults surroundings invocation).run later = (.ok other, last) →
      other = saved ∧ surroundings.files.Holds path text.toUTF8 last := by
  have loads : (SavedDefaults.load surroundings.files surroundings.environment).run later =
      (.ok saved, later) := by
    rw [SavedDefaults.load, located]
    exact SavedDefaults.loadFrom_of_holds kept holds
  rw [run_defaults loads (SavedDefaults.override_of_isSilent silent)]
  cases saves : invocation.save with
  | false =>
      refine ⟨fun _ => rfl, fun other last same => ?_⟩
      cases same
      exact ⟨rfl, holds⟩
  | true =>
      refine ⟨fun wrong => absurd wrong (by decide), fun other last gives => ?_⟩
      simp only [↓reduceIte] at gives
      rcases outcome : (saved.save surroundings.files surroundings.environment).run later with
        ⟨error | done, next⟩
      · rw [outcome] at gives
        cases gives
      · rw [outcome] at gives
        cases gives
        rw [SavedDefaults.save, located] at outcome
        obtain ⟨other, same, between, replaced⟩ := SavedDefaults.exists_replace_of_saveTo outcome
        obtain rfl := Option.some.inj (same.symm.trans kept)
        exact ⟨rfl, stores path _ between next replaced⟩

/-- **Saved options become the defaults.** There is a text for values if their path is a text, and
it is parsed as these values. A file that they are saved to is loaded as these values as long as it
stays as it is, and saving what is loaded leaves it as it is. After a run whose options are accepted
and saved, a run that says nothing else has the same defaults, and starts the same session, whatever
kubeconfig file is used if none is configured. -/
theorem saved_options_become_defaults (stores : surroundings.files.Stores) :
    (∀ defaults : SavedDefaults,
      ((∃ text, defaults.text? = some text) ↔ defaults.IsStorable) ∧
      ∀ text, defaults.text? = some text → SavedDefaults.parse text = .ok defaults) ∧
    (∀ (defaults : SavedDefaults) (path : SystemText) (world next : σ),
      (SavedDefaults.saveTo surroundings.files defaults path).run world = (.ok (), next) →
      ∃ text, defaults.text? = some text ∧ surroundings.files.Holds path text.toUTF8 next ∧
      ∀ later, surroundings.files.Holds path text.toUTF8 later →
        (SavedDefaults.loadFrom surroundings.files path).run later = (.ok defaults, later) ∧
        ∀ loaded between last,
          (SavedDefaults.loadFrom surroundings.files path).run later = (.ok loaded, between) →
          (SavedDefaults.saveTo surroundings.files loaded path).run between = (.ok (), last) →
          surroundings.files.Holds path text.toUTF8 last) ∧
    ∀ (saved merged : SavedDefaults) (first : Invocation) (world between next : σ),
      (SavedDefaults.load surroundings.files surroundings.environment).run world =
        (.ok saved, between) →
      saved.override first = (.ok (), merged) → first.save = true →
      (merged.save surroundings.files surroundings.environment).run between = (.ok (), next) →
      (defaults surroundings first).run world = (.ok merged, next) ∧
      ∃ path text, surroundings.environment.defaultsPath = .ok path ∧ merged.text? = some text ∧
        surroundings.files.Holds path text.toUTF8 next ∧
        ∀ (later : σ) (second : Invocation),
          surroundings.files.Holds path text.toUTF8 later → second.IsSilent →
          (second.save = false →
            (defaults surroundings second).run later = (.ok merged, later)) ∧
          ∀ other last, (defaults surroundings second).run later = (.ok other, last) →
            other = merged ∧ (∀ fallback, other.session fallback = merged.session fallback) ∧
            surroundings.files.Holds path text.toUTF8 last := by
  have holdsSaved (defaults : SavedDefaults) (path : SystemText) (world next : σ)
      (saves : (SavedDefaults.saveTo surroundings.files defaults path).run world = (.ok (), next)) :
      ∃ text, defaults.text? = some text ∧ surroundings.files.Holds path text.toUTF8 next := by
    obtain ⟨text, kept, between, replaced⟩ := SavedDefaults.exists_replace_of_saveTo saves
    exact ⟨text, kept, stores path _ between next replaced⟩
  refine ⟨?_, ?_, ?_⟩
  · intro defaults
    exact ⟨SavedDefaults.exists_text?_iff, fun text => SavedDefaults.parse_of_text?⟩
  · intro defaults path world next saves
    obtain ⟨text, kept, holds⟩ := holdsSaved defaults path world next saves
    refine ⟨text, kept, holds, fun later holdsLater => ?_⟩
    have loads := SavedDefaults.loadFrom_of_holds kept holdsLater
    refine ⟨loads, fun loaded between last again savesAgain => ?_⟩
    rw [loads] at again
    cases again
    obtain ⟨other, same, holdsAgain⟩ := holdsSaved defaults path later last savesAgain
    rwa [Option.some.inj (kept.symm.trans same)]
  · intro saved merged first world between next loads accepted saves saved
    refine ⟨?_, ?_⟩
    · rw [run_defaults loads accepted, saves, if_pos rfl, saved]
      rfl
    · cases located : surroundings.environment.defaultsPath with
      | error error =>
          rw [SavedDefaults.save, located] at saved
          cases saved
      | ok path =>
          rw [SavedDefaults.save, located] at saved
          obtain ⟨text, kept, holds⟩ := holdsSaved merged path between next saved
          refine ⟨path, text, rfl, kept, holds, ?_⟩
          intro later second holdsLater silent
          obtain ⟨plain, gives⟩ := defaults_of_holds stores located kept holdsLater silent
          refine ⟨plain, fun other last outcome => ?_⟩
          obtain ⟨same, still⟩ := gives other last outcome
          exact ⟨same, fun fallback => by rw [same], still⟩

/-- Files by their paths, the last one that was written first. -/
def fileList : Files (StateM (List (SystemText × ByteArray))) where
  isPresent path := fun files => ((files.lookup path).isSome, files)
  isDirectory _ := pure true
  read path := fun files => ((files.lookup path).elim (.error .missing) .ok, files)
  createDirectory _ := pure (.ok ())
  replace path content := fun files => (.ok (), (path, content) :: files)
  openLog _ := pure (.ok ())

/-- A list of files stores what is written. -/
theorem stores_fileList : fileList.Stores := by
  intro path content world next replaced
  cases replaced
  have found : ((path, content) :: world).lookup path = some content := List.lookup_cons_self
  constructor
  · change ((((path, content) :: world).lookup path).isSome, _) = _
    rw [found]
    rfl
  · change ((((path, content) :: world).lookup path).elim _ _, _) = _
    rw [found]
    rfl

/-- A first run saves a user name and a path in an empty directory, with the port that is the
default anyway; the next has them as its defaults. -/
theorem saved_options_become_defaults_of_first_run :
    let surroundings : Surroundings (StateM (List (SystemText × ByteArray))) :=
      { environment := { home := some (.ofText "/home") }, files := fileList,
        clusters := fun _ => { connect := fun _ => pure (.error "refused") },
        explain := fun _ _ => "unusable" }
    let first : Invocation :=
      { kubeconfig := some (.ofText "/kube"), sshUser := some "core", sshPort := some 22,
        save := true }
    let merged : SavedDefaults :=
      { kubeconfig := some (.ofText "/kube"), ssh := some { username := "core" } }
    let path := SystemText.ofText "/home/.kube-nodes-provider/config.json"
    let text := (merged.jsonWith (some "/kube")).renderPretty
    let next := [(path, text.toUTF8)]
    merged.IsStorable ∧ merged.text? = some text ∧ surroundings.files.Stores ∧
      (SavedDefaults.load surroundings.files surroundings.environment).run [] = (.ok {}, []) ∧
      ({} : SavedDefaults).override first = (.ok (), merged) ∧
      (merged.save surroundings.files surroundings.environment).run [] = (.ok (), next) ∧
      (defaults surroundings first).run [] = (.ok merged, next) ∧
      surroundings.files.Holds path text.toUTF8 next ∧
      Invocation.IsSilent {} ∧
      (defaults surroundings {}).run next = (.ok merged, next) := by
  intro surroundings first merged path text next
  have kept : merged.text? = some text := by
    simp only [SavedDefaults.text?, SavedDefaults.json?, merged, SystemText.text?_ofText,
      Option.map_some, text]
  have loads : (SavedDefaults.load surroundings.files surroundings.environment).run [] =
      (.ok {}, []) := rfl
  have saves : (merged.save surroundings.files surroundings.environment).run [] =
      (.ok (), next) := rfl
  have silent : Invocation.IsSilent {} := ⟨rfl, rfl, rfl, rfl, rfl, rfl⟩
  obtain ⟨texts, _, runs⟩ := @saved_options_become_defaults _ surroundings stores_fileList
  obtain ⟨run, other, again, located, keptAgain, holds, later⟩ :=
    runs {} merged first [] [] next loads rfl rfl saves
  have same : surroundings.environment.defaultsPath = .ok path := rfl
  obtain rfl := Except.ok.inj (same.symm.trans located)
  obtain rfl := Option.some.inj (kept.symm.trans keptAgain)
  exact ⟨(texts merged).1.1 ⟨text, kept⟩, kept, stores_fileList, loads, rfl, saves, run, holds,
    silent, (later next {} holds silent).1 rfl⟩

end Program

end ClusterHosts
