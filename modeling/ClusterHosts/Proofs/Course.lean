import ClusterHosts.Proofs.Saving

/-! # The course of a run

A run writes an inventory if it resolves one, and nothing otherwise. Where the operations on the
file of the defaults succeed, it is known from the command line and the content of the file whether
a run comes to its resolution, and what it has saved by then
(`Program.writes_inventories_and_saves_merged_defaults`).
-/

namespace ClusterHosts

variable {σ : Type}

/-! ### Runs -/

namespace Program

variable {surroundings : Surroundings (StateM σ)} {invocation : Invocation} {world between : σ}

/-- A run that does not get through its beginning ends with code 1. -/
theorem run_of_beginning_error {error : DefaultsError}
    (fails : (beginning surroundings invocation).run world = (.error error, between)) :
    ∃ errors, (runInvocation surroundings invocation).run world =
      ({ code := 1, errors }, between) := by
  rw [beginning, run_bind] at fails
  rw [runInvocation, run_bind, run_bind, fails]
  exact ⟨_, rfl⟩

/-- A run that gets through its beginning concludes with its resolution. -/
theorem run_of_beginning {merged : SavedDefaults}
    (begins : (beginning surroundings invocation).run world = (.ok merged, between)) :
    ∃ errors, (runInvocation surroundings invocation).run world =
      ({ conclude invocation.format ((resolve surroundings invocation merged).run between).1 with
          errors }, ((resolve surroundings invocation merged).run between).2) := by
  rw [beginning, run_bind] at begins
  rw [runInvocation, run_bind, run_bind, begins]
  exact ⟨_, rfl⟩

/-- Only the beginning of a run touches the file of the defaults. -/
theorem history_runInvocation {history : σ → List ByteArray}
    (reliable : surroundings.Reliable history)
    (keep : ∀ seconds, (surroundings.clusters seconds).Keep history) :
    history ((runInvocation surroundings invocation).run world).2 =
      history ((beginning surroundings invocation).run world).2 := by
  rcases begun : (beginning surroundings invocation).run world with ⟨error | merged, between⟩
  · obtain ⟨errors, run⟩ := run_of_beginning_error begun
    rw [run]
  · obtain ⟨errors, run⟩ := run_of_beginning begun
    rw [run]
    exact reliable.resolve_keeps keep invocation merged between

/-- Whatever comes of the resolution, a run saves what its command line asks to be saved. -/
theorem leaves_run {history : σ → List ByteArray} (reliable : surroundings.Reliable history)
    (keep : ∀ seconds, (surroundings.clusters seconds).Keep history) (words : List SystemText)
    (world : σ) :
    Leaves surroundings.environment words (history world)
      (history ((run surroundings words).run world).2) := by
  unfold run
  cases parsed : Invocation.parse words with
  | error declined =>
      refine ⟨?_, fun _ => rfl⟩
      rintro merged text ⟨⟨invocation, wrong, _⟩, _⟩ _
      rw [parsed] at wrong
      cases wrong
  | ok invocation =>
      rw [history_runInvocation reliable keep]
      exact (reliable.beginning_beginsAs invocation world).leaves parsed

/-- **Runs write inventories and save merged defaults.** A command line that cannot be read ends a
run with code 2, and a failure before or during the resolution ends it with code 1; neither leaves
anything in the output. If the resolution succeeds, the code is 0 and the output is the inventory in
the format that is asked for, with a line break. Where the operations on the file of the defaults
succeed, a run comes to its resolution exactly if the command line can be laid over what is in the
file, and the result has a text if it is to be saved. By then the result is saved if the command
line asks for it, and otherwise the file is as it was; and so it is after the run, whatever comes of
the resolution, if clusters leave it alone. A result that is to be saved and has no text, because
its path is none, ends the run, and the file is as it was. What is saved comes from the options and
the saved values: the filters of the search, and the kubeconfig file that is used if none is
configured, have no part in it. -/
theorem writes_inventories_and_saves_merged_defaults (surroundings : Surroundings (StateM σ))
    (words : List SystemText) (world : σ) :
    (∀ error, Invocation.parse words = .error (.unusable error) →
      ∃ errors, (run surroundings words).run world = ({ code := 2, errors }, world)) ∧
    (∀ invocation, Invocation.parse words = .ok invocation →
      (∀ error after, (beginning surroundings invocation).run world = (.error error, after) →
        ∃ errors, (run surroundings words).run world = ({ code := 1, errors }, after)) ∧
      ∀ merged between, (beginning surroundings invocation).run world = (.ok merged, between) →
        (∀ error after,
          (resolve surroundings invocation merged).run between = (.error error, after) →
          ∃ errors, (run surroundings words).run world = ({ code := 1, errors }, after)) ∧
        ∀ inventory after,
          (resolve surroundings invocation merged).run between = (.ok inventory, after) →
          ∃ errors, (run surroundings words).run world =
            ({ code := 0, output := inventory.render invocation.format ++ "\n", errors }, after)) ∧
    (∀ history, surroundings.Reliable history →
      (∀ invocation, Invocation.parse words = .ok invocation →
        (∀ merged,
          (∃ between, (beginning surroundings invocation).run world = (.ok merged, between)) ↔
            Merges surroundings.environment invocation (history world).head? merged ∧
              (invocation.save = true → merged.IsStorable)) ∧
        (∀ merged, Merges surroundings.environment invocation (history world).head? merged →
          invocation.save = true → ¬ merged.IsStorable →
          ∃ after, (beginning surroundings invocation).run world = (.error .noText, after)) ∧
        Leaves surroundings.environment words (history world)
          (history ((beginning surroundings invocation).run world).2)) ∧
      ((∀ seconds, (surroundings.clusters seconds).Keep history) →
        Leaves surroundings.environment words (history world)
          (history ((run surroundings words).run world).2))) ∧
    ∀ environment invocation content merged, Merges environment invocation content merged →
      (∃ saved : SavedDefaults, saved.AreIn content ∧ merged = {
        kubeconfig := invocation.kubeconfig.or saved.kubeconfig
        clusterContext := saved.effectiveContext? invocation
        ssh := saved.effectiveSsh? invocation
        global := saved.global }) ∧
      ∀ kubeconfigPaths names nodes labels,
        Merges { environment with kubeconfigPaths } { invocation with names, nodes, labels } content
          merged := by
  refine ⟨?_, ?_, ?_, ?_⟩
  · intro error unusable
    rw [run, unusable]
    exact ⟨_, rfl⟩
  · intro invocation parsed
    have running : run surroundings words = runInvocation surroundings invocation := by
      rw [run, parsed]
    rw [running]
    refine ⟨fun error after => run_of_beginning_error, fun merged between begins => ?_⟩
    have ends := run_of_beginning begins
    constructor
    · intro error after fails
      rw [fails] at ends
      exact ends
    · intro inventory after gives
      rw [gives] at ends
      exact ends
  · intro history reliable
    refine ⟨fun invocation parsed => ?_, fun keep => leaves_run reliable keep words world⟩
    have begins := reliable.beginning_beginsAs invocation world
    exact ⟨fun merged => reliable.exists_beginning_iff,
      fun merged => reliable.beginning_of_not_isStorable, begins.leaves parsed⟩
  · intro environment invocation content merged merges
    obtain ⟨saved, inside, accepted⟩ := merges.accepted
    refine ⟨⟨saved, inside, SavedDefaults.eq_of_override accepted⟩, ?_⟩
    intro kubeconfigPaths names nodes labels
    exact ⟨merges.located, saved, inside, accepted⟩

/-! ### A search that is refused -/

/-- The contents that a file of a list has had. -/
def contentsAt (path : SystemText) (files : List (SystemText × ByteArray)) : List ByteArray :=
  (files.filter (·.1 == path)).map Prod.snd

/-- The content of a file is the last that it has had. -/
theorem lookup_eq_head?_contentsAt (path : SystemText) (files : List (SystemText × ByteArray)) :
    files.lookup path = (contentsAt path files).head? := by
  induction files with
  | nil => rfl
  | cons entry files ih =>
      obtain ⟨name, content⟩ := entry
      by_cases same : name = path
      · rw [same, List.lookup_cons_self]
        simp [contentsAt]
      · have other : (path == name) = false := beq_false_of_ne (Ne.symm same)
        rw [List.lookup_cons, other, ih]
        simp [contentsAt, same]

/-- A list of files with certain clusters. -/
def onList (clusters : Clusters (StateM (List (SystemText × ByteArray)))) :
    Surroundings (StateM (List (SystemText × ByteArray))) where
  environment := { home := some (.ofText "/home"), kubeconfigPaths := some (.ofText "/kube") }
  files := fileList
  clusters _ := clusters
  explain _ _ := "unusable"

/-- Clusters that cannot be reached. -/
def refusing : Clusters (StateM (List (SystemText × ByteArray))) where
  connect _ := pure (.error "refused")

/-- Clusters without nodes. -/
def nodeless : Clusters (StateM (List (SystemText × ByteArray))) where
  connect _ := pure (.ok fun _ => pure (.ok []))

/-- The file of the defaults in such surroundings. -/
def listedPath : SystemText := .ofText "/home/.kube-nodes-provider/config.json"

/-- A list of files is a file system that can be relied on. -/
theorem reliable_onList (clusters : Clusters (StateM (List (SystemText × ByteArray)))) :
    (onList clusters).Reliable (contentsAt listedPath) := by
  have here (path : SystemText) (located : (onList clusters).environment.defaultsPath = .ok path) :
      path = listedPath := (Except.ok.inj located).symm
  constructor
  · intro path located world
    rw [here path located]
    change (world.lookup listedPath).isSome = !(contentsAt listedPath world).isEmpty
    rw [lookup_eq_head?_contentsAt]
    cases contentsAt listedPath world <;> rfl
  · intro path located world
    rw [here path located, ← lookup_eq_head?_contentsAt]
    rfl
  · intro path parent located lies world
    unfold Files.createDirectories Files.createUpwards
    split <;> rfl
  · intro path located content world
    rw [here path located]
    refine ⟨rfl, ?_⟩
    change contentsAt listedPath ((listedPath, content) :: world) = _
    simp [contentsAt]
  · exact fun _ _ => rfl
  · exact fun _ _ => rfl
  · exact fun _ _ => rfl
  · exact fun _ _ _ => rfl
  · exact fun _ _ _ => rfl

/-- A cluster that refuses every search leaves files alone. -/
theorem keep_refusing (path : SystemText) : refusing.Keep (contentsAt path) :=
  ⟨fun _ _ => rfl, fun _ _ _ wrong => nomatch wrong⟩

/-- Clusters without nodes leave files alone. -/
theorem keep_nodeless (path : SystemText) : nodeless.Keep (contentsAt path) := by
  refine ⟨fun _ _ => rfl, fun target found searcher connects query => ?_⟩
  cases connects
  exact fun _ => rfl

/-- Where the user name is saved already, another port for it is saved, be the cluster reached or
not, and the label that is searched for is not. A path that is no text is not saved, nor is anything
beside it. Where nothing is saved, the port alone is refused, and so is an option that there is
none. -/
theorem writes_inventories_and_saves_merged_defaults_of_refused_search :
    let words := ["--save", "--ssh-port", "2222", "-l", "x"].map SystemText.ofText
    let invocation : Invocation := { save := true, sshPort := some 2222, labels := ["x"] }
    let foreign := [.ofText "-k", KubeTarget.brokenPath, .ofText "--save"]
    let elsewhere : Invocation := { kubeconfig := some KubeTarget.brokenPath, save := true }
    let saved : SavedDefaults := { ssh := some { username := "core" } }
    let merged : SavedDefaults := { ssh := some { username := "core", port := 2222 } }
    let moved := { saved with kubeconfig := some KubeTarget.brokenPath }
    let before := (saved.jsonWith none).renderPretty.toUTF8
    let after := (merged.jsonWith none).renderPretty.toUTF8
    let world := [(listedPath, before)]
    let history := contentsAt listedPath
    Invocation.parse words = .ok invocation ∧ Invocation.parse foreign = .ok elsewhere ∧
      (onList refusing).Reliable history ∧ (onList nodeless).Reliable history ∧
      Saves (onList refusing).environment words (history world).head? merged ∧
      Merges (onList refusing).environment { invocation with labels := [] } (history world).head?
        merged ∧
      Merges (onList nodeless).environment elsewhere (history world).head? moved ∧
      ¬ moved.IsStorable ∧
      (∃ errors last, (run (onList refusing) words).run world = ({ code := 1, errors }, last) ∧
        history last = [after, before]) ∧
      (∃ errors last, (run (onList nodeless) words).run world =
        ({ code := 0,
           output := (⟨[], { username := "core", port := 2222 }⟩ : Inventory).render .json ++ "\n",
           errors }, last) ∧
        history last = [after, before]) ∧
      (∃ errors last, (run (onList nodeless) foreign).run world = ({ code := 1, errors }, last) ∧
        history last = [before]) ∧
      (∃ errors last, (run (onList nodeless) words).run [] = ({ code := 1, errors }, last) ∧
        history last = []) ∧
      ∃ errors, (run (onList nodeless) [.ofText "--bogus"]).run world =
        ({ code := 2, errors }, world) := by
  intro words invocation foreign elsewhere saved merged moved before after world history
  have parsed : Invocation.parse words = .ok invocation := rfl
  have parsedToo : Invocation.parse foreign = .ok elsewhere := rfl
  have inside : saved.AreIn (history world).head? :=
    ⟨_, dif_pos (String.isValidUTF8 _), SavedDefaults.parse_of_text? rfl⟩
  have merges : Merges (onList refusing).environment invocation (history world).head? merged :=
    ⟨⟨listedPath, rfl⟩, saved, inside, rfl⟩
  have mergesToo : Merges (onList nodeless).environment elsewhere (history world).head? moved :=
    ⟨⟨listedPath, rfl⟩, saved, inside, rfl⟩
  have storable : merged.IsStorable := fun path wrong => by cases wrong
  have unstorable : ¬ moved.IsStorable := by
    intro storable
    exact absurd (storable _ rfl) (by decide : ¬ KubeTarget.brokenPath.IsText)
  have saves : Saves (onList refusing).environment words (history world).head? merged :=
    ⟨⟨invocation, parsed, rfl, merges⟩, storable⟩
  have refuses := reliable_onList refusing
  have answers := reliable_onList nodeless
  refine ⟨parsed, parsedToo, refuses, answers, saves, ?_, mergesToo, unstorable, ?_, ?_, ?_, ?_, ?_⟩
  · obtain ⟨_, _, _, sources⟩ :=
      writes_inventories_and_saves_merged_defaults (onList refusing) words world
    exact (sources _ invocation _ merged merges).2 (some (.ofText "/kube")) [] [] []
  · obtain ⟨_, ends, files, _⟩ :=
      writes_inventories_and_saves_merged_defaults (onList refusing) words world
    obtain ⟨begins, leaves⟩ := files history refuses
    obtain ⟨between, begun⟩ := ((begins invocation parsed).1 merged).2 ⟨merges, fun _ => storable⟩
    obtain ⟨errors, run⟩ := ((ends invocation parsed).2 merged between begun).1 _ between rfl
    have left := (leaves fun _ => keep_refusing listedPath).saved merged _ saves rfl
    rw [run] at left
    exact ⟨errors, between, run, left⟩
  · obtain ⟨_, ends, files, _⟩ :=
      writes_inventories_and_saves_merged_defaults (onList nodeless) words world
    obtain ⟨begins, leaves⟩ := files history answers
    obtain ⟨between, begun⟩ := ((begins invocation parsed).1 merged).2 ⟨merges, fun _ => storable⟩
    obtain ⟨errors, run⟩ := ((ends invocation parsed).2 merged between begun).2 _ between rfl
    have left := (leaves fun _ => keep_nodeless listedPath).saved merged _ saves rfl
    rw [run] at left
    exact ⟨errors, between, run, left⟩
  · obtain ⟨_, ends, files, _⟩ :=
      writes_inventories_and_saves_merged_defaults (onList nodeless) foreign world
    obtain ⟨begins, leaves⟩ := files history answers
    obtain ⟨between, begun⟩ := (begins elsewhere parsedToo).2.1 moved mergesToo rfl unstorable
    obtain ⟨errors, run⟩ := (ends elsewhere parsedToo).1 _ between begun
    have nothing := mergesToo.not_saves parsedToo unstorable
    have left := (leaves fun _ => keep_nodeless listedPath).unsaved nothing
    rw [run] at left
    exact ⟨errors, between, run, left⟩
  · obtain ⟨_, ends, files, _⟩ :=
      writes_inventories_and_saves_merged_defaults (onList nodeless) words []
    obtain ⟨_, leaves⟩ := files history answers
    obtain ⟨errors, run⟩ := (ends invocation parsed).1 .noUser [] rfl
    have nothing :
        ¬ ∃ other, Saves (onList nodeless).environment words (history []).head? other := by
      rintro ⟨other, saves⟩
      obtain ⟨_, ⟨_, none, rfl, accepted⟩, _⟩ := (saves_iff parsed other).1 saves
      cases accepted
    have left := (leaves fun _ => keep_nodeless listedPath).unsaved nothing
    rw [run] at left
    exact ⟨errors, [], run, left⟩
  · obtain ⟨unusable, _⟩ := writes_inventories_and_saves_merged_defaults (onList nodeless)
      [.ofText "--bogus"] world
    exact unusable .unknownArgument rfl

/-- A path that is no text is merged with what was saved, which is nothing here, and is asked to be
saved. But the run fails, and there is still no file. -/
theorem broken_path_is_not_saved :
    let words := [.ofText "-k", KubeTarget.brokenPath, .ofText "--save"]
    let merged : SavedDefaults := { kubeconfig := some KubeTarget.brokenPath }
    (∃ invocation, Invocation.parse words = .ok invocation ∧ invocation.save = true ∧
      Merges (onList nodeless).environment invocation none merged) ∧
    (onList nodeless).Reliable (contentsAt listedPath) ∧
    (run (onList nodeless) words).run [] =
      ({ code := 1,
         errors := "Error: Failed to serialize config\n\nCaused by:\n" ++
           "    path contains invalid UTF-8 characters\n" }, []) := by
  intro words merged
  have parsed : Invocation.parse words =
    .ok { kubeconfig := some KubeTarget.brokenPath, save := true } := rfl
  exact ⟨⟨_, parsed, rfl, ⟨listedPath, rfl⟩, {}, rfl, rfl⟩, reliable_onList nodeless, rfl⟩

end Program

end ClusterHosts
