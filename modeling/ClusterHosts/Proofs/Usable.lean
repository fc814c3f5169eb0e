import ClusterHosts.Proofs.Interchange
import ClusterHosts.Proofs.Merging
import ClusterHosts.Proofs.Readback
import ClusterHosts.Proofs.Resolution

/-! # Defaults that scripts could have given

Scripts cannot store SSH settings without a user name, nor a target with a blank path. A file of
saved values and a command line can: they decide whether the defaults of a session are usable at its
start, and whatever a script does then, usable defaults stay usable
(`SavedDefaults.session_usable_throughout`).
-/

namespace ClusterHosts

/-- Whether all defaults of a session are usable. -/
def Session.IsUsable (session : Session) : Prop :=
  ∀ slot settings, session.content slot = some settings → slot.IsUsable settings

/-! ### Calls and resolutions -/

namespace Script

variable {σ : Type} (session : Session) (world : σ)

/-- What a call stores is usable. -/
theorem Event.isUsable_of_stored? {event : Event} {slot : Session.Slot} {settings : slot.Settings}
    (stored : event.stored? slot = some settings) : slot.IsUsable settings := by
  unfold Event.stored? at stored
  split at stored
  · cases read : slot.ofKeywords event.keywords with
    | error error =>
        rw [read] at stored
        cases stored
    | ok found =>
        rw [read] at stored
        cases stored
        exact Session.Slot.isUsable_of_ofKeywords read
  · cases stored

/-- What a slot holds after calls is usable, or was there at the start and no call stored
anything. -/
theorem isUsable_of_run (calls : List (Call σ)) {slot : Session.Slot} {settings : slot.Settings}
    (held : (run calls session world).session.content slot = some settings) :
    slot.IsUsable settings ∨ session.content slot = some settings ∧
      ∀ event ∈ (run calls session world).events, event.stored? slot = none := by
  -- The slot holds what was stored last; that was read from keywords.
  rw [run_content] at held
  cases last : ((run calls session world).events.filterMap (Event.stored? slot)).getLast? with
  | some stored =>
      rw [last] at held
      cases held
      obtain ⟨event, _, found⟩ := List.mem_filterMap.1 (List.mem_of_getLast? last)
      exact .inl (Event.isUsable_of_stored? found)
  | none =>
      rw [last] at held
      have nothing := List.getLast?_eq_none_iff.1 last
      exact .inr ⟨held, List.filterMap_eq_nil_iff.1 nothing⟩

/-- Calls keep a session usable. -/
theorem isUsable_session_run {session : Session} (usable : session.IsUsable)
    (calls : List (Call σ)) : (run calls session world).session.IsUsable := by
  intro slot settings held
  rcases isUsable_of_run session world calls held with stored | ⟨kept, _⟩
  · exact stored
  · exact usable slot settings kept

end Script

namespace Inventory

variable {σ : Type}

/-- Settings that are determined are read from an argument, or are the default of the session. -/
theorem isUsable_of_sshSettings {session : Session} {arguments : Attributes}
    {settings : SshSettings} (usable : session.IsUsable)
    (determined : sshSettings session arguments = .ok settings) :
    Session.Slot.ssh.IsUsable settings := by
  unfold sshSettings at determined
  split at determined
  · unfold SshSettings.ofValue at determined
    split at determined
    · exact SshSettings.username_ne_of_ofAttributes determined
    · cases determined
  · split at determined
    · next held =>
        cases determined
        exact usable .ssh settings held
    · cases determined

/-- A resolution that succeeds has read the settings of its inventory. -/
theorem Resolution.settings_of_ok (resolution : Resolution σ) {inventory : Inventory}
    (resolved : resolution.run.result = .ok inventory) :
    resolution.settings = .ok inventory.ssh := by
  have gives : resolution.inventory? = some inventory := by
    rw [← resolution.course.2.1, resolved]
    rfl
  obtain ⟨nodes, _, built⟩ := Option.bind_eq_some_iff.1 gives
  obtain ⟨settings, determined, rfl⟩ := Option.map_eq_some_iff.1 built
  cases outcome : resolution.settings with
  | error error =>
      rw [outcome] at determined
      cases determined
  | ok found =>
      rw [outcome] at determined
      cases determined
      rfl

end Inventory

/-! ### Sessions that start from saved values -/

namespace SavedDefaults

variable {σ : Type} {saved merged : SavedDefaults} {invocation : Invocation}

/-- A session starts with usable defaults if the user name that is meant is not empty, and the path
that is meant is a text and not blank. -/
theorem isUsable_session_iff (accepted : saved.override invocation = (.ok (), merged))
    (fallback : Option SystemText) :
    (merged.session fallback).IsUsable ↔
      (∀ user, saved.effectiveUser? invocation = some user → user ≠ "") ∧
      (∀ path, saved.effectivePath? invocation fallback = some path → path.IsVisible) := by
  rw [session_of_override accepted]
  constructor
  · intro usable
    constructor
    · intro user meant
      have held : saved.effectiveSsh? invocation =
          some (saved.effectiveSettings invocation user) := by
        rw [effectiveSsh?, meant, Option.map_some]
      exact usable .ssh _ held
    · intro path meant
      have held : saved.effectiveTarget? invocation fallback =
          some ⟨path, saved.effectiveContext? invocation⟩ := by
        rw [effectiveTarget?, meant, Option.map_some]
      exact usable .kube _ held
  · rintro ⟨named, visible⟩ slot settings held
    cases slot with
    | ssh =>
        obtain ⟨user, meant, rfl⟩ := Option.map_eq_some_iff.1 held
        exact named user meant
    | kube =>
        obtain ⟨path, meant, rfl⟩ := Option.map_eq_some_iff.1 held
        exact visible path meant
    | global => trivial

/-- **Usable defaults stay usable.** The defaults of a session that starts from saved values and a
command line are usable if and only if the user name that is meant is not empty and the path that is
meant is a text and not blank. After any calls a default is usable, or it is the one from the start.
If the start is usable, all later defaults are read back from their attributes, and so are the SSH
settings of every inventory that is resolved. -/
theorem session_usable_throughout (accepted : saved.override invocation = (.ok (), merged))
    (fallback : Option SystemText) :
    let start := merged.session fallback
    (start.IsUsable ↔
      (∀ user, saved.effectiveUser? invocation = some user → user ≠ "") ∧
      (∀ path, saved.effectivePath? invocation fallback = some path → path.IsVisible)) ∧
    ∀ (calls : List (Script.Call σ)) (world : σ),
      let run := Script.run calls start world
      (∀ slot settings, run.session.content slot = some settings →
        slot.IsUsable settings ∨ start.content slot = some settings ∧
          ∀ event ∈ run.events, event.stored? slot = none) ∧
      (start.IsUsable → ∀ slot settings function, run.session.content slot = some settings →
        slot.ofAttributes function (slot.attributes settings) = .ok settings) ∧
      (start.IsUsable → ∀ resolution : Inventory.Resolution σ, resolution.session = run.session →
        ∀ inventory function, resolution.run.result = .ok inventory →
          inventory.ssh.username ≠ "" ∧
            SshSettings.ofAttributes function inventory.ssh.toAttributes = .ok inventory.ssh) := by
  intro start
  refine ⟨isUsable_session_iff accepted fallback, fun calls world => ⟨?_, ?_, ?_⟩⟩
  · intro slot settings held
    exact Script.isUsable_of_run start world calls held
  · intro usable slot settings function held
    have later := Script.isUsable_session_run world usable calls
    exact Session.Slot.ofAttributes_attributes_iff.2 (later slot settings held)
  · intro usable resolution same inventory function resolved
    have later : resolution.session.IsUsable :=
      same ▸ Script.isUsable_session_run world usable calls
    have named := Inventory.isUsable_of_sshSettings later (resolution.settings_of_ok resolved)
    exact ⟨named, Session.Slot.ofAttributes_attributes_iff.2 named⟩

/-- A call without a user name fails and does no harm to the saved one. -/
theorem session_usable_after_refused_call :
    let settings : SshSettings := { username := "core" }
    let saved : SavedDefaults := { ssh := some settings }
    let merged : SavedDefaults := { saved with kubeconfig := some (.ofText "/kube") }
    let invocation : Invocation := { kubeconfig := some (.ofText "/kube") }
    let calls : List (Script.Call Nat) :=
      [⟨Script.vacant, "ssh_config", [("username", .string "")]⟩]
    let run := Script.run calls (merged.session none) 0
    let resolution : Inventory.Resolution Nat := ⟨Script.vacant, run.session, .empty, run.world⟩
    saved.override invocation = (.ok (), merged) ∧ (merged.session none).IsUsable ∧
      (run.session.content .ssh = some settings ∧
        Session.Slot.ssh.ofAttributes "ssh_config" settings.toAttributes = .ok settings) ∧
      resolution.run.result = .ok ⟨[], settings⟩ ∧ settings.username ≠ "" := by
  intro settings saved merged invocation calls run resolution
  have accepted : saved.override invocation = (.ok (), merged) := rfl
  have held : run.session.content .ssh = some settings := rfl
  have resolved : resolution.run.result = .ok ⟨[], settings⟩ := rfl
  obtain ⟨usable, throughout⟩ := session_usable_throughout accepted none
  have start : (merged.session none).IsUsable := usable.2
    ⟨fun _ meant => Option.some.inj meant ▸ by decide,
      fun _ meant => Option.some.inj meant ▸ ⟨"/kube", rfl, by decide⟩⟩
  obtain ⟨_, readBack, resolves⟩ := throughout calls 0
  exact ⟨accepted, start, ⟨held, readBack start .ssh settings "ssh_config" held⟩, resolved,
    (resolves start resolution rfl _ "ssh_config" resolved).1⟩

/-- A file with an empty user name is loaded. A resolution then gives settings that no script could
have given. -/
theorem empty_user_is_loaded :
    let settings : SshSettings := { username := "" }
    let saved : SavedDefaults := { ssh := some settings }
    let session := saved.session (some (.ofText "/kube"))
    let resolution : Inventory.Resolution Nat := ⟨Script.vacant, session, .empty, 0⟩
    parse "\x7b\"ssh\":\x7b\"username\":\"\"\x7d\x7d" = .ok saved ∧
      saved.override {} = (.ok (), saved) ∧
      session.content .ssh = some settings ∧ ¬ Session.Slot.ssh.IsUsable settings ∧
      resolution.run.result = .ok ⟨[], settings⟩ ∧
      SshSettings.ofAttributes "ssh_config" settings.toAttributes =
        .error (.badArgument "ssh_config" "username" .required) := by
  refine ⟨by cbv, rfl, rfl, fun usable => usable rfl, rfl, ?_⟩
  exact SshSettings.ofAttributes_toAttributes "ssh_config" _

end SavedDefaults

end ClusterHosts
