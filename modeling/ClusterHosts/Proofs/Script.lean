import ClusterHosts.Inventory
import ClusterHosts.Proofs.Contact
import Mathlib.Data.List.Basic

/-! # Sessions in a script

The defaults of a session lie in slots, and after the calls of a script each slot has what was last
written to it (`Script.last_write_wins`). -/

namespace ClusterHosts

/-! ## Slots of a session

A session has a slot for each kind of settings. The function that is called by the name of a slot
puts into it what its keywords stand for, and gives what is then found there (`Builtin.call_slot`).
A call by another name stores nothing.
-/

namespace Session

namespace Slot

/-- What is kept in a slot. -/
def Settings : Slot → Type
  | .ssh => SshSettings
  | .kube => KubeTarget
  | .global => GlobalSettings

/-- The settings that attributes stand for. -/
def ofAttributes (slot : Slot) (function : String) (attributes : Attributes) :
    Except CallError slot.Settings :=
  match slot with
  | .ssh => SshSettings.ofAttributes function attributes
  | .kube => KubeTarget.ofAttributes function attributes
  | .global => GlobalSettings.ofAttributes function attributes

/-- The settings that the keywords of a call stand for. -/
def ofKeywords (slot : Slot) (keywords : List (String × Value)) :
    Except CallError slot.Settings := do
  let attributes ← Attributes.ofKeywords slot.name keywords
  slot.ofAttributes slot.name attributes

/-- Settings as a script sees them. -/
def value (slot : Slot) (settings : slot.Settings) : Value :=
  match slot, settings with
  | .ssh, settings => SshSettings.toAttributes settings |>.value
  | .kube, target => KubeTarget.toAttributes target |>.value
  | .global, settings => GlobalSettings.toAttributes settings |>.value

/-- The function that fills a slot. -/
def builtin : Slot → Builtin
  | .ssh => .sshConfig
  | .kube => .kubeConfig
  | .global => .globalConfig

/-- Slots are told apart by their names. -/
theorem name_injective {first second : Slot} (same : first.name = second.name) :
    first = second := by
  cases first <;> cases second <;> first | rfl | exact absurd same (by decide)

/-- No slot has the name of the function that resolves an inventory. -/
theorem name_ne_kind (slot : Slot) : slot.name ≠ Inventory.kind := by
  cases slot <;> decide

end Slot

/-- What a session keeps in a slot. -/
def content (session : Session) (slot : Slot) : Option slot.Settings :=
  match slot with
  | .ssh => session.ssh
  | .kube => session.kube
  | .global => session.global

/-- The session with settings put into a slot. -/
def store (session : Session) (slot : Slot) (settings : slot.Settings) : Session :=
  match slot, settings with
  | .ssh, settings => { session with ssh := some settings }
  | .kube, target => { session with kube := some target }
  | .global, settings => { session with global := some settings }

/-- What a call that fills a slot gives, and the session that it leaves. -/
def fill (session : Session) (slot : Slot) :
    Except CallError slot.Settings → Except CallError Value × Session
  | .ok settings => (.ok (slot.value settings), session.store slot settings)
  | .error error => (.error error, session)

/-- Scripts see what is kept. -/
theorem get?_eq_map_content (session : Session) (slot : Slot) :
    session.get? slot = (session.content slot).map slot.value := by
  cases slot <;> rfl

/-- A slot has what was stored in it. -/
@[simp] theorem content_store (session : Session) (slot : Slot) (settings : slot.Settings) :
    (session.store slot settings).content slot = some settings := by
  cases slot <;> rfl

/-- Filling a slot leaves the others as they are. -/
theorem content_store_of_ne (session : Session) {slot other : Slot} (different : other ≠ slot)
    (settings : slot.Settings) :
    (session.store slot settings).content other = session.content other := by
  cases slot <;> cases other <;> first | rfl | exact absurd rfl different

end Session

namespace Builtin

open Session

variable {m : Type → Type} [Monad m]

/-- The name of a slot calls the function that fills it. -/
theorem ofName_slot (slot : Slot) : ofName slot.name = .ok slot.builtin := by
  cases slot <;> rfl

theorem ofName_kind : ofName Inventory.kind = .ok kubeNodesProvider := rfl

/-- Only the slots and the provider give names to functions. -/
theorem ofName_of_unknown {name : String} (noSlot : ∀ slot : Slot, name ≠ slot.name)
    (notProvider : name ≠ Inventory.kind) : ofName name = .error (.unknownFunction name) := by
  have absent : all.find? (fun builtin => builtin.name == name) = none := by
    rw [List.find?_eq_none]
    intro builtin _ same
    have named : builtin.name = name := beq_iff_eq.1 same
    cases builtin with
    | globalConfig => exact noSlot .global named.symm
    | sshConfig => exact noSlot .ssh named.symm
    | kubeConfig => exact noSlot .kube named.symm
    | kubeNodesProvider => exact notProvider named.symm
  rw [ofName, absent]

/-- The function of a slot stores the settings that its arguments stand for, if there are any. -/
theorem apply_slot (clusters : Clusters m) (session : Session) (slot : Slot)
    (arguments : Attributes) :
    slot.builtin.apply clusters session arguments =
      pure (session.fill slot (slot.ofAttributes slot.name arguments)) := by
  cases slot with
  | ssh =>
      simp only [Slot.builtin, apply, name, Slot.ofAttributes]
      cases SshSettings.ofAttributes Slot.ssh.name arguments <;> rfl
  | kube =>
      simp only [Slot.builtin, apply, name, Slot.ofAttributes]
      cases KubeTarget.ofAttributes Slot.kube.name arguments <;> rfl
  | global =>
      simp only [Slot.builtin, apply, name, Slot.ofAttributes]
      cases GlobalSettings.ofAttributes Slot.global.name arguments <;> rfl

/-- **Filling a slot.** A call by the name of a slot asks nothing of clusters. It stores the
settings that its keywords stand for and gives them back, or fails and stores nothing. -/
theorem call_slot (clusters : Clusters m) (session : Session) (slot : Slot)
    (keywords : List (String × Value)) :
    call clusters session slot.name keywords =
      pure (session.fill slot (slot.ofKeywords keywords)) := by
  have named : slot.builtin.name = slot.name := by cases slot <;> rfl
  rw [call, ofName_slot]
  simp only [named, Slot.ofKeywords]
  cases Attributes.ofKeywords slot.name keywords with
  | error error => rfl
  | ok arguments => exact apply_slot clusters session slot arguments

/-- A call by the name of the provider resolves an inventory and stores nothing. -/
theorem call_provider (clusters : Clusters m) (session : Session)
    (keywords : List (String × Value)) :
    call clusters session Inventory.kind keywords =
      match Attributes.ofKeywords Inventory.kind keywords with
      | .error error => pure (.error error, session)
      | .ok arguments =>
          Inventory.resolve clusters session arguments >>= fun outcome =>
            pure (outcome.map fun inventory => inventory.toAttributes.value, session) := by
  rw [call, ofName_kind]
  cases folded : Attributes.ofKeywords Inventory.kind keywords with
  | error error => simp only [name, folded]
  | ok arguments => simp only [name, folded, apply]

/-- A call by any other name fails. -/
theorem call_of_unknown (clusters : Clusters m) (session : Session) {name : String}
    (noSlot : ∀ slot : Slot, name ≠ slot.name) (notProvider : name ≠ Inventory.kind)
    (keywords : List (String × Value)) :
    call clusters session name keywords = pure (.error (.unknownFunction name), session) := by
  rw [call, ofName_of_unknown noSlot notProvider]

end Builtin

/-! ## Runs of scripts

A script calls functions one after the other. Each call meets clusters of its own, and finds the
session and the world that the call before it left. After a run a slot holds what the last
successful call of its function put there, or what it held at the start (`Script.run_content`).
-/

/-- A call in a script, and the clusters as they are at the time of the call. -/
structure Script.Call (σ : Type) where
  clusters : Clusters (StateM σ)
  function : String
  keywords : List (String × Value)

namespace Script

/-- What happened in a call. -/
structure Event where
  function : String
  keywords : List (String × Value)
  /-- The session that the call found. -/
  before : Session
  outcome : Except CallError Value
  /-- What the call asked of clusters. -/
  contacts : List Contact
  /-- The session that the call left. -/
  after : Session

/-- What happened in a run. -/
structure Run (σ : Type) where
  events : List Event
  session : Session
  world : σ

variable {σ : Type}

/-- Makes a call, in a session and a world. -/
def Call.perform (call : Call σ) (session : Session) (world : σ) : Event × σ :=
  let observed :=
    observe (Builtin.call call.clusters.recorded session call.function call.keywords) world
  ({ function := call.function, keywords := call.keywords, before := session
     outcome := observed.result.1, contacts := observed.contacts, after := observed.result.2 },
    observed.world)

/-- Makes calls one after the other. -/
def run : List (Call σ) → Session → σ → Run σ
  | [], session, world => ⟨[], session, world⟩
  | call :: calls, session, world =>
      let (event, next) := call.perform session world
      let rest := run calls event.after next
      ⟨event :: rest.events, rest.session, rest.world⟩

namespace Event

/-- The settings that a call put into a slot: those that its keywords stand for, if it was a
successful call of the slot's function. -/
def stored? (slot : Session.Slot) (event : Event) : Option slot.Settings :=
  if event.outcome.isOk ∧ event.function = slot.name then (slot.ofKeywords event.keywords).toOption
  else none

/-- The value that a successful call of a slot's function gave. -/
def returned? (slot : Session.Slot) (event : Event) : Option Value :=
  if event.function = slot.name then event.outcome.toOption else none

end Event

/-! ### One call -/

variable (call : Call σ) (session : Session) (world : σ)

/-- A call of a slot's function fills the slot, leaves the world as it is and asks nothing. -/
theorem Call.perform_slot (clusters : Clusters (StateM σ)) (slot : Session.Slot)
    (keywords : List (String × Value)) :
    Call.perform ⟨clusters, slot.name, keywords⟩ session world =
      let filled := session.fill slot (slot.ofKeywords keywords)
      (⟨slot.name, keywords, session, filled.1, [], filled.2⟩, world) := by
  simp only [Call.perform, Builtin.call_slot]
  rfl

/-- A call of the provider stores nothing. -/
theorem Call.perform_provider (clusters : Clusters (StateM σ)) (keywords : List (String × Value)) :
    Call.perform ⟨clusters, Inventory.kind, keywords⟩ session world =
      match Attributes.ofKeywords Inventory.kind keywords with
      | .error error => (⟨Inventory.kind, keywords, session, .error error, [], session⟩, world)
      | .ok arguments =>
          let observed := observe (Inventory.resolve clusters.recorded session arguments) world
          let outcome := observed.result.map fun inventory => inventory.toAttributes.value
          (⟨Inventory.kind, keywords, session, outcome, observed.contacts, session⟩,
            observed.world) := by
  simp only [Call.perform, Builtin.call_provider]
  cases Attributes.ofKeywords Inventory.kind keywords <;> rfl

/-- A call of a function that does not exist fails and does nothing. -/
theorem Call.perform_of_unknown (clusters : Clusters (StateM σ)) {function : String}
    (noSlot : ∀ slot : Session.Slot, function ≠ slot.name) (notProvider : function ≠ Inventory.kind)
    (keywords : List (String × Value)) :
    Call.perform ⟨clusters, function, keywords⟩ session world =
      (⟨function, keywords, session, .error (.unknownFunction function), [], session⟩, world) := by
  simp only [Call.perform, Builtin.call_of_unknown _ _ noSlot notProvider]
  rfl

/-- What a call can do. -/
inductive Event.Effect (event : Event) : Prop where
  /-- A call of a slot's function fills the slot. -/
  | stores (slot : Session.Slot) (settings : slot.Settings) (named : event.function = slot.name)
      (read : slot.ofKeywords event.keywords = .ok settings)
      (gives : event.outcome = .ok (slot.value settings)) (silent : event.contacts = [])
      (after : event.after = event.before.store slot settings)
  /-- A call of the provider stores nothing, whether it succeeds or not. -/
  | resolves (named : event.function = Inventory.kind) (after : event.after = event.before)
  /-- Any other call fails and does nothing. -/
  | fails (error : CallError) (gives : event.outcome = .error error) (silent : event.contacts = [])
      (after : event.after = event.before)

/-- **The effect of a call.** Every call fills its slot, or resolves, or fails. -/
theorem Call.effect : (call.perform session world).1.Effect := by
  obtain ⟨clusters, function, keywords⟩ := call
  by_cases slotNamed : ∃ slot : Session.Slot, function = slot.name
  · obtain ⟨slot, rfl⟩ := slotNamed
    rw [Call.perform_slot]
    cases read : slot.ofKeywords keywords with
    | ok settings => exact .stores slot settings rfl read rfl rfl rfl
    | error error => exact .fails error rfl rfl rfl
  · by_cases provider : function = Inventory.kind
    · subst provider
      rw [Call.perform_provider]
      cases Attributes.ofKeywords Inventory.kind keywords <;> exact .resolves rfl rfl
    · rw [Call.perform_of_unknown _ _ _ (not_exists.1 slotNamed) provider]
      exact .fails _ rfl rfl rfl

namespace Event

variable {event : Event} (slot : Session.Slot)

/-- A slot holds after a call what the call stored in it, or else what it held before. -/
theorem Effect.content_after (effect : event.Effect) :
    event.after.content slot = (event.stored? slot).or (event.before.content slot) := by
  cases effect with
  | stores filled settings named read gives silent after =>
      rw [after]
      by_cases same : slot = filled
      · subst same
        simp [stored?, gives, named, read, Except.isOk, Except.toBool, Except.toOption]
      · have elsewhere : event.function ≠ slot.name := by
          rw [named]
          exact fun equal => same (Session.Slot.name_injective equal).symm
        simp [stored?, elsewhere, Session.content_store_of_ne _ same]
  | resolves named after =>
      have elsewhere : event.function ≠ slot.name := by
        rw [named]
        exact (slot.name_ne_kind).symm
      simp [stored?, elsewhere, after]
  | fails error gives silent after =>
      simp [stored?, gives, after, Except.isOk, Except.toBool]

/-- The value that a successful call of a slot's function gave shows what it stored. -/
theorem Effect.returned?_eq (effect : event.Effect) :
    event.returned? slot = (event.stored? slot).map slot.value := by
  by_cases named : event.function = slot.name
  · cases effect with
    | stores filled settings filledNamed read gives silent after =>
        have same : slot = filled := Session.Slot.name_injective (named.symm.trans filledNamed)
        subst same
        simp [returned?, stored?, named, gives, read, Except.isOk, Except.toBool, Except.toOption]
    | resolves provided after => exact absurd (named.symm.trans provided) slot.name_ne_kind
    | fails error gives silent after =>
        simp [returned?, stored?, gives, Except.isOk, Except.toBool, Except.toOption]
  · simp [returned?, stored?, named]

/-- A successful call of a slot's function stores what its keywords stand for, and gives what it
stored. -/
theorem Effect.stores_of_ok (effect : event.Effect) {value : Value}
    (named : event.function = slot.name) (gives : event.outcome = .ok value) :
    ∃ settings, slot.ofKeywords event.keywords = .ok settings ∧ value = slot.value settings ∧
      event.after = event.before.store slot settings := by
  cases effect with
  | stores filled settings filledNamed read gave silent after =>
      have same : slot = filled := Session.Slot.name_injective (named.symm.trans filledNamed)
      subst same
      exact ⟨settings, read, Except.ok.inj (gives.symm.trans gave), after⟩
  | resolves provided after => exact absurd (named.symm.trans provided) slot.name_ne_kind
  | fails error gave silent after => exact absurd (gives.symm.trans gave) (by simp)

/-- A call that fails, or that resolves an inventory, stores nothing. -/
theorem Effect.keeps (effect : event.Effect)
    (idle : (∃ error, event.outcome = .error error) ∨ event.function = Inventory.kind) :
    event.after = event.before := by
  cases effect with
  | stores slot settings named read gives silent after =>
      rcases idle with ⟨error, failed⟩ | provided
      · exact absurd (gives.symm.trans failed) (by simp)
      · exact absurd (named.symm.trans provided) slot.name_ne_kind
  | resolves named after => exact after
  | fails error gives silent after => exact after

/-- Only calls of the provider ask clusters. -/
theorem Effect.silent_of_ne (effect : event.Effect) (other : event.function ≠ Inventory.kind) :
    event.contacts = [] := by
  cases effect with
  | stores slot settings named read gives silent after => exact silent
  | resolves named after => exact absurd named other
  | fails error gives silent after => exact silent

end Event

/-! ### Runs -/

/-- The events of a run are those of its calls, in order. -/
theorem run_events_requests (calls : List (Call σ)) :
    (run calls session world).events.map (fun event => (event.function, event.keywords)) =
      calls.map fun call => (call.function, call.keywords) := by
  induction calls generalizing session world with
  | nil => rfl
  | cons call calls ih =>
      simp only [run, List.map_cons, ih]
      rfl

/-- Every event of a run is what a call can do. -/
theorem run_events_effect (calls : List (Call σ)) :
    ∀ event ∈ (run calls session world).events, event.Effect := by
  induction calls generalizing session world with
  | nil => intro event member; exact absurd member List.not_mem_nil
  | cons call calls ih =>
      intro event member
      rcases List.mem_cons.1 member with rfl | later
      · exact call.effect session world
      · exact ih _ _ event later

/-- After a run a slot holds what was stored in it last, or else what it held at the start. -/
theorem run_content (calls : List (Call σ)) (slot : Session.Slot) :
    (run calls session world).session.content slot =
      ((run calls session world).events.filterMap (Event.stored? slot)).getLast?.or
        (session.content slot) := by
  induction calls generalizing session world with
  | nil => rfl
  | cons call calls ih =>
      simp only [run, ih]
      have head := (call.effect session world).content_after slot
      rw [head]
      cases stored : (call.perform session world).1.stored? slot with
      | none => rw [List.filterMap_cons_none stored]; rfl
      | some settings =>
          rw [List.filterMap_cons_some stored, List.getLast?_cons]
          cases (List.filterMap (Event.stored? slot) _).getLast? <;> rfl

/-- After a run a script finds in a slot what the last successful call of its function gave, or else
what it would have found at the start. -/
theorem run_get? (calls : List (Call σ)) (slot : Session.Slot) :
    (run calls session world).session.get? slot =
      ((run calls session world).events.filterMap (Event.returned? slot)).getLast?.or
        (session.get? slot) := by
  have returned : (run calls session world).events.filterMap (Event.returned? slot) =
      ((run calls session world).events.filterMap (Event.stored? slot)).map slot.value := by
    rw [List.map_filterMap]
    apply List.filterMap_congr
    intro event member
    exact (run_events_effect session world calls event member).returned?_eq slot
  rw [Session.get?_eq_map_content, run_content, returned, Session.get?_eq_map_content,
    List.getLast?_map]
  cases ((run calls session world).events.filterMap (Event.stored? slot)).getLast? <;> rfl

/-- **The last successful write wins, and nothing else writes.** After any calls, a slot holds the
settings that its function stored last, and shows the value that this call gave; without such a call
it is as it was at the start. A call that fails, or that resolves an inventory, changes no slot; a
call that succeeds in storing settings changes only its own; and only calls of the provider ask
clusters. -/
theorem last_write_wins (calls : List (Call σ)) :
    let run := Script.run calls session world
    run.events.map (fun event => (event.function, event.keywords)) =
        calls.map (fun call => (call.function, call.keywords)) ∧
      (∀ slot, run.session.content slot =
        (run.events.filterMap (Event.stored? slot)).getLast?.or (session.content slot)) ∧
      (∀ slot, run.session.get? slot =
        (run.events.filterMap (Event.returned? slot)).getLast?.or (session.get? slot)) ∧
      ∀ event ∈ run.events,
        (∀ slot value, event.function = slot.name → event.outcome = .ok value →
          ∃ settings, slot.ofKeywords event.keywords = .ok settings ∧
            event.stored? slot = some settings ∧ value = slot.value settings ∧
            event.after = event.before.store slot settings ∧
            ∀ other, other ≠ slot → event.after.content other = event.before.content other) ∧
        ((∃ error, event.outcome = .error error) ∨ event.function = Inventory.kind →
          event.after = event.before) ∧
        (event.function ≠ Inventory.kind → event.contacts = []) := by
  intro run
  refine ⟨run_events_requests session world calls, run_content session world calls,
    run_get? session world calls, ?_⟩
  intro event member
  have effect := run_events_effect session world calls event member
  refine ⟨?_, effect.keeps, effect.silent_of_ne⟩
  intro slot value named gives
  obtain ⟨settings, read, shown, after⟩ := effect.stores_of_ok slot named gives
  refine ⟨settings, read, ?_, shown, after, ?_⟩
  · simp [Event.stored?, gives, named, read, Except.isOk, Except.toBool, Except.toOption]
  · intro other different
    rw [after, Session.content_store_of_ne _ different]

/-- Clusters that refuse every connection, in a world that counts the attempts. -/
def refusing : Clusters (StateM Nat) where
  connect _ := modifyGet fun attempts => (.error "refused", attempts + 1)

/-- A user name is stored, a second write without one fails, and a resolution fails in between: the
name stays. -/
theorem last_write_wins_of_failures :
    let stores : Call Nat := ⟨refusing, "ssh_config", [("username", .string "core")]⟩
    let resolves : Call Nat := ⟨refusing, "kube_nodes_provider", [("kube_config", .string "/k")]⟩
    let fails : Call Nat := ⟨refusing, "ssh_config", [("port", .int 2222)]⟩
    let run := Script.run [stores, resolves, fails] {} 0
    let settings : SshSettings := { username := "core" }
    let first := (stores.perform {} 0).1
    let last := (fails.perform { ssh := some settings } 1).1
    (first ∈ run.events ∧ first.function = Session.Slot.ssh.name ∧
        first.outcome = .ok (Session.Slot.ssh.value settings)) ∧
      (last ∈ run.events ∧ last.outcome = .error (.badArgument "ssh_config" "username" .required) ∧
        last.function ≠ Inventory.kind) ∧
      first.after.content .kube = first.before.content .kube ∧ last.after = last.before ∧
      last.contacts = [] ∧ run.session.content .ssh = some settings ∧
      run.session.get? .ssh = some (Session.Slot.ssh.value settings) := by
  intro stores resolves fails run settings first last
  obtain ⟨-, content, shown, each⟩ := last_write_wins {} 0 [stores, resolves, fails]
  have firstMember : first ∈ run.events := List.mem_cons_self
  have lastMember : last ∈ run.events :=
    List.mem_cons_of_mem _ (List.mem_cons_of_mem _ List.mem_cons_self)
  have gives : first.outcome = .ok (Session.Slot.ssh.value settings) := rfl
  have failure : last.outcome = .error (.badArgument "ssh_config" "username" .required) := rfl
  have other : last.function ≠ Inventory.kind := by decide
  obtain ⟨_, _, _, _, _, kept⟩ := (each first firstMember).1 .ssh _ rfl gives
  exact ⟨⟨firstMember, rfl, gives⟩, ⟨lastMember, failure, other⟩, kept .kube (by decide),
    (each last lastMember).2.1 (.inl ⟨_, failure⟩), (each last lastMember).2.2 other,
    content .ssh, shown .ssh⟩

end Script

end ClusterHosts
