import ClusterHosts.Proofs.Attributes
import ClusterHosts.Proofs.Readback

/-! # Which attributes are accepted as settings

Settings are read from attributes that all are known and of which each meets what is demanded of it;
every setting is then what its attribute gives, or a default. Of attributes that are not so the
first is to blame: the least unknown name, or else the first attribute, in the order of the
settings, that does not meet its demand (`Session.Slot.accepts_or_blames_first`).
-/

namespace ClusterHosts

/-! ### Names -/

namespace Attributes

variable {attributes : Attributes} {known : List String} {function : String}

/-- A name of an attribute is the least of those that are not known, in the order of their bytes. -/
structure LeastUnknown (attributes : Attributes) (known : List String) (name : String) : Prop where
  member : name ∈ attributes.names
  unknown : name ∉ known
  least : ∀ other ∈ attributes.names, other ∉ known → other ≠ name →
    Text.utf8 name < Text.utf8 other

/-- The names of a struct increase. -/
theorem names_pairwise (attributes : Attributes) :
    attributes.names.Pairwise fun first second => first < second :=
  List.pairwise_map.2 attributes.increasing

/-- Of unknown names the one that is found first is the least. -/
theorem leastUnknown_of_find? {name : String}
    (found : attributes.names.find? (fun name => !known.contains name) = some name) :
    attributes.LeastUnknown known name := by
  obtain ⟨unknown, before, after, split, clear⟩ := List.find?_eq_some_iff_append.1 found
  refine ⟨by simp [split], by simpa using unknown, ?_⟩
  intro other member otherUnknown different
  rw [Text.utf8_lt_utf8_iff]
  rw [split] at member
  rcases List.mem_append.1 member with earlier | later
  · exact absurd (by simpa using clear other earlier) otherUnknown
  · have behind := (List.mem_cons.1 later).resolve_left different
    have sorted := attributes.names_pairwise
    rw [split] at sorted
    exact (List.pairwise_cons.1 (List.pairwise_append.1 sorted).2.1).1 other behind

/-- There is only one least name that is unknown. -/
theorem LeastUnknown.unique {first second : String} (least : attributes.LeastUnknown known first)
    (also : attributes.LeastUnknown known second) : first = second := by
  refine Classical.byContradiction fun different => ?_
  have less := least.least second also.member also.unknown (Ne.symm different)
  have more := also.least first least.member least.unknown different
  exact List.lt_asymm less more

/-- A struct is let through if all of its names are known. -/
theorem refuseUnknown_eq_ok_iff :
    attributes.refuseUnknown function known = .ok () ↔ ∀ name ∈ attributes.names, name ∈ known := by
  refine ⟨fun accepted name member => ?_, refuseUnknown_of_forall function⟩
  unfold refuseUnknown at accepted
  split at accepted
  · cases accepted
  · next nothing => simpa using List.find?_eq_none.1 nothing name member

/-- Of the names that are unknown the least is to blame. -/
theorem refuseUnknown_eq_error_iff {error : CallError} :
    attributes.refuseUnknown function known = .error error ↔
      ∃ name, attributes.LeastUnknown known name ∧
        error = .badArgument function name (.unexpected known) := by
  unfold refuseUnknown
  split
  · next name found =>
      have least := leastUnknown_of_find? found
      constructor
      · intro refused
        cases refused
        exact ⟨name, least, rfl⟩
      · rintro ⟨other, also, rfl⟩
        rw [least.unique also]
  · next nothing =>
      refine iff_of_false (fun refused => by cases refused) ?_
      rintro ⟨name, least, _⟩
      have isKnown : name ∈ known := by simpa using List.find?_eq_none.1 nothing name least.member
      exact least.unknown isKnown

end Attributes

/-! ### Readers of several attributes -/

/-- An attribute is the first that does not meet its demand, and is complained about. -/
inductive FirstFault (attributes : Attributes) : List (String × Demand) → String → Complaint → Prop
  where
  | here {name : String} {demand : Demand} {demands : List (String × Demand)}
      {complaint : Complaint} (refuses : demand.Refuses (attributes.get? name) complaint) :
      FirstFault attributes ((name, demand) :: demands) name complaint
  | behind {name key : String} {demand : Demand} {demands : List (String × Demand)}
      {complaint : Complaint} (met : demand.IsMet (attributes.get? name))
      (later : FirstFault attributes demands key complaint) :
      FirstFault attributes ((name, demand) :: demands) key complaint

/-- Only an attribute that something is demanded of is to blame. -/
theorem FirstFault.name_mem {attributes : Attributes} {demands : List (String × Demand)}
    {name : String} {complaint : Complaint} (fault : FirstFault attributes demands name complaint) :
    name ∈ demands.map Prod.fst := by
  induction fault with
  | here => exact List.mem_cons_self
  | behind _ _ ih => exact List.mem_cons_of_mem _ ih

/-- Where an attribute is to blame, some demand refuses its value. -/
theorem FirstFault.exists_refuses {attributes : Attributes} {demands : List (String × Demand)}
    {name : String} {complaint : Complaint} (fault : FirstFault attributes demands name complaint) :
    ∃ demand : Demand, demand.Refuses (attributes.get? name) complaint := by
  induction fault with
  | here refuses => exact ⟨_, refuses⟩
  | behind _ _ ih => exact ih

/-- A computation succeeds if all demands are met, and otherwise complains about the first attribute
that does not meet its demand. -/
structure Decides {α : Type} (outcome : Except CallError α) (function : String)
    (attributes : Attributes) (demands : List (String × Demand)) : Prop where
  ok : (∃ result, outcome = .ok result) ↔
    ∀ entry ∈ demands, entry.2.IsMet (attributes.get? entry.1)
  error : ∀ error, outcome = .error error ↔
    ∃ name complaint, FirstFault attributes demands name complaint ∧
      error = .badArgument function name complaint

section Decides

variable {α β : Type} {function : String} {attributes : Attributes}

theorem Decides.pure (result : α) : Decides (Pure.pure result) function attributes [] := by
  constructor
  · exact iff_of_true ⟨result, rfl⟩ (by simp)
  · intro error
    refine iff_of_false (fun fails => by cases fails) ?_
    rintro ⟨name, complaint, fault, _⟩
    cases fault

/-- Demands are looked at one after the other. -/
theorem Decides.bind {first : Except CallError α} {next : α → Except CallError β} {name : String}
    {demand : Demand} {demands : List (String × Demand)}
    (answers : Answers first function name demand (attributes.get? name))
    (rest : ∀ result, Decides (next result) function attributes demands) :
    Decides (first >>= next) function attributes ((name, demand) :: demands) := by
  cases first with
  | ok result =>
      have met : demand.IsMet (attributes.get? name) := answers.ok.1 ⟨result, rfl⟩
      change Decides (next result) function attributes _
      constructor
      · rw [(rest result).ok, List.forall_mem_cons]
        exact ⟨fun others => ⟨met, others⟩, fun all => all.2⟩
      · intro error
        rw [(rest result).error error]
        constructor
        · rintro ⟨key, complaint, fault, same⟩
          exact ⟨key, complaint, .behind met fault, same⟩
        · rintro ⟨key, complaint, fault, same⟩
          cases fault with
          | here refuses => exact absurd met (Demand.not_isMet_of_refuses refuses)
          | behind _ later => exact ⟨key, complaint, later, same⟩
  | error failure =>
      obtain ⟨complaint, refuses, rfl⟩ := (answers.error failure).1 rfl
      have unmet := Demand.not_isMet_of_refuses refuses
      constructor
      · refine iff_of_false (fun ⟨_, succeeds⟩ => by cases succeeds) fun all => ?_
        exact unmet (all (name, demand) List.mem_cons_self)
      · intro error
        constructor
        · intro fails
          cases fails
          exact ⟨name, complaint, .here refuses, rfl⟩
        · rintro ⟨key, other, fault, rfl⟩
          cases fault with
          | here also => rw [Demand.complaint_unique also refuses]; rfl
          | behind met _ => exact absurd met unmet

end Decides

/-! ### Settings -/

/-- What is demanded of the attributes of SSH settings, in the order in which they are read. -/
def SshSettings.demands : List (String × Demand) := [
  ("username", .presentText String.isEmpty), ("port", .number UInt16.size),
  ("private_key_path", .text), ("max_retries", .number UInt32.size),
  ("conn_timeout", .number UInt32.size)]

def KubeTarget.demands : List (String × Demand) := [
  ("path", .presentText Text.isBlankText), ("cluster_context", .text)]

def GlobalSettings.demands : List (String × Demand) := [
  ("uid", .text), ("gid", .text), ("workdir", .text), ("output_path", .text)]

/-- SSH settings are what attributes give, and the defaults where they give no number. -/
structure SshSettings.IsGivenBy (settings : SshSettings) (attributes : Attributes) : Prop where
  username : GivesText (attributes.get? "username") (some settings.username)
  port : ∃ number, GivesNumber (attributes.get? "port") number ∧
    settings.port.toNat = number.getD 22
  privateKeyPath : GivesText (attributes.get? "private_key_path") settings.privateKeyPath
  maxRetries : ∃ number, GivesNumber (attributes.get? "max_retries") number ∧
    settings.maxRetries.toNat = number.getD 5
  connTimeout : ∃ number, GivesNumber (attributes.get? "conn_timeout") number ∧
    settings.connTimeout.toNat = number.getD 30

structure KubeTarget.IsGivenBy (target : KubeTarget) (attributes : Attributes) : Prop where
  path : ∃ path, GivesText (attributes.get? "path") (some path) ∧ target.path = .ofText path
  clusterContext : GivesText (attributes.get? "cluster_context") target.clusterContext

structure GlobalSettings.IsGivenBy (settings : GlobalSettings) (attributes : Attributes) : Prop
  where
  uid : GivesText (attributes.get? "uid") settings.uid
  gid : GivesText (attributes.get? "gid") settings.gid
  workdir : GivesText (attributes.get? "workdir") settings.workdir
  outputPath : GivesText (attributes.get? "output_path") settings.outputPath

/-- Attributes give only one value of the settings. -/
theorem SshSettings.IsGivenBy.unique {attributes : Attributes} {first second : SshSettings}
    (given : first.IsGivenBy attributes) (also : second.IsGivenBy attributes) : first = second := by
  obtain ⟨port, givesPort, samePort⟩ := given.port
  obtain ⟨maxRetries, givesRetries, sameRetries⟩ := given.maxRetries
  obtain ⟨connTimeout, givesTimeout, sameTimeout⟩ := given.connTimeout
  obtain ⟨otherPort, givesOtherPort, sameOtherPort⟩ := also.port
  obtain ⟨otherRetries, givesOtherRetries, sameOtherRetries⟩ := also.maxRetries
  obtain ⟨otherTimeout, givesOtherTimeout, sameOtherTimeout⟩ := also.connTimeout
  have usernames := Option.some.inj (given.username.unique also.username)
  have ports : first.port = second.port := by
    rw [← UInt16.toNat_inj, samePort, sameOtherPort, givesPort.unique givesOtherPort]
  have paths := given.privateKeyPath.unique also.privateKeyPath
  have retries : first.maxRetries = second.maxRetries := by
    rw [← UInt32.toNat_inj, sameRetries, sameOtherRetries, givesRetries.unique givesOtherRetries]
  have timeouts : first.connTimeout = second.connTimeout := by
    rw [← UInt32.toNat_inj, sameTimeout, sameOtherTimeout, givesTimeout.unique givesOtherTimeout]
  cases first
  cases second
  rw [SshSettings.mk.injEq]
  exact ⟨usernames, ports, paths, retries, timeouts⟩

theorem KubeTarget.IsGivenBy.unique {attributes : Attributes} {first second : KubeTarget}
    (given : first.IsGivenBy attributes) (also : second.IsGivenBy attributes) : first = second := by
  have paths : first.path = second.path := by
    obtain ⟨path, gives, same⟩ := given.path
    obtain ⟨other, givesToo, sameToo⟩ := also.path
    rw [same, sameToo, Option.some.inj (gives.unique givesToo)]
  have contexts := given.clusterContext.unique also.clusterContext
  cases first
  cases second
  rw [KubeTarget.mk.injEq]
  exact ⟨paths, contexts⟩

theorem GlobalSettings.IsGivenBy.unique {attributes : Attributes} {first second : GlobalSettings}
    (given : first.IsGivenBy attributes) (also : second.IsGivenBy attributes) : first = second := by
  have uids := given.uid.unique also.uid
  have gids := given.gid.unique also.gid
  have workdirs := given.workdir.unique also.workdir
  have outputPaths := given.outputPath.unique also.outputPath
  cases first
  cases second
  rw [GlobalSettings.mk.injEq]
  exact ⟨uids, gids, workdirs, outputPaths⟩

namespace SshSettings

variable {function : String} {attributes : Attributes}

theorem getD_eq (word : Option UInt32) (default : UInt32) :
    (word.getD default).toNat = (word.map UInt32.toNat).getD default.toNat := by
  cases word <;> rfl

/-- Settings that are read are those that the attributes give. -/
theorem isGivenBy_of_ofAttributes {settings : SshSettings}
    (read : ofAttributes function attributes = .ok settings) : settings.IsGivenBy attributes := by
  obtain ⟨username, port, privateKeyPath, maxRetries, connTimeout, retriesRead, timeoutRead,
    retries, timeout⟩ := reads_of_ofAttributes read
  exact {
    username := (username_of_readUsername username).1
    port := port_of_readPort port
    privateKeyPath := givesText_of_optionalText privateKeyPath
    maxRetries :=
      ⟨_, givesNumber_of_optionalNumber retriesRead, retries ▸ getD_eq maxRetries 5⟩
    connTimeout :=
      ⟨_, givesNumber_of_optionalNumber timeoutRead, timeout ▸ getD_eq connTimeout 30⟩ }

end SshSettings

theorem KubeTarget.isGivenBy_of_ofAttributes {function : String} {attributes : Attributes}
    {target : KubeTarget} (read : ofAttributes function attributes = .ok target) :
    target.IsGivenBy attributes := by
  obtain ⟨⟨path, pathRead, same⟩, clusterContext⟩ := reads_of_ofAttributes read
  exact ⟨⟨path, (path_of_readPath pathRead).1, same⟩, givesText_of_optionalText clusterContext⟩

theorem GlobalSettings.isGivenBy_of_ofAttributes {function : String} {attributes : Attributes}
    {settings : GlobalSettings} (read : ofAttributes function attributes = .ok settings) :
    settings.IsGivenBy attributes := by
  unfold ofAttributes at read
  obtain ⟨_, _, read⟩ := Outcome.bind_eq_ok.1 read
  obtain ⟨uid, uidRead, read⟩ := Outcome.bind_eq_ok.1 read
  obtain ⟨gid, gidRead, read⟩ := Outcome.bind_eq_ok.1 read
  obtain ⟨workdir, workdirRead, read⟩ := Outcome.bind_eq_ok.1 read
  obtain ⟨outputPath, outputRead, read⟩ := Outcome.bind_eq_ok.1 read
  cases read
  exact {
    uid := givesText_of_optionalText uidRead
    gid := givesText_of_optionalText gidRead
    workdir := givesText_of_optionalText workdirRead
    outputPath := givesText_of_optionalText outputRead }

namespace Session.Slot

/-- What is demanded of the attributes of settings. -/
def demands : Slot → List (String × Demand)
  | .ssh => SshSettings.demands
  | .kube => KubeTarget.demands
  | .global => GlobalSettings.demands

/-- Settings are what attributes give. -/
def IsGivenBy (slot : Slot) (settings : slot.Settings) (attributes : Attributes) : Prop :=
  match slot, settings with
  | .ssh, settings => SshSettings.IsGivenBy settings attributes
  | .kube, target => KubeTarget.IsGivenBy target attributes
  | .global, settings => GlobalSettings.IsGivenBy settings attributes

variable (slot : Slot) (function : String) (attributes : Attributes)

/-- Behind the check of the names the attributes are read in the order of the demands. -/
theorem exists_decides :
    ∃ rest : Except CallError slot.Settings,
      slot.ofAttributes function attributes =
        (attributes.refuseUnknown function (slot.demands.map Prod.fst) >>= fun _ => rest) ∧
      Decides rest function attributes slot.demands := by
  cases slot with
  | ssh =>
      refine ⟨_, rfl, ?_⟩
      apply Decides.bind SshSettings.answers_readUsername
      intro username
      apply Decides.bind SshSettings.answers_readPort
      intro port
      apply Decides.bind Answers.optionalText
      intro privateKeyPath
      apply Decides.bind Answers.optionalNumber
      intro maxRetries
      apply Decides.bind Answers.optionalNumber
      intro connTimeout
      exact Decides.pure _
  | kube =>
      refine ⟨_, rfl, ?_⟩
      apply Decides.bind KubeTarget.answers_readPath
      intro path
      apply Decides.bind Answers.optionalText
      intro clusterContext
      exact Decides.pure _
  | global =>
      refine ⟨_, rfl, ?_⟩
      apply Decides.bind Answers.optionalText
      intro uid
      apply Decides.bind Answers.optionalText
      intro gid
      apply Decides.bind Answers.optionalText
      intro workdir
      apply Decides.bind Answers.optionalText
      intro outputPath
      exact Decides.pure _

variable {slot function attributes}

/-- Attributes are accepted if all of their names are known and every demand is met. -/
theorem exists_ofAttributes_eq_ok_iff :
    (∃ settings, slot.ofAttributes function attributes = .ok settings) ↔
      (∀ name ∈ attributes.names, name ∈ slot.demands.map Prod.fst) ∧
        ∀ entry ∈ slot.demands, entry.2.IsMet (attributes.get? entry.1) := by
  obtain ⟨rest, split, decides⟩ := slot.exists_decides function attributes
  simp only [split, Outcome.bind_eq_ok]
  rw [← decides.ok, ← Attributes.refuseUnknown_eq_ok_iff]
  constructor
  · rintro ⟨settings, _, accepted, read⟩
    exact ⟨accepted, settings, read⟩
  · rintro ⟨accepted, settings, read⟩
    exact ⟨settings, (), accepted, read⟩

/-- An unknown name is blamed first, and then the first demand that is not met. -/
theorem ofAttributes_eq_error_iff {error : CallError} :
    slot.ofAttributes function attributes = .error error ↔
      (∃ name, attributes.LeastUnknown (slot.demands.map Prod.fst) name ∧
        error = .badArgument function name (.unexpected (slot.demands.map Prod.fst))) ∨
      (∀ name ∈ attributes.names, name ∈ slot.demands.map Prod.fst) ∧
        ∃ name complaint, FirstFault attributes slot.demands name complaint ∧
          error = .badArgument function name complaint := by
  obtain ⟨rest, split, decides⟩ := slot.exists_decides function attributes
  rw [split, Outcome.bind_eq_error, Attributes.refuseUnknown_eq_error_iff, ← decides.error error,
    ← Attributes.refuseUnknown_eq_ok_iff]
  refine or_congr Iff.rfl ⟨?_, ?_⟩
  · rintro ⟨_, accepted, fails⟩
    exact ⟨accepted, fails⟩
  · rintro ⟨accepted, fails⟩
    exact ⟨(), accepted, fails⟩

/-- Settings that are read into a slot are those that the attributes give. -/
theorem isGivenBy_of_ofAttributes {settings : slot.Settings}
    (read : slot.ofAttributes function attributes = .ok settings) :
    slot.IsGivenBy settings attributes := by
  cases slot with
  | ssh => exact SshSettings.isGivenBy_of_ofAttributes read
  | kube => exact KubeTarget.isGivenBy_of_ofAttributes read
  | global => exact GlobalSettings.isGivenBy_of_ofAttributes read

theorem IsGivenBy.unique {first second : slot.Settings} (given : slot.IsGivenBy first attributes)
    (also : slot.IsGivenBy second attributes) : first = second := by
  cases slot with
  | ssh => exact SshSettings.IsGivenBy.unique given also
  | kube => exact KubeTarget.IsGivenBy.unique given also
  | global => exact GlobalSettings.IsGivenBy.unique given also

/-- Attributes that one function reads as settings are read as the same settings by all others. -/
theorem ofAttributes_ok (other : String) {settings : slot.Settings}
    (read : slot.ofAttributes function attributes = .ok settings) :
    slot.ofAttributes other attributes = .ok settings := by
  have accepted : ∃ settings, slot.ofAttributes other attributes = .ok settings :=
    exists_ofAttributes_eq_ok_iff.2 (exists_ofAttributes_eq_ok_iff.1 ⟨settings, read⟩)
  obtain ⟨found, readAgain⟩ := accepted
  rw [readAgain, (isGivenBy_of_ofAttributes readAgain).unique (isGivenBy_of_ofAttributes read)]

variable (slot function attributes) in
/-- **Attributes are accepted, or the first that is wrong is to blame.** Settings are read exactly
if all names are known and all demands are met, and then they are what the attributes give.
Otherwise the least unknown name is to blame; if all are known, it is the first attribute that does
not meet its demand. -/
theorem accepts_or_blames_first :
    let known := slot.demands.map Prod.fst
    let outcome := slot.ofAttributes function attributes
    ((∃ settings, outcome = .ok settings) ↔
      (∀ name ∈ attributes.names, name ∈ known) ∧
        ∀ entry ∈ slot.demands, entry.2.IsMet (attributes.get? entry.1)) ∧
    (∀ settings, outcome = .ok settings → slot.IsGivenBy settings attributes) ∧
    ∀ error, outcome = .error error ↔
      (∃ name, attributes.LeastUnknown known name ∧
        error = .badArgument function name (.unexpected known)) ∨
      (∀ name ∈ attributes.names, name ∈ known) ∧
        ∃ name complaint, FirstFault attributes slot.demands name complaint ∧
          error = .badArgument function name complaint := by
  intro known outcome
  refine ⟨exists_ofAttributes_eq_ok_iff, ?_, ?_⟩
  · intro settings read
    exact isGivenBy_of_ofAttributes read
  · intro error
    exact ofAttributes_eq_error_iff

/-- Numerals are read, the first of two attributes that are wrong is to blame, and of the names that
are not known the least comes before both. -/
theorem accepts_or_blames_first_of_two_faults :
    let numerals := Attributes.ofList [("username", .string "core"), ("port", .string " +0022\n"),
      ("conn_timeout", .string "7"), ("max_retries", .none)]
    let settings : SshSettings := ⟨"core", 22, none, 5, 7⟩
    let faults := Attributes.ofList [("max_retries", .list []), ("username", .string "core"),
      ("port", .ofNat 70000)]
    let others := (faults.set "zone" .none).set "user" .none
    (Slot.ssh.ofAttributes "f" numerals = .ok settings ∧ Slot.ssh.IsGivenBy settings numerals) ∧
      Slot.ssh.ofAttributes "f" faults = .error (.badArgument "f" "port" .outOfRange) ∧
      Slot.ssh.ofAttributes "f" others =
        .error (.badArgument "f" "user" (.unexpected SshSettings.attributeNames)) := by
  intro numerals settings faults others
  obtain ⟨_, given, _⟩ := accepts_or_blames_first .ssh "f" numerals
  obtain ⟨_, _, blames⟩ := accepts_or_blames_first .ssh "f" faults
  obtain ⟨_, _, blamesName⟩ := accepts_or_blames_first .ssh "f" others
  refine ⟨?_, ?_, ?_⟩
  · have read : Slot.ssh.ofAttributes "f" numerals = .ok settings := rfl
    exact ⟨read, given settings read⟩
  · have names : faults.names = ["max_retries", "port", "username"] := by decide
    have username : faults.get? "username" = some (.string "core") := rfl
    have port : faults.get? "port" = some (.ofNat 70000) := rfl
    refine (blames _).2 (.inr ⟨?_, "port", .outOfRange, .behind ?_ (.here ?_), rfl⟩)
    · rw [names]
      decide
    · rw [username]
      exact ⟨"core", .text "core", by decide⟩
    · rw [port]
      exact .outOfRange (.int (n := 70000) (by decide) (by decide)) (by decide)
  · have names : others.names = ["max_retries", "port", "user", "username", "zone"] := by decide
    refine (blamesName _).2 (.inl ⟨"user", ⟨?_, by decide, ?_⟩, rfl⟩)
    · rw [names]
      decide
    · intro other member unknown different
      rw [Text.utf8_lt_utf8_iff]
      rw [names] at member
      revert other
      decide

end Session.Slot

end ClusterHosts
