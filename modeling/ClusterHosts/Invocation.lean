import ClusterHosts.Inventory
import ClusterHosts.Text.Basic
import ClusterHosts.Text.System

/-! # Command lines

The options of a command line, and how its words are read. -/

namespace ClusterHosts

/-! ## What a run of the program is asked for

A command line gives options, of which some may be given several times. Their values are texts of
the system; only the path of a kubeconfig file need not be a text. Names of nodes are separated by
commas within a value; labels are not. The search that a command line asks for is a call with
keyword arguments, as a script would make it.
-/

/-- What a command line asks for. -/
structure Invocation where
  kubeconfig : Option SystemText := none
  clusterContext : Option String := none
  names : List String := []
  nodes : List String := []
  labels : List String := []
  sshUser : Option String := none
  sshPort : Option UInt16 := none
  privateKey : Option String := none
  maxRetries : Option UInt32 := none
  connectTimeout : Option UInt64 := none
  output : Option OutputFormat := none
  verbose : Bool := false
  save : Bool := false
  deriving DecidableEq, Inhabited

/-- Why a command line cannot be read. -/
inductive UsageError where
  | unknownArgument
  /-- A value is missing, or is not one of those that the option takes. -/
  | invalidValue
  /-- A number is not one, or is not in its range. -/
  | invalidNumber
  /-- A value that must be a text is none. -/
  | notText
  /-- An option or switch is given again that can be given only once. -/
  | repeated
  /-- A switch is given a value. -/
  | surplusValue
  deriving DecidableEq

/-- The options that take a value. -/
inductive CommandOption where
  | kubeconfig
  | clusterContext
  | names
  | nodes
  | labels
  | sshUser
  | sshPort
  | privateKey
  | maxRetries
  | connectTimeout
  | output
  deriving DecidableEq

/-- All options that take a value. -/
def CommandOption.all : List CommandOption := [
  .kubeconfig, .clusterContext, .names, .nodes, .labels, .sshUser, .sshPort, .privateKey,
  .maxRetries, .connectTimeout, .output]

/-- The long name of an option. -/
def CommandOption.name : CommandOption → String
  | .kubeconfig => "kubeconfig"
  | .clusterContext => "context"
  | .names => "names"
  | .nodes => "nodes"
  | .labels => "labels"
  | .sshUser => "ssh-user"
  | .sshPort => "ssh-port"
  | .privateKey => "private-key"
  | .maxRetries => "max-retries"
  | .connectTimeout => "connect-timeout"
  | .output => "output"

/-- The letter of an option that has one. -/
def CommandOption.letter? : CommandOption → Option Char
  | .kubeconfig => some 'k'
  | .clusterContext => some 'c'
  | .labels => some 'l'
  | .output => some 'o'
  | _ => none

namespace Invocation

/-- Seconds to wait for a connection to the cluster. -/
def timeoutSeconds (invocation : Invocation) : UInt64 := invocation.connectTimeout.getD 10

/-- The format in which the inventory is written. -/
def format (invocation : Invocation) : OutputFormat := invocation.output.getD .json

/-- The names in a value; a name may be empty. -/
def namesIn (value : String) : List String := Text.splitText ',' value

/-- Whether an option is given that can be given only once. -/
def hasGiven (invocation : Invocation) : CommandOption → Bool
  | .kubeconfig => invocation.kubeconfig.isSome
  | .clusterContext => invocation.clusterContext.isSome
  | .names => false
  | .nodes => false
  | .labels => false
  | .sshUser => invocation.sshUser.isSome
  | .sshPort => invocation.sshPort.isSome
  | .privateKey => invocation.privateKey.isSome
  | .maxRetries => invocation.maxRetries.isSome
  | .connectTimeout => invocation.connectTimeout.isSome
  | .output => invocation.output.isSome

/-- The number below a bound that a value stands for; a minus sign is allowed before a zero. -/
def natural (bound : Nat) (value : String) : Except UsageError Nat :=
  match Text.integer? value with
  | some n => if 0 ≤ n ∧ n < bound then .ok n.toNat else .error .invalidNumber
  | none => .error .invalidNumber

/-- The text that a value must be. -/
def textIn (value : SystemText) : Except UsageError String :=
  match value.text? with
  | some text => .ok text
  | none => .error .notText

/-- Takes the value of an option that is not given yet or can be given again. -/
def accept (invocation : Invocation) (option : CommandOption) (value : SystemText) :
    Except UsageError Invocation :=
  match option with
  | .kubeconfig =>
      if value.isEmpty then .error .invalidValue
      else .ok { invocation with kubeconfig := some value }
  | .clusterContext =>
      (textIn value).map fun text => { invocation with clusterContext := some text }
  | .names =>
      (textIn value).map fun text => { invocation with names := invocation.names ++ namesIn text }
  | .nodes =>
      (textIn value).map fun text => { invocation with nodes := invocation.nodes ++ namesIn text }
  | .labels =>
      (textIn value).map fun text => { invocation with labels := invocation.labels ++ [text] }
  | .sshUser => (textIn value).map fun text => { invocation with sshUser := some text }
  | .sshPort => do
      let n ← natural UInt16.size (← textIn value)
      pure { invocation with sshPort := some (UInt16.ofNat n) }
  | .privateKey => (textIn value).map fun text => { invocation with privateKey := some text }
  | .maxRetries => do
      let n ← natural UInt32.size (← textIn value)
      pure { invocation with maxRetries := some (UInt32.ofNat n) }
  | .connectTimeout => do
      match Text.unsigned? UInt64.size (← textIn value) with
      | some n => pure { invocation with connectTimeout := some (UInt64.ofNat n) }
      | none => throw .invalidNumber
  | .output =>
      match value.text?.bind OutputFormat.ofName? with
      | some format => .ok { invocation with output := some format }
      | none => .error .invalidValue

/-- Gives an option, perhaps without its value. -/
def give (invocation : Invocation) (option : CommandOption) (value : Option SystemText) :
    Except UsageError Invocation :=
  match value with
  | none => .error .invalidValue
  | some value =>
      if invocation.hasGiven option then .error .repeated else invocation.accept option value

/-- The keyword arguments of the call that makes the search. -/
def keywords (invocation : Invocation) : List (String × Value) :=
  [("names", invocation.names), ("nodes", invocation.nodes),
    ("labels", invocation.labels)].filterMap
    fun (name, texts) => if texts.isEmpty then none else some (name, .ofTexts texts)

end Invocation

/-! ## Reading a command line

The words of a command line are read from left to right, as bytes. An option takes its value from
the same word or from the next one; it is settled when the next option or switch is understood, or
at the end. A word that is not understood is therefore reported before a bad value of the option
before it.
-/

/-- The switches, which take no value. -/
inductive CommandSwitch where
  | verbose
  | save
  | help
  | version
  deriving DecidableEq

/-- All switches. -/
def CommandSwitch.all : List CommandSwitch := [.verbose, .save, .help, .version]

/-- The long name of a switch. -/
def CommandSwitch.name : CommandSwitch → String
  | .verbose => "verbose"
  | .save => "save"
  | .help => "help"
  | .version => "version"

/-- The letter of a switch that has one. -/
def CommandSwitch.letter? : CommandSwitch → Option Char
  | .verbose => some 'v'
  | .save => none
  | .help => some 'h'
  | .version => some 'V'

/-- Why a command line does not lead to a run. -/
inductive Declined where
  /-- The command line cannot be read. -/
  | unusable (error : UsageError)
  /-- It asks for help. -/
  | help
  /-- It asks for the version. -/
  | version
  deriving DecidableEq

namespace Invocation

/-- A word of a command line. -/
inductive Word where
  /-- Two dashes, after which no word is an option. -/
  | divider
  /-- A long name, perhaps with a value behind an equals sign. -/
  | long (name : SystemText) (value : Option SystemText)
  /-- One or more letters behind a dash, as bytes. -/
  | letters (first : UInt8) (rest : List UInt8)
  | bare
  deriving DecidableEq

/-- The byte of a dash. -/
def dash : UInt8 := 0x2D

/-- The byte of an equals sign. -/
def equalsSign : UInt8 := 0x3D

/-- The value behind the equals sign of a long name. -/
def attached? (bytes : List UInt8) : Option SystemText :=
  match bytes.dropWhile (· != equalsSign) with
  | [] => none
  | _ :: value => some ⟨value⟩

/-- What a word is that starts with a dash, given what is behind the dash. -/
def Word.dashed : List UInt8 → Word
  | [] => .bare
  | first :: rest =>
      if first ≠ dash then .letters first rest
      else if rest.isEmpty then .divider
      else .long ⟨rest.takeWhile (· != equalsSign)⟩ (attached? rest)

/-- What a word is. -/
def Word.ofSystem (raw : SystemText) : Word :=
  match raw.bytes with
  | [] => .bare
  | first :: rest => if first = dash then .dashed rest else .bare

/-- How far a command line is read: what it asks for so far, and an option that is not settled, with
its value if it has one. -/
structure Reading where
  invocation : Invocation := {}
  unsettled : Option (CommandOption × Option SystemText) := none

namespace Reading

/-- Settles the option that waits for it. -/
def settle (reading : Reading) : Except Declined Reading :=
  match reading.unsettled with
  | none => .ok reading
  | some (option, value) =>
      match reading.invocation.give option value with
      | .ok invocation => .ok ⟨invocation, none⟩
      | .error error => .error (.unusable error)

/-- Takes an option whose value is in the same word, or may follow. -/
def takeOption (reading : Reading) (option : CommandOption) (value : Option SystemText) :
    Except Declined Reading := do
  let reading ← reading.settle
  let reading : Reading := ⟨reading.invocation, some (option, value)⟩
  if value.isSome then reading.settle else pure reading

/-- Turns on a switch that is not on. -/
def turnOn (reading : Reading) (switch : CommandSwitch) : Except Declined Reading :=
  let invocation := reading.invocation
  match switch with
  | .verbose =>
      if invocation.verbose then .error (.unusable .repeated)
      else .ok ⟨{ invocation with verbose := true }, none⟩
  | .save =>
      if invocation.save then .error (.unusable .repeated)
      else .ok ⟨{ invocation with save := true }, none⟩
  | .help => .error .help
  | .version => .error .version

/-- Takes a switch. -/
def takeSwitch (reading : Reading) (switch : CommandSwitch) : Except Declined Reading := do
  let reading ← reading.settle
  reading.turnOn switch

/-- Takes a long name. -/
def takeLong (reading : Reading) (name : SystemText) (value : Option SystemText) :
    Except Declined Reading :=
  match CommandOption.all.find? fun option => .ofText option.name == name with
  | some option => reading.takeOption option value
  | none =>
      match CommandSwitch.all.find? fun switch => .ofText switch.name == name with
      | some switch =>
          if value.isSome then .error (.unusable .surplusValue) else reading.takeSwitch switch
      | none => .error (.unusable .unknownArgument)

/-- The value behind the letter of an option, in the same word. -/
def valueInWord : List UInt8 → Option SystemText
  | [] => none
  | first :: rest => some ⟨if first = equalsSign then rest else first :: rest⟩

/-- Takes letters; the first of an option ends them. -/
def takeLetters (reading : Reading) : List UInt8 → Except Declined Reading
  | [] => .ok reading
  | letter :: rest =>
      match CommandOption.all.find? fun option =>
          option.letter?.map Char.toUInt8 == some letter with
      | some option => reading.takeOption option (valueInWord rest)
      | none =>
          match CommandSwitch.all.find? fun switch =>
              switch.letter?.map Char.toUInt8 == some letter with
          | some switch => do
              let reading ← reading.takeSwitch switch
              takeLetters reading rest
          | none => .error (.unusable .unknownArgument)

/-- Takes a word that is no option: the value of an option that waits for one. -/
def takeBare (reading : Reading) (raw : SystemText) : Except Declined Reading :=
  match reading.unsettled with
  | some (option, none) => .ok { reading with unsettled := some (option, some raw) }
  | _ => .error (.unusable .unknownArgument)

/-- Reads the rest of a command line. -/
def finish (reading : Reading) : List SystemText → Except Declined Invocation
  | [] => reading.settle.map Reading.invocation
  | raw :: words => do
      match Word.ofSystem raw with
      | .divider =>
          if words.isEmpty then reading.settle.map Reading.invocation
          else .error (.unusable .unknownArgument)
      | .long name value =>
          let reading ← reading.takeLong name value
          finish reading words
      | .letters first rest =>
          let reading ← reading.takeLetters (first :: rest)
          finish reading words
      | .bare =>
          let reading ← reading.takeBare raw
          finish reading words

end Reading

/-- What a command line asks for, given its words without the name of the program. -/
def parse (words : List SystemText) : Except Declined Invocation := Reading.finish {} words

end Invocation

end ClusterHosts
