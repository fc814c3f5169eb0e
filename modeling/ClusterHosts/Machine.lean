import ClusterHosts.Api.Http
import ClusterHosts.Files
import ClusterHosts.Text.Basic
import Std.Async.DNS
import Std.Async.TCP
import Std.Async.Timer

/-! # The files and sockets of a machine

The operations on files, on those of the machine that the program runs on. The machine is asked for
files by paths that are texts; it has none at other paths.

Servers are asked over the network that the machine is on.
-/

namespace ClusterHosts.Machine

/-- The number of a failure and its wording by the machine. -/
def numbered : IO.Error → Option (UInt32 × String)
  | .alreadyExists _ code details | .inappropriateType _ code details
  | .invalidArgument _ code details | .noFileOrDirectory _ code details
  | .noSuchThing _ code details | .permissionDenied _ code details
  | .resourceExhausted _ code details | .interrupted _ code details
  | .hardwareFault code details | .illegalOperation code details | .otherError code details
  | .protocolError code details | .resourceBusy code details | .resourceVanished code details
  | .timeExpired code details | .unsatisfiedConstraints code details
  | .unsupportedOperation code details => some (code, details)
  | .unexpectedEof | .userError _ => none

/-- The failure of an operation on a file that the machine reports. -/
def fileError (error : IO.Error) : FileError :=
  match numbered error with
  | some (2, _) => .missing
  | some (16, _) => .busy
  | some (17, _) => .alreadyPresent
  | some (20, _) => .notDirectory
  | some (21, _) => .isDirectory
  | some (22, _) => .invalid
  | some (36, _) => .nameTooLong
  | some (code, details) =>
      .other (details ++ " (os error " ++ String.ofList (Text.decimal code.toNat) ++ ")")
  | none => .other (toString error)

/-- The outcome of an operation on a file. -/
def attempt {α : Type} (action : IO α) : IO (Except FileError α) := do
  try
    pure (.ok (← action))
  catch error => pure (.error (fileError error))

/-- The outcome of an operation on the file at a path. -/
def attemptAt {α : Type} (path : SystemText) (action : String → IO α) : IO (Except FileError α) :=
  if Path.hasNul path then pure (.error .nulInName)
  else match path.text? with
    | some text => attempt (action text)
    | none => pure (.error .missing)

/-- Whether a path leads somewhere. -/
def leadsSomewhere (path : SystemText) : IO Bool := do
  let outcome ← attemptAt path fun text => IO.FS.realPath text
  pure outcome.isOk

/-- Letters and digits that no other file is likely to have in its name. -/
def randomLetters : Nat → IO (List Char)
  | 0 => pure []
  | count + 1 => do
      let digit ← IO.rand 0 35
      let letter := if digit < 10 then '0'.toNat + digit else 'a'.toNat + (digit - 10)
      pure (Char.ofNat letter :: (← randomLetters count))

/-- Makes a new file in a directory that only the account of the program can read. -/
def createTemporary (directory : SystemText) : IO (Except FileError SystemText) := do
  let path := Path.join directory (.ofText (".tmp" ++ String.ofList (← randomLetters 6)))
  let outcome ← attemptAt path fun text => do
    let _ ← IO.FS.Handle.mk text .writeNew
    IO.setAccessRights text ⟨⟨true, true, false⟩, {}, {}⟩
  match outcome with
  | .ok () => pure (.ok path)
  | .error cause => pure (.error (.other (cause.message ++ " at path " ++ path.quoted)))

/-- Moves a file to another path. -/
def move (path other : SystemText) : IO (Except FileError Unit) :=
  match path.text? with
  | some source => attemptAt other fun text => IO.FS.rename source text
  | none => pure (.error .missing)

/-- Fills a new file and moves it to a path. -/
def fillAndMove (temporary path : SystemText) (content : ByteArray) :
    IO (Except ReplaceError Unit) := do
  match ← attemptAt temporary fun text => IO.FS.writeBinFile text content with
  | .error cause => pure (.error (.notWritten temporary cause))
  | .ok () =>
      if Path.hasNul path then pure (.error (.notMoved .invalid))
      else match ← move temporary path with
        | .error cause => pure (.error (.notMoved cause))
        | .ok () => pure (.ok ())

/-- Puts a new file at a path. It is made in the directory of the path before it is moved. -/
def replace (path : SystemText) (content : ByteArray) : IO (Except ReplaceError Unit) := do
  let directory := ((Path.parent? path).filter fun parent => !parent.isEmpty).getD (.ofText ".")
  match ← createTemporary directory with
  | .error cause => pure (.error (.noTemporary cause))
  | .ok temporary =>
      let outcome ← fillAndMove temporary path content
      if !outcome.isOk then
        let _ ← attemptAt temporary fun text => IO.FS.removeFile text
      pure outcome

/-- The files of the machine. -/
def files : Files IO where
  isPresent := leadsSomewhere
  isDirectory path := leadsSomewhere ⟨path.bytes ++ (SystemText.ofText "/.").bytes⟩
  read path := attemptAt path fun text => do
    let handle ← IO.FS.Handle.mk text .read
    handle.readBinToEnd
  createDirectory path := attemptAt path fun text => IO.FS.createDir text
  replace := replace
  openLog path := attemptAt path fun text => do
    let _ ← IO.FS.Handle.mk text .append

/-! ## Servers on the network

Asking servers over the network that the machine is on. Only addresses of the scheme `http` can be
reached, and no server is told who asks.
-/

open Std.Async

/-- How many seconds a connection may be silent. -/
def silence : Nat := 30

/-- The words for a server that cannot be reached. -/
def unreached : String := "client error (Connect)"

/-- The words for a connection that does not lead to an answer. -/
def unanswered : String := "client error (SendRequest)"

/-- The most seconds that a clock is set to, a little more than three years. -/
def patience : Nat := 100000000

/-- What an action gives, unless it takes longer than a number of seconds. -/
def within {α : Type} (seconds : Nat) (action : Async (Option α)) : Async (Option α) :=
  Async.race action do
    sleep (.ofNat (1000 * min seconds patience))
    pure none

/-- All bytes that a connection brings, after those that it has brought so far. -/
partial def receive (socket : TCP.Socket.Client) (received : ByteArray) :
    Async (Option ByteArray) := do
  let part ← within silence do
    match ← socket.recv? 65536 with
    | some bytes => pure (some bytes)
    | none => pure (some ByteArray.empty)
  match part with
  | none => pure none
  | some bytes =>
      if bytes.isEmpty then pure (some received)
      else receive socket (received ++ bytes)

/-- Connects to a port of a host. -/
def openSocket (host : String) (port : Nat) : Async (Option TCP.Socket.Client) := do
  let addresses ← DNS.getAddrInfo host (toString port)
  match addresses[0]? with
  | none => pure none
  | some address =>
      let socket ← TCP.Socket.Client.mk
      match address with
      | .v4 address => socket.connect (.v4 ⟨address, port.toUInt16⟩)
      | .v6 address => socket.connect (.v6 ⟨address, port.toUInt16⟩)
      pure (some socket)

/-- Sends a request for a target to a port of a host, and waits for the answer. -/
def exchange (seconds : Nat) (address : ServerAddress) (target : String) (host : String)
    (port : Nat) : Async (Except String Response) := do
  let socket? ← try within seconds (openSocket host port) catch _ => pure none
  match socket? with
  | none => pure (.error unreached)
  | some socket =>
      try
        socket.send (Exchange.requestText address target).toUTF8
        let bytes ← receive socket .empty
        match bytes.bind fun bytes => Exchange.response? bytes.toList with
        | some response => pure (.ok response)
        | none => pure (.error unanswered)
      catch _ => pure (.error unanswered)

/-- The servers on the network, given how many seconds to wait for a connection. -/
def http (seconds : UInt64) : Http IO where
  get address target :=
    match address.scheme, Exchange.hostAndPort? address.authority with
    | some "http", some (host, port) => (exchange seconds.toNat address target host port).block
    | _, _ => pure (.error unreached)

end ClusterHosts.Machine
