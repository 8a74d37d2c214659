import BrokerControl.CommandLine.Run
import BrokerControl.Http.Wire
import BrokerControl.Text.Uuid
import Std.Async.DNS
import Std.Async.TCP

/-!
# The program

Runs with the arguments, the files, the environment and the network of its process. The network has
its limits here: connections are made without encryption, so an endpoint under `https` can be
connected to but not spoken to; they are made to the host that the URL names and never through a
proxy, whatever the environment says of one; and a response that redirects is the answer itself.
-/

namespace BrokerControl.CommandLine

/-! ## Files -/

/-- The error of a file that an error of the system tells. -/
def fileErrorOf (e : IO.Error) : FileError :=
  match e with
  | .noFileOrDirectory .. => .notFound
  | .permissionDenied _ code details => .other s!"{details} (os error {code})"
  | .alreadyExists _ code details => .other s!"{details} (os error {code})"
  | .inappropriateType _ code details => .other s!"{details} (os error {code})"
  | .invalidArgument _ code details => .other s!"{details} (os error {code})"
  | .resourceExhausted _ code details => .other s!"{details} (os error {code})"
  | .otherError code details => .other s!"{details} (os error {code})"
  | e => .other e.toString

/-- Tries an action on files. -/
def attempt {α : Type} (action : IO α) : IO (Except FileError α) := do
  return (← action.toBaseIO).mapError fileErrorOf

/-! ## Connections -/

section Connections

open Std.Async

/-- The number of an error, if the system gave it one. The network counts its errors downwards from
zero, in 32 bits. -/
def errorNumber? (e : IO.Error) : Option Nat :=
  match e with
  | .unexpectedEof | .userError _ => none
  | .otherError code _ | .resourceBusy code _ | .resourceVanished code _
  | .unsupportedOperation code _ | .hardwareFault code _ | .unsatisfiedConstraints code _
  | .illegalOperation code _ | .protocolError code _ | .timeExpired code _
  | .alreadyExists _ code _ | .interrupted _ code _ | .noFileOrDirectory _ code _
  | .invalidArgument _ code _ | .permissionDenied _ code _ | .resourceExhausted _ code _
  | .inappropriateType _ code _ | .noSuchThing _ code _ =>
    some (if code.toNat < 0x80000000 then code.toNat else 0x100000000 - code.toNat)

/-- What the system calls the errors of connections. -/
def connectionSentences : List (Nat × String) :=
  [(1, "Operation not permitted"), (13, "Permission denied"), (22, "Invalid argument"),
    (24, "Too many open files"), (32, "Broken pipe"),
    (97, "Address family not supported by protocol"), (99, "Cannot assign requested address"),
    (100, "Network is down"), (101, "Network is unreachable"),
    (103, "Software caused connection abort"), (104, "Connection reset by peer"),
    (110, "Connection timed out"), (111, "Connection refused"), (112, "Host is down"),
    (113, "No route to host")]

/-- What the system says of an error of a connection. -/
def connectionSentence (e : IO.Error) : String :=
  match errorNumber? e with
  | none => e.toString
  | some n => s!"{(List.lookup n connectionSentences).getD e.toString} (os error {n})"

/-- What the system says where the name of a host cannot be looked up. -/
def lookupSentences : List (Nat × String) :=
  [(3001, "Temporary failure in name resolution"),
    (3004, "Non-recoverable failure in name resolution"),
    (3007, "No address associated with hostname"), (3008, "Name or service not known")]

/-- What the system says of an error of a look-up. -/
def lookupSentence (e : IO.Error) : String :=
  ((errorNumber? e).bind fun n ↦ List.lookup n lookupSentences).getD e.toString

/-- A connection to an address. -/
def connectOnce (address : Std.Net.IPAddr) (port : UInt16) : Async TCP.Socket.Client := do
  let socket ← TCP.Socket.Client.mk
  socket.connect (match address with
    | .v4 a => .v4 ⟨a, port⟩
    | .v6 a => .v6 ⟨a, port⟩)
  return socket

/-- A connection to the first address of a host that takes one. Where none does, the last refusal
is told. -/
def connectTo (url host : String) (port : UInt16) :
    IO (Except ExchangeError TCP.Socket.Client) := do
  match ← (DNS.getAddrInfo host (toString port)).block.toBaseIO with
  | .error e => return .error (.unresolved url (lookupSentence e))
  | .ok addresses =>
    let mut refusal := "Network unreachable"
    for address in addresses do
      match ← (connectOnce address port).block.toBaseIO with
      | .ok socket => return .ok socket
      | .error e => refusal := connectionSentence e
    return .error (.unconnected url refusal)

/-- All bytes that a connection gives until it ends. -/
partial def receiveAll (socket : TCP.Socket.Client) (read : ByteArray) : Async ByteArray := do
  match ← socket.recv? 65536 with
  | some bytes => receiveAll socket (read ++ bytes)
  | none => return read

/-- Sends a request over a connection of its own and reads the response. -/
def exchangeOnce (r : Http.Request) : IO (Except ExchangeError Http.Response) := do
  let url := r.url.text
  let host := (r.url.host.map Host.plainText).getD ""
  let port := (r.url.port.or (Url.usualPort? r.url.scheme)).getD 0
  match ← connectTo url host port.toUInt16 with
  | .error e => return .error e
  | .ok socket =>
    if r.url.scheme ≠ "http" then
      return .error (.unconnected url "encryption is not supported")
    let received : Async ByteArray := do
      socket.send ⟨r.written.toArray⟩
      receiveAll socket ByteArray.empty
    match ← received.block.toBaseIO with
    | .error e => return .error (.broken url (connectionSentence e))
    | .ok bytes => return Http.Response.ofBytes url (bytes.size + 1) bytes.toList

end Connections

/-! ## Runs -/

/-- The world of a process. -/
def processSystem : System IO where
  environment name := IO.getEnv name
  read path := attempt do return (← IO.FS.readBinFile path).toList
  write path bytes := attempt (IO.FS.writeBinFile path ⟨bytes.toArray⟩)
  touch path := attempt (IO.FS.withFile path .append fun _ ↦ pure ())
  makeDirectories path := attempt (IO.FS.createDirAll path)
  exchange := exchangeOnce
  freshId := do return Uuid.ofBytes (← IO.getRandomBytes 16).toList

end BrokerControl.CommandLine

/-- Runs the program with the arguments of its process. -/
def main (args : List String) : IO UInt32 := do
  let report ← BrokerControl.CommandLine.run BrokerControl.CommandLine.processSystem args
  IO.print report.output
  IO.eprint report.errors
  return UInt32.ofNat report.exit
