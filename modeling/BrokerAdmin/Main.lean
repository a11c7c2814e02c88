import BrokerAdmin.CommandLine.Run
import BrokerAdmin.Http.Octets
import Std.Async.DNS
import Std.Async.TCP
import Std.Async.Timer

/-!
# The program

The program reads its words and its environment, carries out the exchange of the command with real
files and a real server, and prints what comes of it. Connections are not encrypted; a server that is
only reached over an encrypted connection does not answer.

## Main definitions

* `main`: the program.
-/

namespace BrokerAdmin.Program

open Std.Async Std.Net

instance : Inhabited Error := ⟨.request⟩

/-- The error of a file that the system reports. The number of an error may stand with either
sign. -/
def fileError : IO.Error → FileError
  | .noFileOrDirectory .. => .notFound
  | .inappropriateType _ code text =>
    if code = 20 || code = 0 - 20 then .notDirectory
    else if code = 21 || code = 0 - 21 then .isDirectory
    else .other text
  | error => .other (toString error)

/-- Read a file. -/
def readFile (path : String) : IO (Except FileError Bytes) := do
  try
    return .ok (← IO.FS.readBinFile path).toList
  catch error => return .error (fileError error)

/-- All that comes on a connection until it ends. -/
partial def receiveAll (socket : TCP.Socket.Client) (received : ByteArray) : Async ByteArray := do
  match ← socket.recv? 65536 with
  | some bytes => receiveAll socket (received ++ bytes)
  | none => return received

/-- A place on the network. -/
def socketAddress (address : IPAddr) (port : UInt16) : SocketAddress :=
  match address with
  | .v4 addr => .v4 { addr, port }
  | .v6 addr => .v6 { addr, port }

/-- Send a request to a place on the network and read the reply. -/
def converse (address : SocketAddress) (out : Http.Outgoing) : Async Http.Reply := do
  let socket ← TCP.Socket.Client.mk
  socket.connect address
  socket.send ⟨out.toBytes.toArray⟩
  let received ← receiveAll socket .empty
  return .ofBytes received.toList

/-- Try places on the network until one can be talked to. -/
def converseWithAny (out : Http.Outgoing) : List SocketAddress → Async Http.Reply
  | [] => return .silence
  | address :: others =>
    try converse address out
    catch _ => converseWithAny out others

/-- Send a request to the server that its address names. -/
def deliver (out : Http.Outgoing) : Async Http.Reply := do
  match out.url.authority with
  | some a =>
    if out.url.scheme = "http" then
      let port := a.port.getD 80
      let host := (a.host.dropWhile (· = '[')).toString.takeWhile (· != ']')
      let addresses ← DNS.getAddrInfo host.toString (toString port)
      converseWithAny out (addresses.toList.map fun x => socketAddress x port.toUInt16)
    else return .silence
  | none => return .silence

/-- Send a request, and all that the replies lead on to. -/
def follow : (hops : Nat) → Http.Outgoing → Async (Except Error Response)
  | hops, out => do
    let reply ← deliver out
    match out.onward reply with
    | none => return reply.result
    | some (.error error) => return .error error
    | some (.ok next) =>
      match hops with
      | 0 => return .error .request
      | hops + 1 => follow hops next

/-- Give up after some time. -/
def giveUp (timeout : Duration) : Async (Except Error Response) := do
  let time := timeout.seconds * 1000 + timeout.nanoseconds / 1000000
  (← Sleep.mk (.ofNat time)).wait
  return .error .request

/-- Send a request of a client. -/
def request (client : Http.Client) (request : Request) : IO (Except Error Response) := do
  match client.outgoing request with
  | .error error => return .error error
  | .ok out =>
    try
      (Async.race (follow Http.Server.maxHops out) (giveUp client.timeout)).block
    catch _ => return .error .request

/-- Carry out an exchange. -/
def perform {ε α : Type} (send : Request → IO (Except Error Response)) :
    Exchange ε α → IO (Option (Except ε α))
  | .done value => return some (.ok value)
  | .fail error => return some (.error error)
  | .endless => return none
  | .readFile path next => do perform send (next (← readFile path))
  | .send request next => do perform send (next (← send request))

/-- The variables that stand in for options. -/
def environment : IO CommandLine.Environment := do
  let names := CommandLine.ConnectionOptions.rules.filterMap (·.standIn)
  let found ← names.mapM fun name => return (← IO.getEnv name).map (name, ·)
  return found.filterMap id

/-- What comes of the words of a command line. -/
def run (words : List String) : IO (Option CommandLine.Outcome) := do
  match CommandLine.plan (← environment) words with
  | .error outcome => return some outcome
  | .ok (settings, command) =>
    match ← perform (fun _ => return .error .request) (Http.Client.ofSettings settings) with
    | none => return none
    | some (.error error) => return some (.ofNoClient error)
    | some (.ok client) =>
      let result ← perform (request client) (command.exchange settings.profile)
      return result.map .ofResult

end BrokerAdmin.Program

open BrokerAdmin in
/-- Print what comes of a command line, and tell the caller how it went. -/
def main (words : List String) : IO UInt32 := do
  match ← Program.run words with
  | some outcome =>
    IO.print outcome.output
    IO.eprint outcome.complaint
    return outcome.status.toUInt32
  | none => return 1
