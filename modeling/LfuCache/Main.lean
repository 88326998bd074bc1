import LfuCache.Api.Startup
import LfuCache.Api.Server
import LfuCache.Client.Command
import LfuCache.Client.Network
import LfuCache.Http.Wire
import Std.Async.DNS
import Std.Async.Signal
import Std.Async.TCP
import Std.Async.Timer
import Std.Sync.Mutex

/-!
# The program

With `serve` as its only argument the program is a server, configured by its environment.
With other arguments it is a client of one. This module only moves bytes.
-/

namespace LfuCache.Program

open Std Std.Async
open LfuCache.Http LfuCache.Client

def packet : UInt64 := 65536

/-! ## Clocks and chance -/

def clocks : IO Api.Clocks := do
  let now ← IO.monoNanosNow
  let moment ← Time.Timestamp.now
  return ⟨now, moment.toNanosecondsSinceUnixEpoch.toInt.toNat⟩

/-- A generator for each shard, from one random word. -/
def entropy : IO (Nat → Generator) := do
  let seed ← IO.rand 0 (UInt64.size - 1)
  return fun index => .ofSeed (UInt64.ofNat seed + UInt64.ofNat index)

/-- A variable that is not set has no bytes. -/
def environment (names : List String) : IO Environment := do
  let values ← names.mapM fun name => return (name, (← IO.getEnv name).map String.toUTF8)
  return fun name => (values.lookup name).join

/-! ## Serving -/

/-- Reads until a body has come, or the connection has ended. -/
partial def receiveBody (socket : TCP.Socket.Client) (framing : Wire.Framing)
    (text : List UInt8) : Async Wire.Progress := do
  if Api.longestBody + packet.toNat < text.length then
    return .done text []
  match Wire.readBody framing false text with
  | .more =>
    match ← socket.recv? packet with
    | none => return Wire.readBody framing true text
    | some more => receiveBody socket framing (text ++ more.toList)
  | progress => return progress

/-- Reads the head of a message, and the bytes that came with it. -/
partial def receiveHead (socket : TCP.Socket.Client) (text : List UInt8) :
    Async (Option (Wire.Head × List UInt8)) := do
  match Wire.splitHead [] text with
  | some (lines, rest) => return (Wire.readHead lines).map fun head => (head, rest)
  | none =>
    if 2 * packet.toNat < text.length then return none
    match ← socket.recv? packet with
    | none => return none
    | some more => receiveHead socket (text ++ more.toList)

def send (socket : TCP.Socket.Client) (data : List UInt8) : Async Unit :=
  socket.send ⟨data.toArray⟩

def requestOf? (head : Wire.Head) (body : List UInt8) : Option Request := do
  match head.first with
  | [method, target, _] =>
    Request.ofParts? (← Text.string? method) target head.headers body
  | _ => none

def badRequest : Response := ⟨400, [], .empty⟩

def keepsOpen (head : Wire.Head) : Bool :=
  head.headers.lookup "connection" != some (Text.bytes "close") &&
    head.first.getLast? != some (Text.bytes "HTTP/1.0")

def handle (state : Mutex Engine) (request : Request) : IO Response := do
  let clocks ← clocks
  state.atomically do
    let (response, engine) := Api.respond (← get) clocks request
    set engine.wait
    return response

/-- Answers requests on one connection until it ends. -/
partial def converse (state : Mutex Engine) (socket : TCP.Socket.Client) (text : List UInt8) :
    Async Unit := do
  match ← receiveHead socket text with
  | none => socket.shutdown
  | some (head, rest) =>
    if head.headers.lookup "expect" = some (Text.bytes "100-continue") then
      send socket (Text.bytes "HTTP/1.1 100 Continue\r\n\r\n")
    match ← receiveBody socket (head.framing (.length 0)) rest with
    | .done body rest =>
      let response ← match requestOf? head body with
        | some request => handle state request
        | none => pure badRequest
      let keep := keepsOpen head && body.length ≤ Api.longestBody
      send socket (Wire.writeResponse response keep)
      if keep then converse state socket rest else socket.shutdown
    | _ =>
      send socket (Wire.writeResponse badRequest false)
      socket.shutdown

partial def accept (state : Mutex Engine) (server : TCP.Socket.Server) : Async Unit := do
  let socket ← server.accept
  background (try converse state socket [] catch _ => pure ())
  accept state server

partial def sweep (state : Mutex Engine) (seconds : Nat) : Async Unit := do
  sleep (.ofNat (seconds * 1000))
  let now ← IO.monoNanosNow
  state.atomically (modify fun engine => (engine.cleanup now).2.wait)
  sweep state seconds

def socketAddress (address : Net.SocketAddress) : Std.Net.SocketAddress :=
  match address.address with
  | .v4 octets => .v4 ⟨⟨octets⟩, address.port⟩
  | .v6 groups => .v6 ⟨⟨groups⟩, address.port⟩

/-- Waits for a signal to stop. -/
def stopped (signal : Signal) : IO (AsyncTask Int) := do
  (← Signal.Waiter.mk signal false).wait

def serve : IO UInt32 := do
  let env ← environment ServerConfig.variableNames
  match Api.start env (← entropy) with
  | .error e =>
    IO.eprint e.report
    return 1
  | .ok startup =>
    let state ← Mutex.new startup.engine
    let server ← TCP.Socket.Server.mk
    server.bind (socketAddress startup.address)
    server.listen 1024
    discard (sweep state (max startup.cleanupInterval 1)).toIO
    discard (accept state server).toIO
    let interrupt ← stopped .sigint
    let terminate ← stopped .sigterm
    discard (IO.waitAny [interrupt, terminate])
    state.atomically (modify Engine.shutdown)
    return 0

/-! ## Calling -/

/-- The addresses of a host. -/
def addresses (host : Net.Host) (port : UInt16) : Async (List Std.Net.SocketAddress) := do
  match host with
  | .address ip => return [socketAddress ⟨ip, 0, port⟩]
  | .name text =>
    let found ← DNS.getAddrInfo ((Text.string? text).getD "") ""
    return found.toList.map fun
      | .v4 a => .v4 ⟨a, port⟩
      | .v6 a => .v6 ⟨a, port⟩

def answerOf? (head : Wire.Head) (body : List UInt8) : Option Answer := do
  match head.first with
  | _ :: status :: _ =>
    return ⟨← Wire.readDigits status, head.headers.lookup "location", body⟩
  | _ => none

def exchange (socket : TCP.Socket.Client) (call : Call) : Async Delivery := do
  let host := ((call.url.authority.map Net.Authority.writeHost).getD [])
  let body := call.body.map fun r => Text.bytes (Message.write r)
  send socket (Wire.writeRequest call.method call.target host call.headers body)
  match ← receiveHead socket [] with
  | none => throw (.userError "connection closed before message completed")
  | some (head, rest) =>
    match ← receiveBody socket (head.framing .connection) rest with
    | .done body _ =>
      match answerOf? head body with
      | some answer => return .answered answer
      | none => throw (.userError "invalid response")
    | _ => throw (.userError "connection closed before message completed")

/-- Connects to the first address that can be reached. -/
def connect (failure : IO.Error) :
    List Std.Net.SocketAddress → Async (Except IO.Error TCP.Socket.Client)
  | [] => return .error failure
  | address :: others => do
    let socket ← TCP.Socket.Client.mk
    try
      socket.connect address
      return .ok socket
    catch e => connect e others

/-- A connection to where a call goes, or what became of the call. -/
def reach (call : Call) : Async (Except Delivery TCP.Socket.Client) := do
  let host := call.url.host?.getD (.name [])
  let port := UInt16.ofNat (call.url.port?.getD 0)
  let found ← try pure (Except.ok (← addresses host port)) catch e => pure (Except.error e)
  match found with
  | .error e => return .error (notConnected call.url ["dns error", toString e])
  | .ok found =>
    match ← connect (.userError "no address for the host") found with
    | .ok socket => return .ok socket
    | .error e => return .error (notConnected call.url ["tcp connect error", toString e])

def deliver (call : Call) : Async Delivery := do
  match ← reach call with
  | .error delivery => return delivery
  | .ok socket =>
    try exchange socket call
    catch e =>
      return .broken [sendingFailed call.url, "client error (SendRequest)", toString e]

def network : Network IO where
  deliver call := (deliver call).block
  pause milliseconds := IO.sleep (UInt32.ofNat milliseconds)

def call (arguments : List String) : IO UInt32 := do
  let exit ← (Arguments.read arguments).perform network
  IO.print exit.output
  IO.eprint exit.errors
  return UInt32.ofNat exit.code

end LfuCache.Program

def main (arguments : List String) : IO UInt32 :=
  if arguments = ["serve"] then LfuCache.Program.serve else LfuCache.Program.call arguments
