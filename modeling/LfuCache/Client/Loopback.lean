import LfuCache.Api.Server
import LfuCache.Client.Offline

/-!
# A network of one server

Every call to the server is handled at once, and its state is the engine. Nobody else can
be reached.
-/

namespace LfuCache.Client

open Net Http Text

/-- The request that a call puts on the wire. -/
def Call.request? (call : Call) : Option Request := do
  let target ← Target.ofPath? call.target
  let body := (call.body.map fun r => bytes (Message.write r)).getD []
  return ⟨call.method, target, call.headers, body⟩

def Answer.ofResponse (response : Response) : Answer where
  status := response.status
  location := (response.headers.lookup "location").map bytes
  body := response.body.bytes

/-- The server that is reached at this host and port. -/
def Network.loopback (server : Authority) (clocks : Api.Clocks) : Network (StateM Engine) where
  deliver call := do
    match call.request? with
    | none => return .broken [sendingFailed call.url]
    | some request =>
      if call.url.authority = some server then
        return .answered (.ofResponse (← modifyGet fun e => Api.respond e clocks request))
      else return nobody call
  pause _ := return ()

end LfuCache.Client
