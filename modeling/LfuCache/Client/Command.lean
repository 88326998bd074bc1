import LfuCache.Client.Arguments
import LfuCache.Text.Report

/-!
# Commands

A command asks the server and prints its answer. If it fails, it says why.
-/

namespace LfuCache.Client

/-- What a program leaves behind. -/
structure Exit where
  code : Nat
  output : String := ""
  errors : String := ""
deriving DecidableEq, Repr

namespace Exit

/-- A message is printed over several lines. -/
def ofMessage {α : Type} [Message α] (message : α) : Exit where
  code := 0
  output := Json.writePretty (Message.members message) ++ "\n"

def failed (message : String) (causes : List String) : Exit where
  code := 1
  errors := Text.report message causes

def ofResult {α : Type} [Message α] : Except ClientError α → Exit
  | .ok message => ofMessage message
  | .error e => failed e.message e.causes

/-- The value of a key. A missing one is an error here. -/
def ofValue (key : String) : Except ClientError (Option String) → Exit
  | .ok (some value) => ofMessage (ValueReply.mk key value)
  | .ok none => failed ("key '" ++ key ++ "' not found") []
  | .error e => failed e.message e.causes

end Exit

variable {m : Type → Type} [Monad m]

def Command.run (network : Network m) (r : Remote) : Command → m Exit
  | .get key => do return .ofValue key (← r.get network key)
  | .set request => do return .ofResult (← r.set network request)
  | .delete key => do return .ofResult (← r.delete network key)
  | .clear => do return .ofResult (← r.clear network)
  | .stats => do return .ofResult (← r.stats network)
  | .health => do return .ofResult (← r.health network)

def usage : String :=
  "Usage: ristretto-client [--server URL] [--retries N] [--backoff-ms N] COMMAND\n\n" ++
  "Commands:\n" ++
  "  get KEY                       fetch a value\n" ++
  "  set KEY VALUE [-c N] [-t N]   store a value, with a cost and seconds to live\n" ++
  "  del KEY                       delete a key\n" ++
  "  clear                         remove every entry\n" ++
  "  stats                         show the counters\n" ++
  "  health                        ask if the server is well\n"

def versionLine : String := "ristretto-client 0.1.0\n"

def Invocation.perform (network : Network m) : Invocation → m Exit
  | .run connection command =>
    match Remote.ofUrl connection.server with
    | .ok r =>
      command.run network { r with retries := connection.retries, backoff := connection.backoff }
    | .error e => return .failed e.message e.causes
  | .help => return { code := 0, output := usage }
  | .version => return { code := 0, output := versionLine }
  | .misuse => return { code := 2, errors := usage }

end LfuCache.Client
