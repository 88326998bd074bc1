import LfuCache.Config.Environment
import LfuCache.Engine
import LfuCache.Text.Report

/-!
# Starting a server

A server starts with an engine and an address to listen at, or it says why not.
-/

namespace LfuCache.Api

structure Startup where
  engine : Engine
  /-- Seconds between two sweeps. -/
  cleanupInterval : Nat
  address : Net.SocketAddress

/-- What went wrong, and why. -/
structure StartupError where
  message : String
  cause : String
deriving DecidableEq, Repr

def StartupError.report (e : StartupError) : String := Text.report e.message [e.cause]

/-- Checks the configuration, builds the engine, and reads the address. -/
def start (env : Environment) (entropy : Nat → Generator) : Except StartupError Startup :=
  let config := ServerConfig.ofEnvironment env
  match config.validate with
  | .error e => .error ⟨"invalid configuration", e.message⟩
  | .ok () =>
    match Engine.ofConfig config.cache entropy with
    | .error e => .error ⟨"failed to start cache engine", e.message⟩
    | .ok engine =>
      match config.socketAddress with
      | .error e => .error ⟨"invalid configuration", e.message⟩
      | .ok address => .ok ⟨engine, config.cleanupInterval, address⟩

end LfuCache.Api
