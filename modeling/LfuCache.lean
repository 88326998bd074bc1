import LfuCache.Api.Startup
import LfuCache.Client.Command
import LfuCache.Client.Loopback
import LfuCache.Main
import LfuCache.Proofs.Admission.FullPool
import LfuCache.Proofs.Api.Exchanges
import LfuCache.Proofs.Client.Addresses
import LfuCache.Proofs.Engine.Accesses
import LfuCache.Proofs.Engine.Isolation
import LfuCache.Proofs.Engine.Shares
import LfuCache.Proofs.Engine.Sweeps
import LfuCache.Proofs.Engine.Words
import LfuCache.Proofs.Feed.Conservation
import LfuCache.Proofs.Placement.Arrivals
import LfuCache.Proofs.Placement.RecordedCosts
import LfuCache.Proofs.Placement.Selection
import LfuCache.Proofs.Shard.Cleared
import LfuCache.Proofs.Shard.Refusals
import LfuCache.Proofs.Sketch.ClosedForm
import LfuCache.Proofs.Sketch.CounterArray
import LfuCache.Proofs.Sketch.Periods
import LfuCache.Sweep
