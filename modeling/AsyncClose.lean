import AsyncClose.Process.Session
import AsyncClose.Proofs.Slab.Entries
import AsyncClose.Proofs.Slab.Valid
import AsyncClose.Proofs.Registry.Scan
import AsyncClose.Proofs.Mechanism.Contact
import AsyncClose.Proofs.Registry.Steps
import AsyncClose.Proofs.Scene.Basic
import AsyncClose.Proofs.Scene.Brackets
import AsyncClose.Proofs.Mechanism.Channels
import AsyncClose.Proofs.Scene.WakeSource
import AsyncClose.Proofs.Registry.Retry
import AsyncClose.Proofs.History.Basic
import AsyncClose.Proofs.History.Snapshot
import AsyncClose.Proofs.History.Channels
import AsyncClose.Proofs.Registry.Identities
import AsyncClose.Proofs.History.Depth
import AsyncClose.Proofs.Scene.Interleaved
import AsyncClose.Proofs.Scene.WakeByte
import AsyncClose.Proofs.Slab.Stock
import AsyncClose.Proofs.Registry.Balance
import AsyncClose.Proofs.Slab.Alike
import AsyncClose.Proofs.Mechanism.Watched
import AsyncClose.Proofs.Program.Basic
import AsyncClose.Proofs.Program.Capacity
import AsyncClose.Proofs.Program.Neutrality
import AsyncClose.Proofs.History.Standing
import AsyncClose.Proofs.History.Restriction
import AsyncClose.Proofs.Process.Overtaking
import AsyncClose.Proofs.Log.Account
import AsyncClose.Proofs.Log.Channels
import AsyncClose.Proofs.Log.Entries
import AsyncClose.Proofs.Log.Replay
import AsyncClose.Proofs.Stream.Finality
import AsyncClose.Proofs.WakePair.Condition
import AsyncClose.Proofs.Program.Scans
import AsyncClose.Proofs.Program.Calls
import AsyncClose.Proofs.Registry.Nesting
import AsyncClose.Proofs.Registry.Peak
import AsyncClose.Proofs.Failure.Conversion
import AsyncClose.Proofs.Registry.Commuting
import AsyncClose.Proofs.Mechanism.Crowd
import AsyncClose.Proofs.Registry.Matching
