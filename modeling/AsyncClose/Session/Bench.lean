import AsyncClose.Mechanism.Recorder
import AsyncClose.Sockets
import AsyncClose.Mechanism.Signal
import AsyncClose.Mechanism.WakeChannel

/-!
Mechanisms set up for inspection: what a session can see of a mechanism besides its operations,
and the open descriptors next to it.
-/

namespace AsyncClose

/-- A mechanism that leaves the open descriptors alone, side by side with them. -/
structure Beside (σ : Type) where
  mechanism : σ
  sockets : Sockets

instance {σ : Type} [Mechanism σ] : Mechanism (Beside σ) where
  install s :=
    let (r, m, events) := Mechanism.install s.mechanism
    (r, { s with mechanism := m }, events)
  enter t canOpen s :=
    let (m, events) := Mechanism.enter t canOpen s.mechanism
    ({ s with mechanism := m }, events)
  wake t fd s :=
    let (r, m, events) := Mechanism.wake t fd s.mechanism
    (r, { s with mechanism := m }, events)
  leave t s :=
    let (m, events) := Mechanism.leave t s.mechanism
    ({ s with mechanism := m }, events)
  source? t s := Mechanism.source? t s.mechanism

/-- What a session can see and do beyond the operations of the mechanism. -/
class Bench (σ : Type) extends Mechanism σ where
  sockets : σ → Sockets
  withSockets : Sockets → σ → σ
  /-- The recorded calls of a mechanism that records; taking them starts a new record. -/
  takeCalls : σ → Option (List Call) × σ := fun s => (none, s)
  /-- Who owns which channel, for a mechanism with channels. -/
  channels? : σ → Option (ThreadMap Channel) := fun _ => none
  pairs : σ → List WakePair := fun _ => []
  withPairs : List WakePair → σ → σ := fun _ s => s
  /-- The thread is gone for good. -/
  endThread : Thread → σ → σ := fun _ s => s
  /-- The signal of a mechanism that sends one. -/
  signal? : σ → Option Int := fun _ => none
  /-- A wake would end the process. -/
  deadly : σ → Bool := fun _ => false

instance : Bench (Beside Recorder) where
  sockets s := s.sockets
  withSockets x s := { s with sockets := x }
  takeCalls s := (some s.mechanism.calls, { s with mechanism := { s.mechanism with calls := [] } })

instance : Bench (Beside WakeRecorder) where
  sockets s := s.sockets
  withSockets x s := { s with sockets := x }
  takeCalls s := (some s.mechanism.calls, { s with mechanism := { s.mechanism with calls := [] } })

instance : Bench (Beside (WakeChannels CloseRecorder)) where
  sockets s := s.sockets
  withSockets x s := { s with sockets := x }
  takeCalls s :=
    let closer := s.mechanism.closer
    (some closer.calls,
      { s with mechanism := { s.mechanism with closer := { closer with calls := [] } } })
  channels? s := some s.mechanism.channels
  pairs s := s.mechanism.pairs
  withPairs ps s := { s with mechanism := { s.mechanism with pairs := ps } }

instance : Bench (WakeChannels Sockets) where
  sockets s := s.closer
  withSockets x s := { s with closer := x }
  channels? s := some s.channels
  pairs s := s.pairs
  withPairs ps s := { s with pairs := ps }

instance : Bench (Beside SignalMechanism) where
  sockets s := s.sockets
  withSockets x s := { s with sockets := x }
  endThread t s :=
    { s with mechanism := { s.mechanism with ended := t :: s.mechanism.ended } }
  signal? s := some s.mechanism.signal
  deadly s := s.mechanism.deadly

end AsyncClose
