import AsyncClose.Session.Basic

/-!
Requests carried out.
-/

namespace AsyncClose

/-- Which member equals which: a row for each, with a column for each. -/
def equalities {α : Type} [BEq α] (xs : List α) : List (List Bool) :=
  xs.map fun x => xs.map fun y => x == y

/-- Which members are not among those before them. -/
def firsts {α : Type} [BEq α] (xs : List α) : List Bool :=
  xs.zipIdx.map fun (x, i) => !(xs.take i).contains x

namespace Session

variable {σ α : Type} [Bench σ]

def info (g : Guard) (pretty : Bool) (s : Session σ) : Answer α × Session σ :=
  let (source, s) := s.source g.thread
  (.info ⟨g, s.registry.signaled g.id, source, g.shape.text pretty⟩, s)

/-- The registry, tall or flat, and the mechanism if it sends a signal. -/
def describe (pretty : Bool) (s : Session σ) : Answer α :=
  let signal := Bench.signal? s.registry.mechanism
  .description (s.registry.shape.text pretty)
    (signal.map fun n => (SignalMechanism.shape n).flat) signal

def sends : Request → Bool
  | .wake _ | .wakeAtOnce _ _ | .interrupt _ _ | .block _ _ => true
  | _ => false

def carryOut (q : Request) (s : Session σ) : Answer α × Session σ :=
  match q with
  | .guard t name fd canOpen =>
    let (g, r) := s.registry.acquire t fd canOpen
    let (source, s) := Session.source t ⟨r, s.book.add name g⟩
    (.guard g source, s)
  | .drop name =>
    match s.book.guard? name with
    | some g => (.nothing, s.dropGuard name g)
    | none => (.nothing, s)
  | .forget name => (.nothing, { s with book := s.book.setFate name .forgotten })
  | .signaled name => (.flag ((s.book.guard? name).any fun g => s.registry.signaled g.id), s)
  | .info name pretty =>
    match s.book.guard? name with
    | some g => s.info g pretty
    | none => (.nothing, s)
  | .exit t forget =>
    let s := if forget then s.forgetHeld t else s.dropHeld t
    (.nothing, s.onRegistry fun r => { r with mechanism := Bench.endThread t r.mechanism })
  | .block t call => s.block t call
  | .wake fd =>
    let (n, r) := s.registry.wakeBlocked fd
    (.count n, { s with registry := r })
  | .wakeAtOnce fd callers =>
    let (ns, r) := wakeEach (List.replicate callers fd) s.registry
    (.counts ns, { s with registry := r })
  | .size => (.count s.registry.size, s)
  | .describe pretty => (s.describe pretty, s)
  | .probe id => (.flag (s.registry.signaled id), s)
  | .install =>
    let (done, r) := s.registry.install
    (.setup done, { s with registry := r })
  | .enter t canOpen => (.nothing, s.onRegistry (·.enter t canOpen))
  | .leave t => (.nothing, s.onRegistry (·.leave t))
  | .source t =>
    let (source, s) := s.source t
    (.source source, s)
  | .interrupt t fd =>
    let (done, r) := s.registry.interrupt t fd
    (.outcome done, { s with registry := r })
  | .pair number action => s.onPair number action
  | .receive fd =>
    let (n, r) := transfer fd (·.receive Socket.maxTransfer) s.registry
    (.transfer n, { s with registry := r })
  | .peerReceive fd =>
    let (n, r) := transfer fd (·.peerReceive Socket.maxTransfer) s.registry
    (.transfer n, { s with registry := r })
  | .peerSend fd n =>
    let (n, r) := transfer fd (·.peerSend n) s.registry
    (.transfer n, { s with registry := r })
  | .handles =>
    let ts := s.book.sortedThreads
    (.handles ts (equalities ts) (firsts ts), s)

/-- Carries out a request, unless it would end the process. -/
def perform (q : Request) (s : Session σ) : Answer α × Session σ :=
  if sends q && Bench.deadly s.registry.mechanism then (.refused, s) else s.carryOut q

end Session

end AsyncClose
