import AsyncClose.Process.Setup
import AsyncClose.Session.Report
import AsyncClose.Session.Script

/-!
Sessions on the process-wide registry. Before the registry is set up only setups and a few
questions make sense; everything else panics. From then on the session is an ordinary one, in
which every further setup fails.
-/

namespace AsyncClose

inductive ProcessRequest where
  | setUp (settings : Settings)
  | setUpAtOnce (settings : Settings) (callers : Nat)
  /-- The registry, if there is one. -/
  | tryRegistry
  /-- The registry, which there should be. -/
  | registry
  /-- Whether setting up again leaves the registry as it is. -/
  | same
  /-- Threads that each read a byte from a descriptor, and are then woken. -/
  | readers (fd : Descriptor) (n : Nat)
  | registered (q : Request)

/-- A process under inspection: before there is a registry, and from then on. -/
inductive Host where
  | starting (p : Process) (sockets : Sockets)
  | running (s : Session (Beside SignalMechanism))

namespace Host

variable {α : Type}

/-- The text of the panic when the registry is missing. -/
def missing : String := "closewake not initialized. Call closewake::init() first."

def start (sockets : Sockets) : Host := .starting .fresh sockets

def sorted (texts : List String) : List String := texts.mergeSort fun a b => !(b < a)

def setupText : Except CloseError Unit → String
  | .ok () => "ok"
  | .error e => e.display

def readText : Except CallError Nat → String
  | .ok n => "ok " ++ toString n
  | .error e => if e.isClosed then "closed" else e.display

/-- Threads that nobody mentions. -/
def anonymous (n : Nat) : List Thread := (List.range n).map fun (i : Nat) => ⟨-1 - (i : Int)⟩

/-- Each of several threads reads a byte under a guard; all are woken once all wait. Without
threads nobody has to be woken. -/
def readers (fd : Descriptor) (n : Nat) (s : Session (Beside SignalMechanism)) :
    Answer α × Session (Beside SignalMechanism) :=
  let (guards, r) := (anonymous n).foldl
    (fun (s : List Guard × Registry (Beside SignalMechanism)) t =>
      let (g, r) := s.2.acquire t fd true
      (s.1 ++ [g], r))
    ([], s.registry)
  let r := if n = 0 then r else (r.wakeBlocked fd).2
  let (results, r) := guards.foldl
    (fun (s : List String × Registry (Beside SignalMechanism)) g =>
      let (result, r) := Session.waitResult .read fd s.2
      match r.settle g (.returned result) with
      | (.finished (.returned x), r) => (s.1 ++ [readText x], r)
      | (_, r) => (s.1, r))
    ([], r)
  (.texts (sorted results), { s with registry := r })

def perform (q : ProcessRequest) (s : Session (Beside SignalMechanism)) :
    Answer α × Session (Beside SignalMechanism) :=
  match q with
  | .setUp _ => (.setup (.error .alreadySetUp), s)
  | .setUpAtOnce _ n => (.texts (List.replicate n (setupText (.error .alreadySetUp))), s)
  | .tryRegistry | .registry => (.text s.registry.shape.flat, s)
  | .same => (.flag true, s)
  | .readers fd n => readers fd n s
  | .registered q => s.carryOut q

def setUpEach (settings : List Settings) (p : Process) : List String × Process :=
  settings.foldl
    (fun s x =>
      let (r, p) := s.2.setUp x
      (s.1 ++ [setupText r], p))
    ([], p)

/-- The host of a process, which is running as soon as there is a registry. -/
def ofProcess (p : Process) (sockets : Sockets) : Host :=
  match p.registry? with
  | none => .starting p sockets
  | some r => .running (.ofRegistry ⟨r.slab, ⟨r.mechanism, sockets⟩, p.log ++ r.log⟩)

def performEarly (q : ProcessRequest) (p : Process) (sockets : Sockets) : Answer α × Host :=
  match q with
  | .setUp settings =>
    let (r, p) := p.setUp settings
    (.setup r, ofProcess p sockets)
  | .setUpAtOnce settings n =>
    let (texts, p) := setUpEach (List.replicate n settings) p
    (.texts (sorted texts), ofProcess p sockets)
  | .same => (.flag false, ofProcess (p.setUp .standard).2 sockets)
  | .tryRegistry => (.text none, .starting p sockets)
  | .registered (.wake fd) =>
    let (n, p) := p.wakeBlocked fd
    (.count n, ofProcess p sockets)
  | .registry | .readers _ _ | .registered _ => (.panicked missing, .starting p sockets)

def act (a : Action ProcessRequest α) : Host → Answer α × Host
  | .starting p sockets =>
    match a with
    | .request _ q => performEarly q p sockets
    | .run _ _ _ => (.panicked missing, .starting p sockets)
  | .running s =>
    let (x, s) := s.act perform a
    (x, .running s)

def finish : Host → Host
  | .starting p sockets => .starting p sockets
  | .running s => .running s.finish

/-- The log in writing, and the registry's report if there is one. The events of a setup name no
pairs. -/
def report (brief : Bool) : Host → (List String × Option Report) × Host
  | .starting p sockets =>
    ((p.log.map fun e => (e.line fun _ => "").text, none), .starting { p with log := [] } sockets)
  | .running s =>
    let (r, s) := s.report brief
    ((r.log, some r), .running s)

end Host

end AsyncClose
