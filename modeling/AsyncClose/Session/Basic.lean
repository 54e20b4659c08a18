import AsyncClose.Session.Request
import AsyncClose.Session.Bench
import AsyncClose.Session.Book

/-!
Sessions: a registry and the book kept on it, with the steps that requests are made of.
-/

namespace AsyncClose

structure Session (σ : Type) where
  registry : Registry σ
  book : Book

namespace Session

variable {σ α : Type} [Bench σ]

def ofRegistry (r : Registry σ) : Session σ := ⟨r, .blank⟩

def onRegistry (s : Session σ) (f : Registry σ → Registry σ) : Session σ :=
  { s with registry := f s.registry }

def source (t : Thread) (s : Session σ) : Option Nat × Session σ :=
  let (n, b) := s.book.number? (s.registry.source? t)
  (n, { s with book := b })

def transfer (fd : Descriptor) (act : Socket → Except Errno Nat × Socket) (r : Registry σ) :
    Except Errno Nat × Registry σ :=
  let (n, x) := (Bench.sockets r.mechanism).on fd act
  (n, { r with mechanism := Bench.withSockets x r.mechanism })

/-- Releases a guard, for the first time or once more. -/
def dropGuard (name : Int) (g : Guard) (s : Session σ) : Session σ :=
  ⟨s.registry.release g, s.book.setFate name .dropped⟩

def dropHeld (t : Thread) (s : Session σ) : Session σ :=
  (s.book.held t).foldl (fun s n => s.dropGuard n.name n.guard) s

/-- Forgets every guard a thread still holds; their entries stay. -/
def forgetHeld (t : Thread) (s : Session σ) : Session σ :=
  (s.book.held t).foldl (fun s n => { s with book := s.book.setFate n.name .forgotten }) s

def wakeEach (fds : List Descriptor) (r : Registry σ) : List Nat × Registry σ :=
  fds.foldl
    (fun s fd =>
      let (n, r) := s.2.wakeBlocked fd
      (s.1 ++ [n], r))
    ([], r)

def onPair (number : Nat) (action : PairAction) (s : Session σ) : Answer α × Session σ :=
  match s.book.reported[number]? with
  | none => (.nothing, s)
  | some p =>
    let pairs := Bench.pairs s.registry.mechanism
    match pairs[p.index]? with
    | none => (.nothing, s)
    | some w =>
      let (reply, w, events) := w.perform action
      let answer := match reply with
        | .nothing => .nothing
        | .flag b => .flag b
        | .transfer r => .transfer r
      let m := Bench.withPairs (pairs.set p.index w) s.registry.mechanism
      (answer, s.onRegistry fun r => { r with mechanism := m }.note (events.map (.wakeByte p)))

/-! ### Calls that really wait

While a thread waits, others close descriptors or disturb it; the call is an operation of the
registry's own retry loop. -/

def waitResult (wait : Wait) (on : Descriptor) (r : Registry σ) :
    Except CallError Nat × Registry σ :=
  match wait with
  | .poll => (.ok 1, r)
  | .read =>
    let (n, r) := transfer on (·.read 1) r
    (n.mapError .os, r)

/-- The operation of a waiting call in one of its attempts: the pair to wait on is reported, the
rest happens while the thread waits. The counts of the first wakes and the number of attempts
are kept beside the book. -/
def waiting (call : BlockingCall) (first : Bool) : Op σ (Book × List Nat × Nat) Nat :=
  fun g (r, book, counts, attempts) =>
    let (_, book) := book.number? (r.source? g.thread)
    let (counts, r) := if first then wakeEach call.before r else (counts, r)
    if first && call.disturbed then
      let (_, r) := r.interrupt g.thread (.raw (-1))
      (.returned (.error (.os .interrupted)), r, book, counts, attempts + 1)
    else
      let r := if call.unaided then r else (r.wakeBlocked call.fd).2
      let (result, r) := waitResult call.wait call.on r
      (.returned result, r, book, counts, attempts + 1)

def block (t : Thread) (call : BlockingCall) (s : Session σ) : Answer α × Session σ :=
  let (ending, r, book, counts, attempts) :=
    Registry.run t call.fd [waiting call true, waiting call false] (s.registry, s.book, [], 0)
  let answer := match ending with
    | some (.returned result) => .blocked result counts (1 < attempts)
    | some (.panicked text) => .panicked text
    | none => .nothing
  (answer, ⟨r, book⟩)

end Session

end AsyncClose
