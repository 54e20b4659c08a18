import AsyncClose.Mechanism.Basic
import AsyncClose.Slab.Basic
import AsyncClose.Text.Shape

/-!
The registry of blocked threads: a slab with an entry for every blocking episode, a mechanism
that interrupts threads, and the events so far.

Each definition here is one step that no other thread can observe half done: it stands for what
happens while a lock is held.
-/

namespace AsyncClose

structure Registry (σ : Type) where
  slab : Slab
  mechanism : σ
  /-- The events so far, oldest first. -/
  log : List Event

namespace Registry

variable {σ : Type}

def defaultCapacity : Nat := 64

def ofCapacity (capacity : Nat) (mechanism : σ) : Registry σ :=
  ⟨.ofCapacity capacity, mechanism, []⟩

def ofMechanism (mechanism : σ) : Registry σ := ofCapacity defaultCapacity mechanism

def note (r : Registry σ) (events : List Event) : Registry σ :=
  { r with log := r.log ++ events }

@[simp] theorem slab_note (r : Registry σ) (events : List Event) :
    (r.note events).slab = r.slab := rfl

@[simp] theorem mechanism_note (r : Registry σ) (events : List Event) :
    (r.note events).mechanism = r.mechanism := rfl

@[simp] theorem log_note (r : Registry σ) (events : List Event) :
    (r.note events).log = r.log ++ events := rfl

/-- Enters a thread that is blocked on a descriptor. -/
def register (fd : Descriptor) (t : Thread) (r : Registry σ) : GuardId × Registry σ :=
  let (id, slab) := r.slab.insert ⟨fd, t, false⟩
  (id, { r with slab := slab }.note [.registered fd id t])

/-- Takes a guard's entry out; whether there was one. -/
def unregister (id : GuardId) (r : Registry σ) : Bool × Registry σ :=
  let (e, slab) := r.slab.remove id
  (e.isSome, { r with slab := slab }.note [.unregistered id e.isSome])

def signaled (r : Registry σ) (id : GuardId) : Bool := r.slab.signaled id

def size (r : Registry σ) : Nat := r.slab.live

def isEmpty (r : Registry σ) : Bool := r.size = 0

/-- The live guards with what they block on, in slot order. -/
def blocked (r : Registry σ) : List (GuardId × Entry) := r.slab.entries

def shape (r : Registry σ) : Text.Shape :=
  .partialRecord "BlockRegistry" [("live", .word (toString r.size))]

variable [Mechanism σ]

def install (r : Registry σ) : Except CloseError Unit × Registry σ :=
  let (done, m, events) := Mechanism.install r.mechanism
  (done.mapError .setupFailed, { r with mechanism := m }.note events)

def enter (t : Thread) (canOpen : Bool) (r : Registry σ) : Registry σ :=
  let (m, events) := Mechanism.enter t canOpen r.mechanism
  { r with mechanism := m }.note events

def leave (t : Thread) (r : Registry σ) : Registry σ :=
  let (m, events) := Mechanism.leave t r.mechanism
  { r with mechanism := m }.note events

def interrupt (t : Thread) (fd : Descriptor) (r : Registry σ) : Except CallError Unit × Registry σ :=
  let (done, m, events) := Mechanism.wake t fd r.mechanism
  (done, { r with mechanism := m }.note events)

def source? (r : Registry σ) (t : Thread) : Option PairId := Mechanism.source? t r.mechanism

/-- Wakes the thread of one entry. The entry is marked first, so that the thread finds the mark
when it wakes. A wake that fails is reported and leaves the thread blocked. -/
def wakeEntry (fd : Descriptor) (i : Nat) (id : GuardId) (t : Thread) (r : Registry σ) :
    Registry σ :=
  let r := { r with slab := r.slab.mark i }.note [.waking fd id t]
  match r.interrupt t fd with
  | (.ok (), r) => r
  | (.error e, r) => r.note [.wakeFailed fd t e]

/-- Looks at slot `i` and wakes its thread if that blocks on `fd`, counting the wakes. -/
def scanSlot (fd : Descriptor) (s : Nat × Registry σ) (i : Nat) : Nat × Registry σ :=
  match s.2.slab.entryAt? i with
  | some (id, e) => if e.fd = fd then (s.1 + 1, s.2.wakeEntry fd i id e.thread) else s
  | none => s

/-- Wakes every thread blocked on `fd`, one slot after the other; how many wakes were tried. -/
def wakeBlocked (fd : Descriptor) (r : Registry σ) : Nat × Registry σ :=
  r.slab.indices.foldl (scanSlot fd) (0, r)

end Registry

end AsyncClose
