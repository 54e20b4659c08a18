import AsyncClose.Registry.Guard

/-!
The book of a session: it names guards, lists the threads that were mentioned, and numbers wake
pairs in the order in which they are first reported.
-/

namespace AsyncClose

inductive Fate
  | held
  | dropped
  | forgotten
  deriving DecidableEq

structure NamedGuard where
  name : Int
  guard : Guard
  fate : Fate
  deriving DecidableEq

structure Book where
  guards : List NamedGuard
  threads : List Thread
  /-- The pairs reported so far, in order. -/
  reported : List PairId
  deriving DecidableEq

namespace Book

def blank : Book := ⟨[], [], []⟩

def guard? (b : Book) (name : Int) : Option Guard :=
  (b.guards.find? (·.name = name)).map (·.guard)

def add (b : Book) (name : Int) (g : Guard) : Book :=
  { b with guards := b.guards ++ [⟨name, g, .held⟩] }

def setFate (b : Book) (name : Int) (fate : Fate) : Book :=
  { b with guards := b.guards.map fun n => if n.name = name then { n with fate := fate } else n }

def held (b : Book) (t : Thread) : List NamedGuard :=
  (b.guards.filter fun n => n.guard.thread = t ∧ n.fate = .held).mergeSort
    fun m n => m.name ≤ n.name

def mention (b : Book) (t : Thread) : Book :=
  if b.threads.contains t then b else { b with threads := b.threads ++ [t] }

def sortedThreads (b : Book) : List Thread :=
  b.threads.mergeSort fun s t => s.label ≤ t.label

/-- The number of a pair, which gets the next one if it has none. -/
def number (b : Book) (p : PairId) : Nat × Book :=
  match b.reported.idxOf? p with
  | some n => (n, b)
  | none => (b.reported.length, { b with reported := b.reported ++ [p] })

def number? (b : Book) : Option PairId → Option Nat × Book
  | none => (none, b)
  | some p =>
    let (n, b) := b.number p
    (some n, b)

def sourceName (b : Book) (p : PairId) : String :=
  match b.reported.idxOf? p with
  | some n => "P" ++ toString n
  | none => "P?"

end Book

end AsyncClose
