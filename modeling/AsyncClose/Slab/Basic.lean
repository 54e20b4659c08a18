import AsyncClose.Identity
import AsyncClose.Slab.Table

/-!
The slab: where the entries of live guards are kept.

Every entry sits in a slot. A slot that is released goes on top of a stack of free slots, from
which the next entry takes its slot; only when the stack is empty is a slot used for the first
time, and only when there is none left does the table grow. Releasing a slot raises its
generation, so identities of released entries never match again.
-/

namespace AsyncClose

/-- One blocking episode: the descriptor and the thread, and whether a close was requested. -/
structure Entry where
  fd : Descriptor
  thread : Thread
  signaled : Bool
  deriving DecidableEq

structure Slot where
  generation : UInt32
  entry : Option Entry
  deriving DecidableEq

instance : Inhabited Slot := ⟨⟨0, none⟩⟩

structure Slab where
  slots : Table Slot
  /-- Released slots, the last one released first. -/
  free : List UInt32
  /-- The first slot that was never used. All slots below it were. -/
  fresh : UInt32
  /-- The number of entries. -/
  live : Nat

namespace Slab

/-- The most slots that are set aside up front. -/
def maxSlots : Nat := 4294967295

/-- An empty slab with the given number of slots, at least one. -/
def ofCapacity (capacity : Nat) : Slab :=
  ⟨.blank (min (max capacity 1) maxSlots), [], 0, 0⟩

def takeSlot (s : Slab) : UInt32 × Slab :=
  match s.free with
  | i :: rest => (i, { s with free := rest })
  | [] =>
    let slots := if s.fresh.toNat = s.slots.size then s.slots.grow else s.slots
    (s.fresh, { s with slots := slots, fresh := s.fresh + 1 })

def insert (s : Slab) (e : Entry) : GuardId × Slab :=
  let (i, s) := s.takeSlot
  let generation := ((s.slots.get? i.toNat).getD default).generation
  (.pack i generation,
    { s with slots := s.slots.set i.toNat ⟨generation, some e⟩, live := s.live + 1 })

/-- The entry of a guard, as long as the guard is live. -/
def get? (s : Slab) (id : GuardId) : Option Entry := do
  let slot ← s.slots.get? id.slot.toNat
  if slot.generation = id.generation then slot.entry else none

/-- Releases the slot of a guard. Nothing changes unless the guard is live. -/
def remove (s : Slab) (id : GuardId) : Option Entry × Slab :=
  match s.get? id with
  | none => (none, s)
  | some e =>
    (some e,
      { s with
        slots := s.slots.set id.slot.toNat ⟨id.generation + 1, none⟩
        free := id.slot :: s.free
        live := s.live - 1 })

def entryAt? (s : Slab) (i : Nat) : Option (GuardId × Entry) := do
  let slot ← s.slots.get? i
  let e ← slot.entry
  pure (.pack (.ofNat i) slot.generation, e)

/-- The slots that have been written, in order. All others are empty. -/
def indices (s : Slab) : List Nat := List.range s.slots.written.size

def entries (s : Slab) : List (GuardId × Entry) := s.indices.filterMap s.entryAt?

def mark (s : Slab) (i : Nat) : Slab :=
  match s.slots.get? i with
  | some ⟨g, some e⟩ => { s with slots := s.slots.set i ⟨g, some { e with signaled := true }⟩ }
  | _ => s

/-- Whether a close was requested for a guard; never so for a guard that is not live. -/
def signaled (s : Slab) (id : GuardId) : Bool := (s.get? id).any (·.signaled)

/-- The identity that comes next once `n` entries are in and a further one was put in and taken
out `uses` times. -/
def idAfter (n uses : Nat) : GuardId :=
  let e : Entry := ⟨.raw 0, ⟨0⟩, false⟩
  let s := n.repeat (fun s => (s.insert e).2) (ofCapacity 64)
  let s := uses.repeat (fun s => let (id, s) := s.insert e; (s.remove id).2) s
  (s.insert e).1

end Slab

end AsyncClose
