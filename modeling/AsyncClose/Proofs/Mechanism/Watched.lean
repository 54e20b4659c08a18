import AsyncClose.Proofs.Mechanism.Contact
import AsyncClose.Proofs.Registry.Steps

/-!
Mechanisms under observation, and mechanisms in want.

A watched mechanism keeps the calls it receives and is otherwise the mechanism itself. A scarce one
runs in a process that cannot always open descriptors, by a pattern laid down beforehand.
-/

namespace AsyncClose

/-- A mechanism and the calls that guards and wakes made on it, oldest first. -/
structure Watched (σ : Type) where
  mechanism : σ
  calls : List Contact

/-- A mechanism and whether descriptors can be opened when threads enter, one flag for every enter
to come. Behind the last flag it is as the caller says. -/
structure Scarce (σ : Type) where
  mechanism : σ
  openings : List Bool

variable {σ : Type}

def Watched.watch (m : σ) : Watched σ := ⟨m, []⟩

variable [Mechanism σ]

instance : Mechanism (Watched σ) where
  install s :=
    let (r, m, events) := Mechanism.install s.mechanism
    (r, { s with mechanism := m }, events)
  enter t canOpen s :=
    let (m, events) := Mechanism.enter t canOpen s.mechanism
    (⟨m, s.calls ++ [.enter t canOpen]⟩, events)
  wake t fd s :=
    let (r, m, events) := Mechanism.wake t fd s.mechanism
    (r, ⟨m, s.calls ++ [.wake t fd]⟩, events)
  leave t s :=
    let (m, events) := Mechanism.leave t s.mechanism
    (⟨m, s.calls ++ [.leave t]⟩, events)
  source? t s := Mechanism.source? t s.mechanism

instance : Mechanism (Scarce σ) where
  install s :=
    let (r, m, events) := Mechanism.install s.mechanism
    (r, { s with mechanism := m }, events)
  enter t canOpen s :=
    let (m, events) := Mechanism.enter t (s.openings.headD true && canOpen) s.mechanism
    (⟨m, s.openings.tail⟩, events)
  wake t fd s :=
    let (r, m, events) := Mechanism.wake t fd s.mechanism
    (r, { s with mechanism := m }, events)
  leave t s :=
    let (m, events) := Mechanism.leave t s.mechanism
    ({ s with mechanism := m }, events)
  source? t s := Mechanism.source? t s.mechanism

/-- What a watched mechanism keeps is what it was called for. -/
@[simp] lemma Watched.calls_replay (cs : List Contact) (m : Watched σ) :
    (Contact.replay cs m).calls = m.calls ++ cs := by
  induction cs generalizing m with
  | nil => simp
  | cons c cs ih =>
    have hone : (c.apply m).calls = m.calls ++ [c] := by cases c <;> rfl
    rw [Contact.replay_cons, ih, hone, List.append_assoc, List.singleton_append]

namespace Registry

/-- A scan calls for the wake of every guard on the descriptor, in slot order. -/
lemma calls_wakeBlocked (fd : Descriptor) (r : Registry (Watched σ)) (h : r.slab.Tidy) :
    (r.wakeBlocked fd).2.mechanism.calls =
      r.mechanism.calls ++ (r.targets fd).map fun x => .wake x.2.thread fd := by
  rw [mechanism_wakeBlocked fd r h, ← Watched.calls_replay, Contact.replay, List.foldl_map]
  rfl

end Registry

end AsyncClose
