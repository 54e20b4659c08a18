import AsyncClose.Proofs.Program.Capacity
import AsyncClose.Proofs.Program.Steps
import AsyncClose.Proofs.Registry.Balance

/-!
Identities in the course of a program.

What steps do to the slab can be asked of a registry by registrations, releases and scans alone, so a
ledger of what is asked has the same slab and knows every identity that was given out or taken back.
-/

namespace AsyncClose

namespace Ledger

variable {σ : Type} [Mechanism σ] {l : Ledger σ}

end Ledger

namespace Step

def access? : Step → Option Access
  | acquire t fd _ => some (.register fd t)
  | release g => some (.unregister g.id)
  | wake fd => some (.wake fd)
  | install => none
  | retry _ => none

def asked (xs : List Step) : List Access := xs.filterMap access?

variable {σ : Type} [Mechanism σ]

/-- Fewer than `2 ^ 32` guards are live at any time. -/
def Roomy (xs : List Step) (r : Registry σ) : Prop :=
  ∀ ys, ys <+: xs → (perform ys r).Roomy

instance (xs : List Step) (r : Registry σ) : Decidable (Roomy xs r) :=
  inferInstanceAs (Decidable (∀ ys, ys <+: xs → (perform ys r).Roomy))

lemma Roomy.left {xs ys : List Step} {r : Registry σ} (h : Roomy (xs ++ ys) r) : Roomy xs r :=
  fun zs hz => h zs (hz.trans (List.prefix_append xs ys))

lemma Roomy.right {xs ys : List Step} {r : Registry σ} (h : Roomy (xs ++ ys) r) :
    Roomy ys (perform xs r) := fun zs hz => by
  rw [← perform_append]
  exact h _ ((List.prefix_append_right_inj xs).mpr hz)

def issued? : Step → Registry σ → Option GuardId
  | acquire t fd canOpen, r => some (r.acquire t fd canOpen).1.id
  | _, _ => none

/-- The identity that a step takes back: one that is released while it is live. -/
def returned? : Step → Registry σ → Option GuardId
  | release g, r => if (r.slab.get? g.id).isSome then some g.id else none
  | _, _ => none

def issued : List Step → Registry σ → List GuardId
  | [], _ => []
  | x :: xs, r => (x.issued? r).toList ++ issued xs (x.apply r)

def returned : List Step → Registry σ → List GuardId
  | [], _ => []
  | x :: xs, r => (x.returned? r).toList ++ returned xs (x.apply r)

lemma returned_append (xs ys : List Step) (r : Registry σ) :
    returned (xs ++ ys) r = returned xs r ++ returned ys (perform xs r) := by
  induction xs generalizing r with
  | nil => rfl
  | cons x xs ih => rw [List.cons_append, returned, returned, ih, List.append_assoc, perform_cons]

/-- No slot is released `2 ^ 32` times. -/
def Lasting (xs : List Step) (r : Registry σ) : Prop :=
  ∀ i, ((returned xs r).countP fun id => id.slot = i) < 2 ^ 32

lemma Lasting.left {xs ys : List Step} {r : Registry σ} (h : Lasting (xs ++ ys) r) :
    Lasting xs r := fun i => by
  have hi := h i
  rw [returned_append, List.countP_append] at hi
  omega

end Step

end AsyncClose
