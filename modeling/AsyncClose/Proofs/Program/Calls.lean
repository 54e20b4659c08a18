import AsyncClose.Proofs.Program.Identities
import AsyncClose.Proofs.Program.Neutrality
import AsyncClose.Proofs.Registry.Nesting

/-!
Calls from end to end.

Whatever the operations of a call do to the registry, each attempt has a guard of its own, which was
not there before and is not there after. The operation is made under it as often as the endings ask
for it, and all that is left of the call is what its operations have done.
-/

namespace AsyncClose

namespace Invocation

variable {σ ω α : Type}

/-- The attempt ends at `r`: its guard is gone, and every other guard is as the operation has left
it. -/
structure Ended (a : Invocation σ ω α) (r : Registry σ) : Prop where
  gone : r.slab.get? a.guard.id = none
  others : ∀ id, id ≠ a.guard.id → r.slab.get? id = a.after.1.slab.get? id

def calls (a : Invocation (Watched σ) ω α) : List Contact :=
  a.after.1.mechanism.calls.drop a.before.1.mechanism.calls.length

end Invocation

namespace Registry

variable {σ ω α : Type} [Mechanism σ]

variable (t : Thread) (fd : Descriptor)

end Registry

namespace Program

variable {σ ω α : Type} [Mechanism σ]

/-! ### An attempt of a call as steps -/

variable (t : Thread) (fd : Descriptor)

/-- Leaves the registry alone and ends so. -/
def idle (e : Ending ℕ) (_ : Guard) (s : Unit) : Program Unit ℕ := .finish e s

def interrupted : Guard → Unit → Program Unit ℕ := idle (.returned (.error (.os .interrupted)))

end Program

end AsyncClose
