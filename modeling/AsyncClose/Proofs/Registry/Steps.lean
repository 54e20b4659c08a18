import AsyncClose.Proofs.Registry.Scan
import AsyncClose.Registry.Guard

/-!
What each step of a registry changes. Registering and unregistering touch the slab alone,
entering and leaving the mechanism alone.
-/

namespace AsyncClose

namespace Registry

variable {σ : Type} (r : Registry σ) (t : Thread) (fd : Descriptor) (id : GuardId)

/-! ### Steps on the slab -/

@[simp] lemma register_fst : (r.register fd t).1 = (r.slab.insert ⟨fd, t, false⟩).1 := rfl

@[simp] lemma slab_register : (r.register fd t).2.slab = (r.slab.insert ⟨fd, t, false⟩).2 := rfl

@[simp] lemma mechanism_register : (r.register fd t).2.mechanism = r.mechanism := rfl

@[simp] lemma slab_unregister : (r.unregister id).2.slab = (r.slab.remove id).2 := rfl

lemma unregister_fst : (r.unregister id).1 = (r.slab.get? id).isSome := by
  change (r.slab.remove id).1.isSome = _
  cases h : r.slab.get? id with
  | none => rw [Slab.remove_eq_self h]
  | some e => rw [Slab.remove_eq h]

@[simp] lemma mechanism_unregister : (r.unregister id).2.mechanism = r.mechanism := rfl

/-! ### Steps on the mechanism -/

variable [Mechanism σ] (canOpen : Bool)

@[simp] lemma slab_enter : (r.enter t canOpen).slab = r.slab := rfl

@[simp] lemma mechanism_enter :
    (r.enter t canOpen).mechanism = (Mechanism.enter t canOpen r.mechanism).1 := rfl

@[simp] lemma slab_leave : (r.leave t).slab = r.slab := rfl

@[simp] lemma mechanism_leave : (r.leave t).mechanism = (Mechanism.leave t r.mechanism).1 := rfl

/-! ### Guards -/

@[simp] lemma acquire_fst :
    (r.acquire t fd canOpen).1 = ⟨(r.slab.insert ⟨fd, t, false⟩).1, fd, t⟩ := rfl

@[simp] lemma slab_acquire :
    (r.acquire t fd canOpen).2.slab = (r.slab.insert ⟨fd, t, false⟩).2 := rfl

@[simp] lemma slab_release (g : Guard) : (r.release g).slab = (r.slab.remove g.id).2 := rfl

end Registry

/-! ### Room for the guards -/

/-- A list has finitely many beginnings, so what is said of each of them can be decided. -/
instance decidableForallPrefix {α : Type} {P : List α → Prop} [DecidablePred P] (l : List α) :
    Decidable (∀ p, p <+: l → P p) :=
  decidable_of_iff (∀ p ∈ l.inits, P p) (by simp only [List.mem_inits])

namespace Registry

variable {σ : Type} {r : Registry σ}

/-- Fewer than `2 ^ 32` guards are live. -/
def Roomy (r : Registry σ) : Prop := r.blocked.length < 2 ^ 32

instance (r : Registry σ) : Decidable r.Roomy := Nat.decLt _ _

lemma roomy_iff_live (h : r.slab.Valid) : r.Roomy ↔ r.slab.live < 2 ^ 32 := by
  rw [Roomy, blocked, Slab.length_entries h]

lemma roomy_register_iff (h : r.slab.Valid) (fd : Descriptor) (t : Thread) :
    (r.register fd t).2.Roomy ↔ r.slab.live + 1 < 2 ^ 32 := by
  rw [Roomy, blocked, slab_register, (Slab.entries_insert h _).length_eq, List.length_cons,
    Slab.length_entries h]

/-- A guard that can still be counted keeps the books balanced. -/
lemma valid_register (h : r.slab.Valid) {fd : Descriptor} {t : Thread}
    (room : (r.register fd t).2.Roomy) : (r.register fd t).2.slab.Valid :=
  Slab.valid_insert h ((roomy_register_iff h fd t).mp room) _

end Registry

end AsyncClose
