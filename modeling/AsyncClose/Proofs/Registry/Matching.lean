import AsyncClose.Proofs.Registry.Balance
import AsyncClose.Proofs.Slab.Entries

/-!
Identities and what they match.

Slots and generations correspond to identities one to one. So an identity names one slot, in the
generation that it has, and never matches an entry in any other. Nothing is asked of the registry
for this: it may have run out of slots to number, and generations may have come round.
-/

namespace AsyncClose

/-- Slots with a generation, and the identities they pack into. -/
def GuardId.packing : UInt32 × UInt32 ≃ GuardId where
  toFun p := pack p.1 p.2
  invFun id := (id.slot, id.generation)
  left_inv p := Prod.ext (slot_pack p.1 p.2) (generation_pack p.1 p.2)
  right_inv := pack_slot_generation

namespace Slab

variable {s : Slab}

/-- Two slots report the same identity only if they are the same. -/
lemma entryAt?_unique (h : s.Tidy) {i j : ℕ} {a b : GuardId} {e f : Entry}
    (ha : s.entryAt? i = some (a, e)) (hb : s.entryAt? j = some (b, f)) : a = b ↔ i = j := by
  constructor
  · rintro rfl
    rw [← ((entryAt?_eq_some h).mp ha).1, ((entryAt?_eq_some h).mp hb).1]
  · rintro rfl
    rw [ha] at hb
    exact (Prod.mk.inj (Option.some.inj hb)).1

end Slab

namespace Ledger

variable {σ : Type} [Mechanism σ] {l : Ledger σ}

lemma tidy_step (h : l.registry.slab.Tidy) (a : Access) : (l.step a).registry.slab.Tidy := by
  cases a with
  | register fd t => exact Slab.tidy_insert h _
  | unregister id =>
    rw [slab_step_unregister]
    exact Slab.tidy_remove h id
  | wake fd =>
    rw [step, Registry.slab_wakeBlocked fd _ h]
    exact Slab.tidy_onClose fd h

variable (capacity : ℕ) (m : σ) (as : List Access)

lemma tidy_ofAccesses : (ofAccesses capacity m as).registry.slab.Tidy := by
  induction as using List.reverseRecOn with
  | nil => exact Slab.tidy_ofCapacity capacity
  | append_singleton as a ih =>
    rw [ofAccesses_snoc]
    exact tidy_step ih a

/-- **Packing is one to one.** A slot and a generation are given back by the identity they pack
into, whose word is the generation times `2 ^ 32` plus the slot, and every identity is packed from
its own. Two identities are equal exactly if they agree in both. So in a registry of which anything
was asked, an identity matches exactly the entry in the slot that it names, in the generation that
it names, and two slots never report the same. -/
theorem packing_one_to_one :
    (∀ i g : UInt32, (GuardId.pack i g).slot = i ∧ (GuardId.pack i g).generation = g ∧
        (GuardId.pack i g).bits.toNat = g.toNat * 2 ^ 32 + i.toNat) ∧
      (∀ id : GuardId, .pack id.slot id.generation = id) ∧
      (Function.Bijective fun p : UInt32 × UInt32 => GuardId.pack p.1 p.2) ∧
      (∀ a b : GuardId, a = b ↔ a.slot = b.slot ∧ a.generation = b.generation) ∧
      let s := (ofAccesses capacity m as).registry.slab
      (∀ id e, s.get? id = some e ↔ s.slotAt id.slot.toNat = ⟨id.generation, some e⟩) ∧
        (∀ i id e, s.entryAt? i = some (id, e) ↔ id.slot.toNat = i ∧ s.get? id = some e) ∧
        ∀ i j a b e f, s.entryAt? i = some (a, e) → s.entryAt? j = some (b, f) →
          (a = b ↔ i = j) := by
  have h := tidy_ofAccesses capacity m as
  refine ⟨fun i g => ?_, GuardId.pack_slot_generation, GuardId.packing.bijective,
    fun a b => GuardId.eq_iff_slot_generation, fun id e => Slab.get?_eq_some,
    fun i id e => Slab.entryAt?_eq_some h, fun i j a b e f => Slab.entryAt?_unique h⟩
  exact ⟨GuardId.slot_pack i g, GuardId.generation_pack i g, GuardId.toNat_pack i g⟩

/-- The first slot is in its second generation and the second in its first, and their identities
are two. -/
theorem packing_one_to_one_reuse :
    let s := (ofAccesses 1 (WakeRecorder.mk [] (.ofOutcomes [])) reuse).registry.slab
    s.entryAt? 0 = some (.pack 0 1, ⟨.raw 5, ⟨0⟩, true⟩) ∧
      s.entryAt? 1 = some (.pack 1 0, ⟨.raw 6, ⟨1⟩, false⟩) ∧
      s.get? (.pack 0 1) = some ⟨.raw 5, ⟨0⟩, true⟩ ∧ s.get? (.pack 0 0) = none ∧
      GuardId.pack 0 1 ≠ .pack 1 0 := by
  intro s
  obtain ⟨-, -, -, -, -, hlisted, hunique⟩ :=
    packing_one_to_one 1 (WakeRecorder.mk [] (.ofOutcomes [])) reuse
  have hfirst : s.entryAt? 0 = some (.pack 0 1, ⟨.raw 5, ⟨0⟩, true⟩) := by decide +kernel
  have hsecond : s.entryAt? 1 = some (.pack 1 0, ⟨.raw 6, ⟨1⟩, false⟩) := by decide +kernel
  refine ⟨hfirst, hsecond, ((hlisted 0 _ _).mp hfirst).2, by decide +kernel, fun hc => ?_⟩
  exact absurd ((hunique 0 1 _ _ _ _ hfirst hsecond).mp hc) (by decide)

end Ledger

end AsyncClose
