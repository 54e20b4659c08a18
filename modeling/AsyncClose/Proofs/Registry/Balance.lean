import AsyncClose.Proofs.Registry.Identities
import AsyncClose.Proofs.Slab.Stock

/-!
The books of a registry balance at every point, whatever is asked of it.

Requests come in any order, and any identity can be asked to be taken out. Each of them keeps the
slab valid as long as the guards that are live at once can be counted, so no insertion and no
release ever goes where it may not.
-/

namespace AsyncClose

namespace Ledger

variable {σ : Type} [Mechanism σ] {l : Ledger σ}

@[simp] lemma slab_step_register (fd : Descriptor) (t : Thread) :
    (l.step (.register fd t)).registry.slab = (l.registry.slab.insert ⟨fd, t, false⟩).2 := rfl

@[simp] lemma slab_step_unregister (id : GuardId) :
    (l.step (.unregister id)).registry.slab = (l.registry.slab.remove id).2 := by
  cases h : l.registry.slab.get? id with
  | none => rw [step_unregister_of_none h, Registry.slab_unregister]
  | some e => rw [step_unregister_of_some h, Registry.slab_unregister]

/-- One request keeps the books balanced. -/
lemma valid_step (h : l.registry.slab.Valid) (a : Access)
    (room : (l.step a).registry.Roomy) : (l.step a).registry.slab.Valid := by
  cases a with
  | register fd t => exact Registry.valid_register h room
  | unregister id =>
    rw [slab_step_unregister]
    exact Slab.valid_remove h id
  | wake fd =>
    rw [step, Registry.slab_wakeBlocked fd _ h.tidy]
    exact Slab.valid_onClose h fd

variable (capacity : ℕ) (m : σ) {as : List Access}

/-- Any number of requests keeps the books balanced. -/
lemma valid_ofAccesses (room : Roomy capacity m as) :
    (ofAccesses capacity m as).registry.slab.Valid := by
  induction as using List.reverseRecOn with
  | nil => exact Slab.valid_ofCapacity capacity
  | append_singleton as a ih =>
    have h := ih (room.of_prefix (List.prefix_append as [a]))
    have hroom := room _ List.prefix_rfl
    rw [ofAccesses_snoc] at hroom ⊢
    exact valid_step h a hroom

/-- **The books balance.** Whatever is asked of a registry, of any capacity and over any mechanism,
as long as fewer than `2 ^ 32` guards are live at once, at every point: no more slots were handed
out than there are, those that were not are as they were made, the free slots are the empty ones
among those that were, each once, and the live counter counts the occupied slots, which together
with the free ones are all that were handed out. So an insertion always takes an empty slot of the
table and can count it, and a release that finds its guard always has an entry to count less and
room for one more free slot. -/
theorem books_balance (as : List Access) (room : Roomy capacity m as) :
    (∀ p, p <+: as →
        (ofAccesses capacity m p).registry.slab.Valid ∧
          (ofAccesses capacity m p).registry.slab.live =
            (List.range (ofAccesses capacity m p).registry.slab.slots.size).countP
              (ofAccesses capacity m p).registry.slab.occupied) ∧
      (∀ p fd t, p ++ [Access.register fd t] <+: as →
        (ofAccesses capacity m p).registry.slab.InsertSafe) ∧
      ∀ p id, p ++ [Access.unregister id] <+: as →
        ((ofAccesses capacity m p).registry.unregister id).1 = true →
          (ofAccesses capacity m p).registry.slab.ReleaseSafe := by
  have hvalid : ∀ p, p <+: as → (ofAccesses capacity m p).registry.slab.Valid := fun p hp =>
    valid_ofAccesses capacity m (room.of_prefix hp)
  refine ⟨fun p hp => ⟨hvalid p hp, (hvalid p hp).live_eq_countP⟩, ?_, ?_⟩
  · intro p fd t hp
    have h := hvalid p ((List.prefix_append p _).trans hp)
    -- the guard that is about to come can be counted too
    have hroom := room _ hp
    rw [ofAccesses_snoc] at hroom
    exact h.insertSafe ((Registry.roomy_register_iff h fd t).mp hroom)
  · intro p id hp htrue
    have h := hvalid p ((List.prefix_append p _).trans hp)
    rw [Registry.unregister_fst, Option.isSome_iff_exists] at htrue
    obtain ⟨e, he⟩ := htrue
    exact h.releaseSafe he

/-- A slot is used twice, the table grows past its one slot, and a stale identity is refused: in
the end two guards are live. -/
theorem books_balance_reuse :
    (ofAccesses 1 (WakeRecorder.mk [] (.ofOutcomes [])) reuse).registry.slab.Valid ∧
      (ofAccesses 1 (WakeRecorder.mk [] (.ofOutcomes [])) reuse).registry.slab.live = 2 ∧
      (ofAccesses 1 (WakeRecorder.mk [] (.ofOutcomes [])) (reuse.take 3)).registry.slab.InsertSafe ∧
      (ofAccesses 1 (WakeRecorder.mk [] (.ofOutcomes []))
        (reuse.take 1)).registry.slab.ReleaseSafe := by
  obtain ⟨hvalid, hinsert, hrelease⟩ :=
    books_balance 1 (WakeRecorder.mk [] (.ofOutcomes [])) reuse roomy_reuse
  refine ⟨(hvalid reuse List.prefix_rfl).1, by decide +kernel, ?_, ?_⟩
  · exact hinsert (reuse.take 3) (.raw 6) ⟨1⟩ (by decide)
  · exact hrelease (reuse.take 1) ⟨0⟩ (by decide) (by decide +kernel)

end Ledger

end AsyncClose
