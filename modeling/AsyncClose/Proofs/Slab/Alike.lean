import AsyncClose.Proofs.Slab.Valid

/-!
Slabs that differ in the size of their tables only.

No operation tells such slabs apart. Whatever holds an entry was written, and only slots inside
both tables are ever written; a slot that one table has and the other has not is empty, and reads
as no entry either way. When one table grows and the other does not they are still alike.
-/

namespace AsyncClose

namespace Table

variable {α : Type} [Inhabited α]

lemma written_set {t : Table α} {i : ℕ} (h : i < t.size) (x : α) :
    (t.set i x).written = (fill t.written (i + 1)).setIfInBounds i x := by
  rw [set, if_pos h]

end Table

namespace Slab

/-- The slots that come next are in the table. This is so even when the counters have run over. -/
structure Inside (s : Slab) : Prop where
  tidy : s.Tidy
  fresh_le : s.fresh.toNat ≤ s.slots.size
  free_lt : ∀ i ∈ s.free, i.toNat < s.slots.size

/-- The same slab over tables of any two sizes. -/
structure Alike (s t : Slab) : Prop where
  written : s.slots.written = t.slots.written
  free : s.free = t.free
  fresh : s.fresh = t.fresh
  live : s.live = t.live
  left : s.Inside
  right : t.Inside

variable {s t : Slab}

/-! ### Staying inside -/

lemma inside_ofCapacity (capacity : ℕ) : (ofCapacity capacity).Inside :=
  ⟨tidy_ofCapacity capacity, Nat.zero_le _, fun _ hi => absurd hi List.not_mem_nil⟩

lemma Inside.takeSlot_lt (h : s.Inside) : s.takeSlot.1.toNat < s.takeSlot.2.slots.size := by
  have hle := h.fresh_le
  rcases hf : s.free with _ | ⟨i, rest⟩
  · rw [takeSlot_nil hf]
    dsimp only
    split
    · rw [Table.size_grow]; omega
    · omega
  · rw [takeSlot_cons hf]
    exact h.free_lt i (by simp [hf])

lemma Inside.insert (h : s.Inside) (e : Entry) : (s.insert e).2.Inside := by
  have hlt := h.takeSlot_lt
  have hsize : (s.insert e).2.slots.size = s.takeSlot.2.slots.size := Table.size_set _ _ _
  have hfree : (s.insert e).2.free = s.takeSlot.2.free := rfl
  have hfresh : (s.insert e).2.fresh = s.takeSlot.2.fresh := rfl
  refine ⟨tidy_insert h.tidy e, ?_, ?_⟩ <;> rw [hsize]
  · rw [hfresh]
    rcases hf : s.free with _ | ⟨i, rest⟩
    · rw [takeSlot_nil hf] at hlt ⊢
      have hnext : (s.fresh + 1).toNat ≤ s.fresh.toNat + 1 := by
        rw [UInt32.toNat_add, UInt32.toNat_one]
        exact Nat.mod_le _ _
      exact hnext.trans hlt
    · rw [takeSlot_cons hf]
      exact h.fresh_le
  · intro j hj
    rw [hfree] at hj
    rcases hf : s.free with _ | ⟨i, rest⟩
    · rw [takeSlot_nil hf, hf] at hj
      exact absurd hj List.not_mem_nil
    · rw [takeSlot_cons hf] at hj ⊢
      exact h.free_lt j (by rw [hf]; exact List.mem_cons_of_mem i hj)

lemma Inside.remove (h : s.Inside) (id : GuardId) : (s.remove id).2.Inside := by
  cases hx : s.get? id with
  | none => rwa [remove_eq_self hx]
  | some e =>
    have htidy := tidy_remove h.tidy id
    rw [remove_eq hx] at htidy ⊢
    refine ⟨htidy, by simpa using h.fresh_le, fun j hj => ?_⟩
    rw [Table.size_set]
    rcases List.mem_cons.mp hj with rfl | hj
    · exact slot_lt_size hx
    · exact h.free_lt j hj

lemma Inside.onClose (h : s.Inside) (fd : Descriptor) : (s.onClose fd).Inside :=
  ⟨tidy_onClose fd h.tidy, h.fresh_le, h.free_lt⟩

/-! ### Reading -/

lemma alike_ofCapacity (c d : ℕ) : (ofCapacity c).Alike (ofCapacity d) :=
  ⟨rfl, rfl, rfl, rfl, inside_ofCapacity c, inside_ofCapacity d⟩

lemma Alike.slotAt (h : s.Alike t) (i : ℕ) : s.slotAt i = t.slotAt i := by
  rw [slotAt_eq_getD s h.left.tidy, slotAt_eq_getD t h.right.tidy, h.written]

lemma Alike.get? (h : s.Alike t) (id : GuardId) : s.get? id = t.get? id := by
  rw [get?_eq, get?_eq, h.slotAt]

lemma Alike.signaled (h : s.Alike t) (id : GuardId) : s.signaled id = t.signaled id := by
  rw [Slab.signaled, Slab.signaled, h.get?]

lemma Alike.entries (h : s.Alike t) : s.entries = t.entries := by
  rw [Slab.entries, Slab.entries, indices, indices, h.written]
  congr 1
  funext i
  rw [entryAt?_eq, entryAt?_eq, h.slotAt]

/-! ### Writing -/

lemma Alike.takeSlot_fst (h : s.Alike t) : s.takeSlot.1 = t.takeSlot.1 := by
  rcases hf : s.free with _ | ⟨i, rest⟩
  · rw [takeSlot_nil hf, takeSlot_nil (h.free ▸ hf), h.fresh]
  · rw [takeSlot_cons hf, takeSlot_cons (h.free ▸ hf)]

lemma written_takeSlot (s : Slab) : s.takeSlot.2.slots.written = s.slots.written := by
  unfold takeSlot
  split
  · rfl
  · split <;> rfl

lemma Alike.takeSlot_snd (h : s.Alike t) :
    s.takeSlot.2.free = t.takeSlot.2.free ∧ s.takeSlot.2.fresh = t.takeSlot.2.fresh := by
  rcases hf : s.free with _ | ⟨i, rest⟩
  · rw [takeSlot_nil hf, takeSlot_nil (h.free ▸ hf), h.fresh]
    exact ⟨h.free, rfl⟩
  · rw [takeSlot_cons hf, takeSlot_cons (h.free ▸ hf)]
    exact ⟨rfl, h.fresh⟩

/-- Either insertion gives the same identity, whether the table grows for it or not. -/
lemma Alike.insert_fst (h : s.Alike t) (e : Entry) : (s.insert e).1 = (t.insert e).1 := by
  rw [Slab.insert_fst h.left.tidy, Slab.insert_fst h.right.tidy, h.takeSlot_fst, h.slotAt]

lemma Alike.insert (h : s.Alike t) (e : Entry) : (s.insert e).2.Alike (t.insert e).2 := by
  have hwritten : ∀ {u : Slab}, u.Inside → (u.insert e).2.slots.written =
      (Table.fill u.slots.written (u.takeSlot.1.toNat + 1)).setIfInBounds u.takeSlot.1.toNat
        ⟨(u.insert e).1.generation, some e⟩ := by
    intro u hu
    rw [Slab.insert_fst hu.tidy, GuardId.generation_pack, ← slotAt_takeSlot hu.tidy,
      ← written_takeSlot u]
    exact Table.written_set hu.takeSlot_lt _
  obtain ⟨hfree, hfresh⟩ := h.takeSlot_snd
  refine ⟨?_, hfree, hfresh, ?_, h.left.insert e, h.right.insert e⟩
  · rw [hwritten h.left, hwritten h.right, h.written, h.takeSlot_fst, h.insert_fst]
  · rw [live_insert, live_insert, h.live]

lemma Alike.remove (h : s.Alike t) (id : GuardId) :
    (s.remove id).1 = (t.remove id).1 ∧ (s.remove id).2.Alike (t.remove id).2 := by
  have hleft := h.left.remove id
  have hright := h.right.remove id
  cases hx : s.get? id with
  | none =>
    rw [remove_eq_self hx, remove_eq_self (h.get? id ▸ hx)]
    exact ⟨rfl, h⟩
  | some e =>
    have hy : t.get? id = some e := h.get? id ▸ hx
    rw [remove_eq hx] at hleft ⊢
    rw [remove_eq hy] at hright ⊢
    refine ⟨rfl, ?_, by rw [h.free], h.fresh, by rw [h.live], hleft, hright⟩
    dsimp only
    rw [Table.written_set (slot_lt_size hx), Table.written_set (slot_lt_size hy), h.written]

lemma Alike.onClose (h : s.Alike t) (fd : Descriptor) : (s.onClose fd).Alike (t.onClose fd) :=
  ⟨by simp only [Slab.onClose, h.written], h.free, h.fresh, h.live, h.left.onClose fd,
    h.right.onClose fd⟩

end Slab

end AsyncClose
