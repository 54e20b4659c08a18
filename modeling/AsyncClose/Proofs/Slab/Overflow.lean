import AsyncClose.Proofs.Slab.Valid

/-!
More entries than there are numbers for slots.

The counter of slots that were never used has 32 bits. Once it has run over, an entry goes where
the first one went, under the same identity, and the first one is gone. Nothing of this happens
as long as fewer than `2 ^ 32` guards are live at once.
-/

namespace AsyncClose

namespace Slab

variable {s : Slab} {n : ℕ}

/-- Entries were put in `n` times and none was taken out. -/
structure Filled (n : ℕ) (s : Slab) : Prop where
  tidy : s.Tidy
  free : s.free = []
  fresh : s.fresh = .ofNat n
  size : min n (2 ^ 32) ≤ s.slots.size
  generation : ∀ i, (s.slotAt i).generation = 0

lemma filled_ofCapacity (capacity : ℕ) : (ofCapacity capacity).Filled 0 where
  tidy := tidy_ofCapacity capacity
  free := rfl
  fresh := rfl
  size := by simp
  generation i := by rw [slotAt_ofCapacity]; rfl

lemma Filled.onClose (h : s.Filled n) (fd : Descriptor) : (s.onClose fd).Filled n where
  tidy := tidy_onClose fd h.tidy
  free := h.free
  fresh := h.fresh
  size := h.size
  generation i := by rw [slotAt_onClose]; exact h.generation i

lemma Filled.fst_takeSlot (h : s.Filled n) : s.takeSlot.1 = .ofNat n := by
  rw [takeSlot_nil h.free, h.fresh]

/-- The slot that is taken is inside the table, whether or not the counter has run over. -/
lemma Filled.lt_size (h : s.Filled n) :
    n % 2 ^ 32 < s.takeSlot.2.slots.size ∧ min (n + 1) (2 ^ 32) ≤ s.takeSlot.2.slots.size := by
  have hsize := h.size
  have hnext : s.fresh.toNat = n % 2 ^ 32 := by rw [h.fresh, UInt32.toNat_ofNat']
  rw [takeSlot_nil h.free]
  dsimp only
  split
  · rw [Table.size_grow]
    omega
  · omega

/-- The identities go round. -/
lemma Filled.insert_fst (h : s.Filled n) (e : Entry) : (s.insert e).1 = .pack (.ofNat n) 0 := by
  rw [Slab.insert_fst h.tidy, h.fst_takeSlot, h.generation]

/-- An entry that is in the slot already is lost. -/
lemma Filled.slotAt_insert (h : s.Filled n) (e : Entry) (i : ℕ) :
    (s.insert e).2.slotAt i = if n % 2 ^ 32 = i then ⟨0, some e⟩ else s.slotAt i := by
  have hslot : s.takeSlot.1.toNat = n % 2 ^ 32 := by rw [h.fst_takeSlot, UInt32.toNat_ofNat']
  rw [Slab.slotAt_insert h.tidy, hslot, h.insert_fst, GuardId.generation_pack]
  simp only [h.lt_size.1, and_true]

lemma Filled.insert (h : s.Filled n) (e : Entry) : (s.insert e).2.Filled (n + 1) where
  tidy := tidy_insert h.tidy e
  free := by
    change s.takeSlot.2.free = []
    rw [takeSlot_nil h.free, h.free]
  fresh := by
    change s.takeSlot.2.fresh = _
    rw [takeSlot_nil h.free, h.fresh, UInt32.ofNat_add]
    rfl
  size := by
    rw [show (s.insert e).2.slots.size = s.takeSlot.2.slots.size from Table.size_set _ _ _]
    exact h.lt_size.2
  generation i := by
    rw [h.slotAt_insert]
    split
    · rfl
    · exact h.generation i

/-! ### One entry many times -/

def cram (e : Entry) : ℕ → Slab → Slab
  | 0, s => s
  | n + 1, s => ((s.cram e n).insert e).2

/-- It does not matter which of them is counted as the first. -/
lemma cram_insert (e : Entry) (n : ℕ) (s : Slab) :
    (s.insert e).2.cram e n = s.cram e (n + 1) := by
  induction n with
  | zero => rfl
  | succ n ih => rw [cram, ih]; rfl

lemma Filled.cram (h : s.Filled n) (e : Entry) (k : ℕ) : (s.cram e k).Filled (n + k) := by
  induction k with
  | zero => exact h
  | succ k ih => exact ih.insert e

lemma Filled.slotAt_cram (h : s.Filled n) (e : Entry) (k i : ℕ) :
    (s.cram e k).slotAt i =
      if ∃ j < k, (n + j) % 2 ^ 32 = i then ⟨0, some e⟩ else s.slotAt i := by
  induction k with
  | zero => simp [Slab.cram]
  | succ k ih =>
    rw [Slab.cram, (h.cram e k).slotAt_insert, ih]
    by_cases hk : (n + k) % 2 ^ 32 = i
    · rw [if_pos hk, if_pos ⟨k, Nat.lt_succ_self k, hk⟩]
    · have hlast : (∃ j < k + 1, (n + j) % 2 ^ 32 = i) ↔ ∃ j < k, (n + j) % 2 ^ 32 = i := by
        constructor
        · rintro ⟨j, hj, hi⟩
          obtain hj | rfl := Nat.lt_succ_iff_lt_or_eq.mp hj
          · exact ⟨j, hj, hi⟩
          · exact absurd hi hk
        · rintro ⟨j, hj, hi⟩
          exact ⟨j, hj.trans (Nat.lt_succ_self k), hi⟩
      rw [if_neg hk, if_congr hlast rfl rfl]

/-- After `2 ^ 32` of them there is nothing else, whatever was there. -/
lemma Filled.get?_cram (h : s.Filled n) (e : Entry) {id : GuardId} {x : Entry}
    (hx : (s.cram e (2 ^ 32)).get? id = some x) : x = e := by
  have hi := id.slot.toNat_lt
  have hround : ∃ j < 2 ^ 32, (n + j) % 2 ^ 32 = id.slot.toNat := by
    refine ⟨(id.slot.toNat + (2 ^ 32 - n % 2 ^ 32)) % 2 ^ 32, Nat.mod_lt _ (by decide), ?_⟩
    omega
  rw [get?_eq_some, h.slotAt_cram, if_pos hround] at hx
  exact (Option.some.inj (congrArg Slot.entry hx)).symm

lemma Filled.entries_cram (h : s.Filled n) (e : Entry) {x : GuardId × Entry}
    (hx : x ∈ (s.cram e (2 ^ 32)).entries) : x.2 = e :=
  h.get?_cram e ((mem_entries (h.cram e (2 ^ 32)).tidy).mp hx)

/-- The first of them is live then, and a guard that comes and goes takes it away. -/
lemma Filled.first_lost (h : s.Filled 0) (e e' : Entry) :
    (s.cram e (2 ^ 32)).get? (.pack 0 0) = some e ∧
      (((s.cram e (2 ^ 32)).insert e').2.remove ((s.cram e (2 ^ 32)).insert e').1).2.get?
        (.pack 0 0) = none := by
  have hround : ∃ j < 2 ^ 32, (0 + j) % 2 ^ 32 = (0 : UInt32).toNat := ⟨0, by decide, rfl⟩
  have hid : ((s.cram e (2 ^ 32)).insert e').1 = .pack 0 0 := (h.cram e (2 ^ 32)).insert_fst e'
  constructor
  · rw [get?_eq_some, GuardId.slot_pack, GuardId.generation_pack, h.slotAt_cram, if_pos hround]
  · rw [hid, get?_remove, if_pos rfl]

end Slab

end AsyncClose
