import AsyncClose.Slab.Basic
import Mathlib

/-!
Reading a slab slot by slot.

Every slot reads as something, an empty slot of generation zero where there is none, and each
operation is described by what it does to this reading. Nothing here asks how slots are
allocated, so it also holds of a slab whose counters have run over.

Packing a slot and a generation into one word loses nothing: the word is the generation times
`2 ^ 32` plus the slot, so its halves give both back.
-/

namespace AsyncClose

namespace GuardId

lemma toNat_pack (i g : UInt32) : (pack i g).bits.toNat = g.toNat * 2 ^ 32 + i.toNat := by
  have hi := i.toNat_lt
  have hg := g.toNat_lt
  have hor := Nat.shiftLeft_add_eq_or_of_lt hi g.toNat
  have h32 : UInt64.toNat 32 % 64 = 32 := rfl
  simp only [pack, UInt64.toNat_or, UInt64.toNat_shiftLeft, UInt32.toNat_toUInt64, h32]
  rw [Nat.mod_eq_of_lt (by rw [Nat.shiftLeft_eq]; omega), ← hor, Nat.shiftLeft_eq]

lemma toNat_slot (id : GuardId) : id.slot.toNat = id.bits.toNat % 2 ^ 32 := by
  have hm : UInt64.toNat 0xFFFFFFFF = 2 ^ 32 - 1 := rfl
  rw [slot, UInt64.toNat_toUInt32, UInt64.toNat_and, hm, Nat.and_two_pow_sub_one_eq_mod,
    Nat.mod_mod]

lemma toNat_generation (id : GuardId) : id.generation.toNat = id.bits.toNat / 2 ^ 32 := by
  have hid := id.bits.toNat_lt
  have h32 : UInt64.toNat 32 % 64 = 32 := rfl
  rw [generation, UInt64.toNat_toUInt32, UInt64.toNat_shiftRight, h32,
    Nat.shiftRight_eq_div_pow, Nat.mod_eq_of_lt (by omega)]

@[simp] lemma slot_pack (i g : UInt32) : (pack i g).slot = i := by
  have hi := i.toNat_lt
  rw [← UInt32.toNat_inj, toNat_slot, toNat_pack]
  omega

@[simp] lemma generation_pack (i g : UInt32) : (pack i g).generation = g := by
  have hi := i.toNat_lt
  rw [← UInt32.toNat_inj, toNat_generation, toNat_pack]
  omega

@[simp] lemma pack_slot_generation (id : GuardId) : pack id.slot id.generation = id := by
  have h : (pack id.slot id.generation).bits = id.bits := by
    rw [← UInt64.toNat_inj, toNat_pack, toNat_slot, toNat_generation]
    omega
  obtain ⟨bits⟩ := id
  exact congrArg GuardId.mk h

lemma eq_iff_slot_generation {a b : GuardId} :
    a = b ↔ a.slot = b.slot ∧ a.generation = b.generation := by
  constructor
  · rintro rfl
    exact ⟨rfl, rfl⟩
  · rintro ⟨hs, hg⟩
    rw [← pack_slot_generation a, hs, hg, pack_slot_generation]

end GuardId

namespace Table

variable {α : Type} [Inhabited α]

lemma getD_get?_set (t : Table α) (i j : ℕ) (x : α) :
    ((t.set i x).get? j).getD default =
      if i = j ∧ i < t.size then x else (t.get? j).getD default := by
  by_cases hij : i = j
  · subst hij
    by_cases hi : i < t.size
    · simp [get?_set_self t i x hi, hi]
    · simp [set, hi]
  · simp [get?_set_ne t i j x hij, hij]

lemma size_written_set (t : Table α) (i : ℕ) (x : α) (h : t.written.size ≤ t.size) :
    (t.set i x).written.size ≤ t.size := by
  unfold set
  split
  · simp only [fill, Array.size_setIfInBounds, Array.size_append, Array.size_replicate]
    omega
  · exact h

lemma getD_get?_grow (t : Table α) (j : ℕ) (h : t.written.size ≤ t.size) :
    (t.grow.get? j).getD default = (t.get? j).getD default := by
  unfold get? grow
  rcases lt_trichotomy j t.size with hj | rfl | hj
  · simp [hj, Nat.lt_succ_of_lt hj]
  · simp [Array.getD, Nat.not_lt.mpr h]
  · simp [Nat.not_lt.mpr hj.le, show ¬j < t.size + 1 by omega]

end Table

namespace Slab

/-- Slot `i`, which is an unused one where the table has none. -/
def slotAt (s : Slab) (i : ℕ) : Slot := (s.slots.get? i).getD default

/-- The table has not written beyond its end, and every slot has a number. -/
structure Tidy (s : Slab) : Prop where
  written : s.slots.written.size ≤ s.slots.size
  size : s.slots.size ≤ 2 ^ 32

lemma slotAt_eq_getD (s : Slab) (h : s.Tidy) (i : ℕ) :
    s.slotAt i = s.slots.written.getD i default := by
  unfold slotAt Table.get?
  split
  · rfl
  · have := h.written
    simp [Array.getD, show ¬i < s.slots.written.size by omega]

lemma slotAt_of_size_le (s : Slab) {i : ℕ} (h : s.slots.size ≤ i) : s.slotAt i = default := by
  rw [slotAt, (Table.get?_eq_none _ _).mpr h, Option.getD_none]

lemma get?_eq (s : Slab) (id : GuardId) :
    s.get? id =
      if (s.slotAt id.slot.toNat).generation = id.generation then
        (s.slotAt id.slot.toNat).entry
      else none := by
  unfold get? slotAt
  cases s.slots.get? id.slot.toNat with
  | none =>
    simp only [bind, Option.bind_none, Option.getD_none]
    split <;> rfl
  | some x => rfl

lemma get?_eq_some {s : Slab} {id : GuardId} {e : Entry} :
    s.get? id = some e ↔ s.slotAt id.slot.toNat = ⟨id.generation, some e⟩ := by
  rw [get?_eq]
  obtain ⟨g, x⟩ := s.slotAt id.slot.toNat
  by_cases hg : g = id.generation <;> simp [hg]

lemma entryAt?_eq (s : Slab) (i : ℕ) :
    s.entryAt? i = (s.slotAt i).entry.map fun e => (.pack (.ofNat i) (s.slotAt i).generation, e) := by
  unfold entryAt? slotAt
  cases s.slots.get? i with
  | none => rfl
  | some x => cases h : x.entry <;> simp [h]

/-! ### What the operations write -/

lemma tidy_ofCapacity (capacity : ℕ) : (ofCapacity capacity).Tidy := by
  refine ⟨by simp [ofCapacity, Table.blank], ?_⟩
  simp only [ofCapacity, Table.size_blank, maxSlots]
  omega

lemma slotAt_ofCapacity (capacity i : ℕ) : (ofCapacity capacity).slotAt i = default := by
  simp only [ofCapacity, slotAt, Table.get?_blank]
  split <;> rfl

lemma get?_ofCapacity (capacity : ℕ) (id : GuardId) : (ofCapacity capacity).get? id = none := by
  rw [get?_eq, slotAt_ofCapacity]
  split <;> rfl

lemma tidy_takeSlot {s : Slab} (h : s.Tidy) : s.takeSlot.2.Tidy := by
  have hf := s.fresh.toNat_lt
  obtain ⟨hw, hs⟩ := h
  unfold takeSlot
  split
  · exact ⟨hw, hs⟩
  · split
    · next heq => exact ⟨Nat.le_succ_of_le hw, by simp only [Table.size_grow]; omega⟩
    · exact ⟨hw, hs⟩

lemma slotAt_takeSlot {s : Slab} (h : s.Tidy) (j : ℕ) : s.takeSlot.2.slotAt j = s.slotAt j := by
  unfold takeSlot
  split
  · rfl
  · split
    · exact Table.getD_get?_grow _ _ h.written
    · rfl

lemma insert_fst {s : Slab} (h : s.Tidy) (e : Entry) :
    (s.insert e).1 = .pack s.takeSlot.1 (s.slotAt s.takeSlot.1.toNat).generation := by
  rw [← slotAt_takeSlot h]
  rfl

lemma slotAt_insert {s : Slab} (h : s.Tidy) (e : Entry) (j : ℕ) :
    (s.insert e).2.slotAt j =
      if s.takeSlot.1.toNat = j ∧ s.takeSlot.1.toNat < s.takeSlot.2.slots.size then
        ⟨(s.insert e).1.generation, some e⟩
      else s.slotAt j := by
  rw [← slotAt_takeSlot h j]
  have hg : (s.insert e).1.generation = (s.takeSlot.2.slotAt s.takeSlot.1.toNat).generation := by
    rw [insert_fst h, GuardId.generation_pack, slotAt_takeSlot h]
  rw [hg]
  exact Table.getD_get?_set _ _ _ _

lemma tidy_insert {s : Slab} (h : s.Tidy) (e : Entry) : (s.insert e).2.Tidy := by
  obtain ⟨hw, hs⟩ := tidy_takeSlot h
  refine ⟨?_, ?_⟩
  · simp only [insert, Table.size_set]
    exact Table.size_written_set _ _ _ hw
  · simp only [insert, Table.size_set]
    exact hs

/-- An entry found after an insertion is the new one or was there before. -/
lemma get?_insert_cases {s : Slab} (h : s.Tidy) {e x : Entry} {id : GuardId}
    (hx : (s.insert e).2.get? id = some x) :
    (id = (s.insert e).1 ∧ x = e) ∨ s.get? id = some x := by
  rw [get?_eq_some, slotAt_insert h] at hx
  split at hx
  · next hi =>
    refine .inl ⟨GuardId.eq_iff_slot_generation.mpr ⟨?_, ?_⟩, ?_⟩
    · rw [insert_fst h, GuardId.slot_pack, ← UInt32.toNat_inj, hi.1]
    · exact (congrArg Slot.generation hx).symm
    · exact (Option.some.inj (congrArg Slot.entry hx)).symm
  · exact .inr (get?_eq_some.mpr hx)

lemma remove_eq_self {s : Slab} {id : GuardId} (h : s.get? id = none) :
    s.remove id = (none, s) := by
  simp only [remove, h]

lemma remove_eq {s : Slab} {id : GuardId} {e : Entry} (h : s.get? id = some e) :
    s.remove id =
      (some e,
        { s with
          slots := s.slots.set id.slot.toNat ⟨id.generation + 1, none⟩
          free := id.slot :: s.free
          live := s.live - 1 }) := by
  simp only [remove, h]

lemma slot_lt_size {s : Slab} {id : GuardId} {e : Entry} (h : s.get? id = some e) :
    id.slot.toNat < s.slots.size := by
  by_contra hc
  rw [get?_eq_some, slotAt_of_size_le s (by omega)] at h
  exact absurd (congrArg Slot.entry h) (by simp [default, Inhabited.default])

lemma slotAt_remove {s : Slab} {id : GuardId} {e : Entry} (h : s.get? id = some e) (j : ℕ) :
    (s.remove id).2.slotAt j =
      if id.slot.toNat = j then ⟨id.generation + 1, none⟩ else s.slotAt j := by
  rw [remove_eq h]
  simp only [slotAt, Table.getD_get?_set, slot_lt_size h, and_true]

lemma tidy_remove {s : Slab} (h : s.Tidy) (id : GuardId) : (s.remove id).2.Tidy := by
  cases hx : s.get? id with
  | none => rwa [remove_eq_self hx]
  | some e =>
    rw [remove_eq hx]
    refine ⟨?_, ?_⟩
    · simp only [Table.size_set]
      exact Table.size_written_set _ _ _ h.written
    · simp only [Table.size_set]
      exact h.size

/-- A release takes out the entry it names and no other. -/
lemma get?_remove (s : Slab) (id id' : GuardId) :
    (s.remove id).2.get? id' = if id' = id then none else s.get? id' := by
  cases hx : s.get? id with
  | none =>
    rw [remove_eq_self hx]
    split
    · next heq => rw [heq, hx]
    · rfl
  | some e =>
    rw [get?_eq, slotAt_remove hx]
    by_cases hs : id.slot = id'.slot
    · -- the slot is empty now, and held no other identity before
      have he : ¬id' = id → s.get? id' = none := by
        intro hne
        rw [get?_eq, ← hs, get?_eq_some.mp hx, if_neg]
        exact fun hg => hne (GuardId.eq_iff_slot_generation.mpr ⟨hs.symm, hg.symm⟩)
      rw [hs, if_pos rfl]
      split_ifs with h1 h2 h2
      · rfl
      · exact (he h2).symm
      · rfl
      · exact (he h2).symm
    · have hne : ¬id' = id := fun heq => hs (heq ▸ rfl)
      have hn : ¬id.slot.toNat = id'.slot.toNat := fun heq => hs (UInt32.toNat_inj.mp heq)
      rw [if_neg hn, if_neg hne, get?_eq]

lemma mark_eq {s : Slab} {id : GuardId} {e : Entry} (h : s.get? id = some e) :
    s.mark id.slot.toNat =
      { s with
        slots :=
          s.slots.set id.slot.toNat ⟨id.generation, some { e with signaled := true }⟩ } := by
  have hlt := slot_lt_size h
  have hat : s.slots.get? id.slot.toNat = some ⟨id.generation, some e⟩ := by
    rw [get?_eq_some, slotAt, Table.get?, if_pos hlt, Option.getD_some] at h
    rw [Table.get?, if_pos hlt, h]
  simp only [mark, hat]

lemma slotAt_mark {s : Slab} {id : GuardId} {e : Entry} (h : s.get? id = some e) (j : ℕ) :
    (s.mark id.slot.toNat).slotAt j =
      if id.slot.toNat = j then ⟨id.generation, some { e with signaled := true }⟩
      else s.slotAt j := by
  rw [mark_eq h]
  simp only [slotAt, Table.getD_get?_set, slot_lt_size h, and_true]

lemma tidy_mark {s : Slab} {id : GuardId} {e : Entry} (h : s.Tidy) (he : s.get? id = some e) :
    (s.mark id.slot.toNat).Tidy := by
  rw [mark_eq he]
  refine ⟨?_, ?_⟩
  · simp only [Table.size_set]
    exact Table.size_written_set _ _ _ h.written
  · simp only [Table.size_set]
    exact h.size

/-- Marking the slot of an entry changes that entry and no other. -/
lemma get?_mark {s : Slab} {id : GuardId} {e : Entry} (h : s.get? id = some e) (id' : GuardId) :
    (s.mark id.slot.toNat).get? id' =
      if id' = id then some { e with signaled := true } else s.get? id' := by
  by_cases hid : id' = id
  · rw [if_pos hid, hid, get?_eq_some, slotAt_mark h, if_pos rfl]
  · rw [if_neg hid, get?_eq, slotAt_mark h, get?_eq]
    by_cases hs : id.slot.toNat = id'.slot.toNat
    · -- the slot has one generation, so it is not that of another identity
      have hg : ¬id.generation = id'.generation := fun hg =>
        hid (GuardId.eq_iff_slot_generation.mpr ⟨(UInt32.toNat_inj.mp hs).symm, hg.symm⟩)
      rw [if_pos hs, if_neg hg, ← hs, get?_eq_some.mp h, if_neg hg]
    · rw [if_neg hs]

/-- Every entry stays when a slot is marked, and stays marked if it was. -/
lemma exists_get?_mark {s : Slab} {id id' : GuardId} {e e' : Entry} (h : s.get? id = some e)
    (h' : s.get? id' = some e') :
    ∃ e'', (s.mark id.slot.toNat).get? id' = some e'' ∧ e''.thread = e'.thread ∧
      (e'.signaled = true → e''.signaled = true) := by
  rw [get?_mark h]
  split
  · next heq =>
    obtain rfl : e = e' := Option.some.inj (h.symm.trans (heq ▸ h'))
    exact ⟨_, rfl, rfl, fun _ => rfl⟩
  · exact ⟨e', h', rfl, fun hs => hs⟩

end Slab

end AsyncClose
