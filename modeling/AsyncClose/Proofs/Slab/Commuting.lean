import AsyncClose.Proofs.Slab.Valid

/-!
Closing a descriptor among other things done to a slab.

A close looks at every entry on its own and leaves no trace but marks. So it does not matter in
which order descriptors are closed, nor how often, nor whether a guard goes out before or after. A
guard that comes in is found by the closes that come later, which matters only to a close of its
own descriptor.
-/

namespace AsyncClose

namespace Table

variable {α : Type}

def map (f : α → α) (t : Table α) : Table α := ⟨t.size, t.written.map f⟩

lemma map_map (f g : α → α) (t : Table α) : (t.map f).map g = t.map (g ∘ f) := by
  simp only [map, Array.map_map]

variable [Inhabited α] {f : α → α}

lemma fill_map (hf : f default = default) (xs : Array α) (n : ℕ) :
    fill (xs.map f) n = (fill xs n).map f := by
  rw [fill, fill, Array.map_append, Array.map_replicate, hf, Array.size_map]

/-- A cell can be changed before it is written or after. -/
lemma set_map (hf : f default = default) (t : Table α) (i : ℕ) (x : α) :
    (t.map f).set i (f x) = (t.set i x).map f := by
  unfold set map
  dsimp only
  split
  · rw [fill_map hf, Array.map_setIfInBounds]
  · rfl

end Table

lemma Entry.onClose_eq (a : Descriptor) (e : Entry) :
    e.onClose a = ⟨e.fd, e.thread, e.signaled || decide (e.fd = a)⟩ := by
  rw [← signaled_onClose, ← thread_onClose a e, ← fd_onClose a e]

lemma Entry.onClose_comm (a b : Descriptor) (e : Entry) :
    (e.onClose a).onClose b = (e.onClose b).onClose a := by
  simp only [onClose_eq, Bool.or_right_comm]

@[simp] lemma Entry.onClose_onClose (a : Descriptor) (e : Entry) :
    (e.onClose a).onClose a = e.onClose a := by
  simp only [onClose_eq, Bool.or_assoc, Bool.or_self]

lemma Slot.onClose_comm (a b : Descriptor) (x : Slot) :
    (x.onClose a).onClose b = (x.onClose b).onClose a := by
  have hentry : Entry.onClose b ∘ Entry.onClose a = Entry.onClose a ∘ Entry.onClose b :=
    funext (Entry.onClose_comm a b)
  simp only [onClose, Option.map_map, hentry]

@[simp] lemma Slot.onClose_onClose (a : Descriptor) (x : Slot) :
    (x.onClose a).onClose a = x.onClose a := by
  have hentry : Entry.onClose a ∘ Entry.onClose a = Entry.onClose a :=
    funext (Entry.onClose_onClose a)
  simp only [onClose, Option.map_map, hentry]

namespace Slab

variable (s : Slab) (a b : Descriptor)

lemma slots_onClose : (s.onClose a).slots = s.slots.map (Slot.onClose a) := rfl

/-! ### Closes -/

lemma onClose_comm : (s.onClose a).onClose b = (s.onClose b).onClose a := by
  have hslot : Slot.onClose b ∘ Slot.onClose a = Slot.onClose a ∘ Slot.onClose b :=
    funext (Slot.onClose_comm a b)
  have hslots : ((s.onClose a).onClose b).slots = ((s.onClose b).onClose a).slots := by
    simp only [slots_onClose, Table.map_map, hslot]
  exact congrArg (fun t => { s with slots := t }) hslots

@[simp] lemma onClose_onClose : (s.onClose a).onClose a = s.onClose a := by
  have hslot : Slot.onClose a ∘ Slot.onClose a = Slot.onClose a :=
    funext (Slot.onClose_onClose a)
  have hslots : ((s.onClose a).onClose a).slots = (s.onClose a).slots := by
    simp only [slots_onClose, Table.map_map, hslot]
  exact congrArg (fun t => { s with slots := t }) hslots

/-! ### A guard comes in -/

lemma takeSlot_onClose : (s.onClose a).takeSlot = (s.takeSlot.1, s.takeSlot.2.onClose a) := by
  cases hf : s.free with
  | nil =>
    rw [takeSlot_nil hf, takeSlot_nil (show (s.onClose a).free = [] from hf)]
    by_cases hfull : s.fresh.toNat = s.slots.size <;> simp [onClose, hfull, Table.grow]
  | cons i rest =>
    rw [takeSlot_cons hf, takeSlot_cons (show (s.onClose a).free = i :: rest from hf)]
    rfl

/-- A guard on another descriptor gets the same slot, with the same generation. -/
lemma insert_onClose {e : Entry} (h : e.fd ≠ a) :
    (s.onClose a).insert e = ((s.insert e).1, (s.insert e).2.onClose a) := by
  have hgeneration : ((s.takeSlot.2.onClose a).slotAt s.takeSlot.1.toNat).generation =
      (s.takeSlot.2.slotAt s.takeSlot.1.toNat).generation := by
    rw [slotAt_onClose]
    rfl
  have hset (i : ℕ) (g : UInt32) : (s.takeSlot.2.onClose a).slots.set i ⟨g, some e⟩ =
      (s.takeSlot.2.slots.set i ⟨g, some e⟩).map (Slot.onClose a) := by
    have hsame : (⟨g, some e⟩ : Slot).onClose a = ⟨g, some e⟩ := by
      rw [Slot.onClose, Option.map_some, Entry.onClose, if_neg h]
    rw [slots_onClose, ← Table.set_map (Slot.onClose_default a), hsame]
  unfold slotAt at hgeneration
  unfold insert
  rw [takeSlot_onClose]
  dsimp only
  rw [hgeneration, hset]
  rfl

/-! ### A guard goes out -/

/-- The same guards can be released, and their slots are left behind alike. -/
lemma remove_onClose (id : GuardId) :
    ((s.onClose a).remove id).1.isSome = (s.remove id).1.isSome ∧
      ((s.onClose a).remove id).2 = (s.remove id).2.onClose a := by
  have hget := get?_onClose a s id
  cases hx : s.get? id with
  | none =>
    rw [hx, Option.map_none] at hget
    rw [remove_eq_self hget, remove_eq_self hx]
    exact ⟨rfl, rfl⟩
  | some e =>
    rw [hx, Option.map_some] at hget
    rw [remove_eq hget, remove_eq hx]
    have hempty : (⟨id.generation + 1, none⟩ : Slot).onClose a = ⟨id.generation + 1, none⟩ := rfl
    have hset := Table.set_map (Slot.onClose_default a) s.slots id.slot.toNat
      ⟨id.generation + 1, none⟩
    rw [hempty] at hset
    refine ⟨rfl, ?_⟩
    dsimp only
    rw [slots_onClose, hset]
    rfl

end Slab

end AsyncClose
