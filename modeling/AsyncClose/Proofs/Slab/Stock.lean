import AsyncClose.Proofs.Slab.Valid

/-!
Free slots and unused slots as one stack.

The slots that come next stand in one endless line: the released ones, the last one first, and
behind them those that were never used. An insertion takes the slot in front, whether it was used
before, is in the table already or makes the table grow, and a release puts its slot in front.

An insertion writes to the slot it takes and counts it, a release counts down and hands a slot
back, and neither checks that it may. As long as the books of the slab balance it always may.
-/

namespace AsyncClose

namespace Slab

variable {s : Slab}

/-- The slots in the order in which they are going to be taken. -/
def stock (s : Slab) : Stream' UInt32 := s.free ++ₛ Stream'.iterate (· + 1) s.fresh

lemma stock_takeSlot (s : Slab) : s.stock = .cons s.takeSlot.1 s.takeSlot.2.stock := by
  rcases hf : s.free with _ | ⟨i, rest⟩
  · rw [takeSlot_nil hf, stock, stock, hf, Stream'.nil_append_stream, Stream'.nil_append_stream,
      ← Stream'.iterate_eq]
  · rw [takeSlot_cons hf, stock, stock, hf, Stream'.cons_append_stream]

/-- An insertion takes the slot in front. -/
lemma stock_insert (h : s.Tidy) (e : Entry) :
    s.stock = .cons (s.insert e).1.slot (s.insert e).2.stock := by
  rw [stock_takeSlot, insert_fst h, GuardId.slot_pack]
  rfl

lemma insert_fst_eq (h : s.Tidy) (e : Entry) :
    (s.insert e).1 = .pack s.stock.head (s.slotAt s.stock.head.toNat).generation := by
  rw [stock_takeSlot, Stream'.head_cons, insert_fst h]

/-- A release puts its slot in front. -/
lemma stock_remove {id : GuardId} {e : Entry} (h : s.get? id = some e) :
    (s.remove id).2.stock = .cons id.slot s.stock := by
  rw [remove_eq h, stock, stock, Stream'.cons_append_stream]

lemma generation_remove {id : GuardId} {e : Entry} (h : s.get? id = some e) (j : ℕ) :
    ((s.remove id).2.slotAt j).generation =
      (s.slotAt j).generation + if id.slot.toNat = j then 1 else 0 := by
  rw [slotAt_remove h]
  split
  · next hj => rw [← hj, get?_eq_some.mp h]
  · rw [UInt32.add_zero]

@[simp] lemma stock_onClose (fd : Descriptor) (s : Slab) : (s.onClose fd).stock = s.stock := rfl

end Slab

/-! ### Coming back to the same slots -/

/-- The entry once these descriptors were closed, one after the other. -/
def Entry.onCloses (fds : List Descriptor) (e : Entry) : Entry :=
  fds.foldl (fun e fd => e.onClose fd) e

lemma Entry.onCloses_append (fds fds' : List Descriptor) (e : Entry) :
    e.onCloses (fds ++ fds') = (e.onCloses fds).onCloses fds' := List.foldl_append

lemma Entry.onCloses_eq_self {fds : List Descriptor} {e : Entry} (h : e.fd ∉ fds) :
    e.onCloses fds = e := by
  induction fds with
  | nil => rfl
  | cons fd fds ih =>
    rw [List.mem_cons, not_or] at h
    have hone : e.onClose fd = e := by rw [Entry.onClose, if_neg h.1]
    rw [onCloses, List.foldl_cons, hone]
    exact ih h.2

namespace Slab

variable {s s' s'' : Slab} {fds fds' : List Descriptor}

/-- The same guards are live as before and the same slots come next, in the same order. Only marks
were set, on these descriptors. -/
structure Restored (fds : List Descriptor) (s s' : Slab) : Prop where
  valid : s'.Valid
  stock : s'.stock = s.stock
  live : s'.live = s.live
  get? : ∀ id, s'.get? id = (s.get? id).map (·.onCloses fds)

lemma restored_refl (h : s.Valid) : Restored [] s s :=
  ⟨h, rfl, rfl, fun id => by cases s.get? id <;> rfl⟩

lemma restored_onClose (h : s.Valid) (fd : Descriptor) : Restored [fd] s (s.onClose fd) :=
  ⟨valid_onClose h fd, rfl, rfl, get?_onClose fd s⟩

lemma Restored.trans (h : Restored fds s s') (h' : Restored fds' s' s'') :
    Restored (fds ++ fds') s s'' where
  valid := h'.valid
  stock := h'.stock.trans h.stock
  live := h'.live.trans h.live
  get? id := by
    rw [h'.get?, h.get?, Option.map_map]
    congr 1
    funext e
    exact (Entry.onCloses_append fds fds' e).symm

/-- The entry of a guard that comes and goes meanwhile. -/
lemma Restored.get?_insert_fst {e : Entry} (h : s.Valid) (hs : Restored fds (s.insert e).2 s') :
    s'.get? (s.insert e).1 = some (e.onCloses fds) := by
  rw [hs.get?, get?_insert h, if_pos rfl, Option.map_some]

/-- A guard comes, the slots are restored, and the guard goes. -/
lemma Restored.bracket {e : Entry} (h : s.Valid) (hs : Restored fds (s.insert e).2 s') :
    Restored fds s (s'.remove (s.insert e).1).2 := by
  have hlive := hs.get?_insert_fst h
  refine ⟨valid_remove hs.valid _, ?_, ?_, fun id => ?_⟩
  · rw [stock_remove hlive, hs.stock, ← stock_insert h.tidy]
  · rw [live_remove hlive, hs.live, live_insert, Nat.add_sub_cancel]
  · rw [get?_remove, hs.get?, get?_insert h]
    split
    · next hid => rw [hid, Slab.get?_insert_fst h, Option.map_none]
    · rfl

/-- Slabs with the same live guards list them alike. -/
lemma entries_congr (h : s.Tidy) (h' : s'.Tidy) (hget : ∀ id, s'.get? id = s.get? id) :
    s'.entries = s.entries := by
  have hperm : s'.entries.Perm s.entries := by
    refine (List.perm_ext_iff_of_nodup (nodup_entries h') (nodup_entries h)).mpr ?_
    rintro ⟨id, e⟩
    rw [mem_entries h', mem_entries h, hget]
  refine hperm.eq_of_pairwise (fun x y _ _ hxy hyx => ?_) (pairwise_entries h') (pairwise_entries h)
  exact absurd (UInt32.lt_trans hxy hyx) (UInt32.lt_irrefl _)

lemma Restored.entries (h : Restored fds s s') (hs : s.Tidy)
    (hfds : ∀ x ∈ s.entries, x.2.fd ∉ fds) : s'.entries = s.entries := by
  refine entries_congr hs h.valid.tidy fun id => ?_
  rw [h.get?]
  cases he : s.get? id with
  | none => rfl
  | some e => rw [Option.map_some, Entry.onCloses_eq_self (hfds _ ((mem_entries hs).mpr he))]

/-! ### What insertions and releases rely on without looking -/

/-- An insertion may go ahead: the slot it takes is in the table and empty, a slot that is used
for the first time can be counted, and there are no more free slots than slots. -/
structure InsertSafe (s : Slab) : Prop where
  inside : s.takeSlot.1.toNat < s.takeSlot.2.slots.size
  vacant : (s.takeSlot.2.slotAt s.takeSlot.1.toNat).entry = none
  counts : s.free = [] → s.fresh.toNat + 1 < 2 ^ 32
  reserves : s.free.length ≤ s.slots.size

/-- A release may go ahead: there is an entry to be counted less, and room for one more free
slot. -/
structure ReleaseSafe (s : Slab) : Prop where
  live_pos : 0 < s.live
  free_lt : s.free.length < s.slots.size

lemma Valid.insertSafe (h : s.Valid) (room : s.live + 1 < 2 ^ 32) : s.InsertSafe := by
  have hle := h.fresh_le
  have hadd := h.live_add
  obtain ⟨hvacant, hinside⟩ := takeSlot_vacant h
  refine ⟨hinside, by rw [slotAt_takeSlot h.tidy, hvacant], fun hf => ?_, by omega⟩
  rw [hf, List.length_nil] at hadd
  omega

lemma Valid.releaseSafe (h : s.Valid) {id : GuardId} {e : Entry} (he : s.get? id = some e) :
    s.ReleaseSafe :=
  ⟨h.live_pos he, lt_of_lt_of_le (h.length_free_lt he) h.fresh_le⟩

/-- The live counter counts the occupied slots of the table. -/
lemma Valid.live_eq_countP (h : s.Valid) :
    s.live = (List.range s.slots.size).countP s.occupied := by
  rw [← length_entries h, length_entries_eq_countP h]
  exact (countP_range_eq h.fresh_le fun _ => h.occupied_eq_false).symm

end Slab

end AsyncClose
