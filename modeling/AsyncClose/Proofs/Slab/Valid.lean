import AsyncClose.Proofs.Slab.Entries

/-!
The books of a slab balance.

The slots below `fresh` are those that were handed out. Each of them either holds an entry or
stands once on the stack of free slots; all others are as they were made. With fewer than
`2 ^ 32` guards live at once every operation keeps it so, and then an insertion always finds an
empty slot inside the table.
-/

namespace AsyncClose

namespace Slab

/-- Every slot is accounted for. -/
structure Valid (s : Slab) : Prop where
  tidy : s.Tidy
  fresh_le : s.fresh.toNat ≤ s.slots.size
  untouched : ∀ i, s.fresh.toNat ≤ i → s.slotAt i = default
  free_nodup : s.free.Nodup
  mem_free : ∀ i : UInt32, i ∈ s.free ↔ i < s.fresh ∧ (s.slotAt i.toNat).entry = none
  live_add : s.live + s.free.length = s.fresh.toNat

variable {s : Slab}

lemma valid_ofCapacity (capacity : ℕ) : (ofCapacity capacity).Valid where
  tidy := tidy_ofCapacity capacity
  fresh_le := Nat.zero_le _
  untouched i _ := slotAt_ofCapacity capacity i
  free_nodup := List.nodup_nil
  mem_free i := by simp [ofCapacity, UInt32.not_lt.mpr (UInt32.zero_le)]
  live_add := rfl

lemma Valid.lt_fresh (h : s.Valid) {i : ℕ} {e : Entry} (he : (s.slotAt i).entry = some e) :
    i < s.fresh.toNat := by
  by_contra hc
  rw [h.untouched i (by omega)] at he
  exact absurd he (by simp [default])

/-! ### Taking a slot -/

lemma takeSlot_cons {i : UInt32} {rest : List UInt32} (hf : s.free = i :: rest) :
    s.takeSlot = (i, { s with free := rest }) := by
  simp only [takeSlot, hf]

lemma takeSlot_nil (hf : s.free = []) :
    s.takeSlot =
      (s.fresh,
        { s with
          slots := if s.fresh.toNat = s.slots.size then s.slots.grow else s.slots
          fresh := s.fresh + 1 }) := by
  simp only [takeSlot, hf]

lemma size_takeSlot_nil (h : s.Valid) (hf : s.free = []) :
    s.fresh.toNat < s.takeSlot.2.slots.size := by
  have := h.fresh_le
  rw [takeSlot_nil hf]
  dsimp only
  split
  · rw [Table.size_grow]; omega
  · omega

/-- The slot that is taken is empty and inside the table. -/
lemma takeSlot_vacant (h : s.Valid) :
    (s.slotAt s.takeSlot.1.toNat).entry = none ∧
      s.takeSlot.1.toNat < s.takeSlot.2.slots.size := by
  have hle := h.fresh_le
  rcases hf : s.free with _ | ⟨i, rest⟩
  · refine ⟨?_, ?_⟩
    · rw [takeSlot_nil hf, h.untouched _ le_rfl]; rfl
    · have := size_takeSlot_nil h hf
      rwa [takeSlot_nil hf] at this ⊢
  · obtain ⟨hlt, hi⟩ := (h.mem_free i).mp (by simp [hf])
    rw [takeSlot_cons hf]
    rw [UInt32.lt_iff_toNat_lt] at hlt
    exact ⟨hi, by dsimp only; omega⟩

/-! ### Insertion -/

lemma slotAt_insert_of_valid (h : s.Valid) (e : Entry) (j : ℕ) :
    (s.insert e).2.slotAt j =
      if s.takeSlot.1.toNat = j then ⟨(s.insert e).1.generation, some e⟩ else s.slotAt j := by
  rw [slotAt_insert h.tidy]
  simp only [(takeSlot_vacant h).2, and_true]

lemma slot_insert (h : s.Valid) (e : Entry) : (s.insert e).1.slot = s.takeSlot.1 := by
  rw [insert_fst h.tidy, GuardId.slot_pack]

/-- The identity of a new guard stood for no guard. -/
lemma get?_insert_fst (h : s.Valid) (e : Entry) : s.get? (s.insert e).1 = none := by
  rw [get?_eq, slot_insert h, (takeSlot_vacant h).1]
  split <;> rfl

/-- An insertion adds the entry under its new identity and touches no other. -/
lemma get?_insert (h : s.Valid) (e : Entry) (id : GuardId) :
    (s.insert e).2.get? id = if id = (s.insert e).1 then some e else s.get? id := by
  by_cases hid : id = (s.insert e).1
  · rw [if_pos hid, get?_eq_some, slotAt_insert_of_valid h, hid, slot_insert h, if_pos rfl]
  · rw [if_neg hid, get?_eq, slotAt_insert_of_valid h]
    by_cases hs : s.takeSlot.1.toNat = id.slot.toNat
    · -- the slot held nothing, and holds another identity now
      have hg : ¬(s.insert e).1.generation = id.generation := fun hg =>
        hid (GuardId.eq_iff_slot_generation.mpr
          ⟨by rw [slot_insert h, ← UInt32.toNat_inj, hs], hg.symm⟩)
      rw [if_pos hs, if_neg hg, get?_eq, ← hs, (takeSlot_vacant h).1, ite_self]
    · rw [if_neg hs, get?_eq]

lemma valid_insert (h : s.Valid) (room : s.live + 1 < 2 ^ 32) (e : Entry) :
    (s.insert e).2.Valid := by
  have hslot := slotAt_insert_of_valid h e
  have hsize : (s.insert e).2.slots.size = s.takeSlot.2.slots.size := Table.size_set _ _ _
  have hfree : (s.insert e).2.free = s.takeSlot.2.free := rfl
  have hfresh : (s.insert e).2.fresh = s.takeSlot.2.fresh := rfl
  have hlive : (s.insert e).2.live = s.takeSlot.2.live + 1 := rfl
  have hle := h.fresh_le
  have hadd := h.live_add
  rcases hf : s.free with _ | ⟨i, rest⟩
  · -- all slots handed out are in use, and a further one is
    have hin := size_takeSlot_nil h hf
    rw [hf, List.length_nil] at hadd
    have hnext : (s.fresh + 1).toNat = s.fresh.toNat + 1 := by
      rw [UInt32.toNat_add, UInt32.toNat_one, Nat.mod_eq_of_lt (by omega)]
    rw [takeSlot_nil hf] at hslot hsize hfree hfresh hlive hin
    refine ⟨tidy_insert h.tidy e, ?_, ?_, ?_, ?_, ?_⟩
    · rw [hsize, hfresh, hnext]; exact hin
    · intro j hj
      rw [hfresh, hnext] at hj
      rw [hslot, if_neg (by dsimp only; omega), h.untouched j (by omega)]
    · rw [hfree, hf]; exact List.nodup_nil
    · intro j
      rw [hfree, hf, hfresh, hslot, UInt32.lt_iff_toNat_lt, hnext]
      constructor
      · intro hj; simp at hj
      · rintro ⟨hj, hv⟩
        by_cases heq : s.fresh.toNat = j.toNat
        · rw [if_pos heq] at hv; simp at hv
        · rw [if_neg heq] at hv
          rw [← hf]
          exact (h.mem_free j).mpr ⟨UInt32.lt_iff_toNat_lt.mpr (by omega), hv⟩
    · rw [hfree, hf, hlive, hfresh, hnext, List.length_nil]; dsimp only; omega
  · -- the slot on top of the stack is in use again
    obtain ⟨hi, hv⟩ := (h.mem_free i).mp (by simp [hf])
    have hnd := h.free_nodup
    rw [hf] at hnd hadd
    rw [List.nodup_cons] at hnd
    rw [takeSlot_cons hf] at hslot hsize hfree hfresh hlive
    rw [UInt32.lt_iff_toNat_lt] at hi
    refine ⟨tidy_insert h.tidy e, ?_, ?_, ?_, ?_, ?_⟩
    · rw [hsize, hfresh]; exact hle
    · intro j hj
      rw [hfresh] at hj
      rw [hslot, if_neg (by dsimp only at hj ⊢; omega), h.untouched j hj]
    · rw [hfree]; exact hnd.2
    · intro j
      rw [hfree, hfresh, hslot]
      have hm := h.mem_free j
      rw [hf, List.mem_cons] at hm
      by_cases heq : i = j
      · subst heq
        rw [if_pos rfl]
        simp [hnd.1]
      · rw [if_neg fun hc => heq (UInt32.toNat_inj.mp hc), ← hm]
        simp [Ne.symm heq]
    · rw [hfree, hlive, hfresh]
      rw [List.length_cons] at hadd
      dsimp only
      omega

/-- An insertion adds the new entry to the list and nothing else. -/
lemma entries_insert (h : s.Valid) (e : Entry) :
    (s.insert e).2.entries.Perm (((s.insert e).1, e) :: s.entries) := by
  have htidy := tidy_insert h.tidy e
  have hnew : ((s.insert e).1, e) ∉ s.entries := by
    rw [mem_entries h.tidy, get?_insert_fst h]
    simp
  refine (List.perm_ext_iff_of_nodup (nodup_entries htidy)
    (List.nodup_cons.mpr ⟨hnew, nodup_entries h.tidy⟩)).mpr ?_
  rintro ⟨id, x⟩
  rw [mem_entries htidy, get?_insert h, List.mem_cons, mem_entries h.tidy, Prod.mk.injEq]
  by_cases hid : id = (s.insert e).1
  · rw [if_pos hid, hid, get?_insert_fst h]
    simp [eq_comm]
  · simp [hid]

@[simp] lemma live_insert (e : Entry) : (s.insert e).2.live = s.live + 1 := by
  rcases hf : s.free with _ | ⟨i, rest⟩
  · simp [insert, takeSlot_nil hf]
  · simp [insert, takeSlot_cons hf]

/-! ### Release -/

/-- As long as a guard is live, not all slots handed out are free. -/
lemma Valid.length_free_lt (h : s.Valid) {id : GuardId} {e : Entry} (he : s.get? id = some e) :
    s.free.length < s.fresh.toNat := by
  have hslot := congrArg Slot.entry (get?_eq_some.mp he)
  have hnot : id.slot ∉ s.free := fun hc => by
    rw [((h.mem_free _).mp hc).2] at hslot
    simp at hslot
  have hnd : ((id.slot :: s.free).map UInt32.toNat).Nodup :=
    (List.nodup_cons.mpr ⟨hnot, h.free_nodup⟩).map fun _ _ => UInt32.toNat_inj.mp
  have hsub : (id.slot :: s.free).map UInt32.toNat ⊆ List.range s.fresh.toNat := by
    intro n hn
    obtain ⟨i, hi, rfl⟩ := List.mem_map.mp hn
    rw [List.mem_range]
    rcases List.mem_cons.mp hi with rfl | hi
    · exact h.lt_fresh hslot
    · exact UInt32.lt_iff_toNat_lt.mp ((h.mem_free i).mp hi).1
  have hlen := (List.subperm_of_subset hnd hsub).length_le
  simpa using hlen

lemma Valid.live_pos (h : s.Valid) {id : GuardId} {e : Entry} (he : s.get? id = some e) :
    0 < s.live := by
  have := h.length_free_lt he
  have := h.live_add
  omega

lemma valid_remove (h : s.Valid) (id : GuardId) : (s.remove id).2.Valid := by
  cases hx : s.get? id with
  | none => rwa [remove_eq_self hx]
  | some e =>
    have hslot := slotAt_remove hx
    have hpos := h.live_pos hx
    have hadd := h.live_add
    have hentry := congrArg Slot.entry (get?_eq_some.mp hx)
    have hlt := h.lt_fresh hentry
    have htidy := tidy_remove h.tidy id
    rw [remove_eq hx] at hslot htidy ⊢
    refine ⟨htidy, ?_, ?_, ?_, ?_, ?_⟩
    · simpa using h.fresh_le
    · intro j hj
      rw [hslot, if_neg (by dsimp only at hj; omega), h.untouched j hj]
    · refine List.nodup_cons.mpr ⟨fun hc => ?_, h.free_nodup⟩
      rw [((h.mem_free _).mp hc).2] at hentry
      simp at hentry
    · intro j
      rw [hslot, List.mem_cons, h.mem_free]
      by_cases heq : id.slot = j
      · subst heq
        simp [UInt32.lt_iff_toNat_lt, hlt]
      · rw [if_neg fun hc => heq (UInt32.toNat_inj.mp hc)]
        simp [Ne.symm heq]
    · simp only [List.length_cons]
      omega

lemma live_remove {id : GuardId} {e : Entry} (he : s.get? id = some e) :
    (s.remove id).2.live = s.live - 1 := by
  rw [remove_eq he]

/-! ### Marking and closing -/

lemma valid_mark (h : s.Valid) {id : GuardId} {e : Entry} (he : s.get? id = some e) :
    (s.mark id.slot.toNat).Valid := by
  have hslot := slotAt_mark he
  have hentry := congrArg Slot.entry (get?_eq_some.mp he)
  have hlt := h.lt_fresh hentry
  have htidy := tidy_mark h.tidy he
  rw [mark_eq he] at hslot htidy ⊢
  refine ⟨htidy, ?_, ?_, h.free_nodup, ?_, h.live_add⟩
  · simpa using h.fresh_le
  · intro j hj
    rw [hslot, if_neg (by dsimp only at hj; omega), h.untouched j hj]
  · intro j
    rw [hslot, h.mem_free]
    by_cases heq : id.slot.toNat = j.toNat
    · rw [if_pos heq, ← heq, hentry]
      simp
    · rw [if_neg heq]

lemma valid_onClose (h : s.Valid) (fd : Descriptor) : (s.onClose fd).Valid where
  tidy := tidy_onClose fd h.tidy
  fresh_le := h.fresh_le
  untouched i hi := by rw [slotAt_onClose, h.untouched i hi, Slot.onClose_default]
  free_nodup := h.free_nodup
  mem_free i := by
    rw [slotAt_onClose]
    simpa [Slot.onClose, onClose] using h.mem_free i
  live_add := h.live_add

/-! ### The live counter -/

lemma countP_range_eq {p : ℕ → Bool} {m n : ℕ} (hmn : m ≤ n) (hp : ∀ i, m ≤ i → p i = false) :
    (List.range n).countP p = (List.range m).countP p := by
  induction n, hmn using Nat.le_induction with
  | base => rfl
  | succ n hn ih => simp [List.range_succ, List.countP_append, ih, hp n hn]

lemma length_filterMap_eq_countP {α β : Type} (f : α → Option β) (l : List α) :
    (l.filterMap f).length = l.countP fun a => (f a).isSome := by
  induction l with
  | nil => rfl
  | cons a l ih => cases h : f a <;> simp [h, ih]

/-- Putting `y` in the place of `x` takes `x` out of the count and `y` in. -/
lemma countP_set_add {α : Type} (p : α → Bool) {l : List α} {n : ℕ} {x : α} (hx : l[n]? = some x)
    (y : α) :
    (l.set n y).countP p + (if p x then 1 else 0) = l.countP p + if p y then 1 else 0 := by
  obtain ⟨hn, rfl⟩ := List.getElem?_eq_some_iff.mp hx
  have hset := List.countP_set (p := p) (a := y) hn
  have hpos : (if p l[n] then 1 else 0) ≤ l.countP p := by
    split
    · next hp => exact List.countP_pos_iff.mpr ⟨_, List.getElem_mem hn, hp⟩
    · exact Nat.zero_le _
  omega

def occupied (s : Slab) (i : ℕ) : Bool := (s.slotAt i).entry.isSome

lemma Valid.occupied_eq_false (h : s.Valid) {i : ℕ} (hi : s.fresh.toNat ≤ i) :
    s.occupied i = false := by
  rw [occupied, h.untouched i hi]; rfl

lemma length_entries_eq_countP (h : s.Valid) :
    s.entries.length = (List.range s.fresh.toNat).countP s.occupied := by
  have hsome : (fun i => (s.entryAt? i).isSome) = s.occupied := by
    funext i
    rw [entryAt?_eq, Option.isSome_map, occupied]
  rw [entries, indices, length_filterMap_eq_countP, hsome]
  -- a slot with an entry was both handed out and written
  have hw : ∀ i, s.slots.written.size ≤ i → s.occupied i = false := by
    intro i hi
    rw [occupied, slotAt_eq_getD s h.tidy, Array.getD, dif_neg (by omega)]; rfl
  rcases le_total s.slots.written.size s.fresh.toNat with hle | hle
  · rw [countP_range_eq hle hw]
  · rw [countP_range_eq hle fun i hi => h.occupied_eq_false hi]

lemma length_free_eq_countP (h : s.Valid) :
    s.free.length = (List.range s.fresh.toNat).countP fun i => !s.occupied i := by
  have hnd : (s.free.map UInt32.toNat).Nodup :=
    h.free_nodup.map fun _ _ => UInt32.toNat_inj.mp
  have hf := s.fresh.toNat_lt
  have hp : (s.free.map UInt32.toNat).Perm
      ((List.range s.fresh.toNat).filter fun i => !s.occupied i) := by
    refine (List.perm_ext_iff_of_nodup hnd (List.nodup_range.filter _)).mpr fun n => ?_
    simp only [List.mem_map, List.mem_filter, List.mem_range, h.mem_free, UInt32.lt_iff_toNat_lt,
      occupied, Bool.not_eq_true', Option.isSome_eq_false_iff, Option.isNone_iff_eq_none]
    constructor
    · rintro ⟨i, hi, rfl⟩
      exact hi
    · rintro ⟨hn, hv⟩
      have hto : (UInt32.ofNat n).toNat = n := by
        rw [UInt32.toNat_ofNat', Nat.mod_eq_of_lt (by omega)]
      exact ⟨.ofNat n, by rw [hto]; exact ⟨hn, hv⟩, hto⟩
  rw [List.countP_eq_length_filter, ← hp.length_eq, List.length_map]

/-- The live counter counts the entries. -/
theorem length_entries (h : s.Valid) : s.entries.length = s.live := by
  have hsplit := List.length_eq_countP_add_countP s.occupied (l := List.range s.fresh.toNat)
  have hadd := h.live_add
  rw [List.length_range] at hsplit
  rw [length_free_eq_countP h] at hadd
  rw [length_entries_eq_countP h]
  simp only [Bool.not_eq_true] at hsplit
  have hneg : (List.range s.fresh.toNat).countP (fun i => decide (s.occupied i = false)) =
      (List.range s.fresh.toNat).countP fun i => !s.occupied i := by
    congr 1; funext i; cases s.occupied i <;> rfl
  omega

end Slab

end AsyncClose
