import AsyncClose.Proofs.Registry.Balance

/-!
Slots stay compact.

A slot is used for the first time only when all slots that were used before are occupied. So there
are never more slots in use than guards were live at once, and the table grows only when that many
do not fit into it.
-/

namespace AsyncClose

namespace Slab

variable {s : Slab}

/-- As many slots were handed out after an insertion as before, or as many as there are entries
now if these are more. -/
lemma fresh_insert (h : s.Valid) (room : s.live + 1 < 2 ^ 32) (e : Entry) :
    (s.insert e).2.fresh.toNat = max s.fresh.toNat (s.live + 1) := by
  have hfresh : (s.insert e).2.fresh = s.takeSlot.2.fresh := rfl
  have hadd := h.live_add
  rw [hfresh]
  rcases hf : s.free with _ | ⟨i, rest⟩
  · -- all slots handed out are occupied
    rw [hf, List.length_nil] at hadd
    have hnext : (s.fresh + 1).toNat = s.fresh.toNat + 1 := by
      rw [UInt32.toNat_add, UInt32.toNat_one, Nat.mod_eq_of_lt (by omega)]
    rw [takeSlot_nil hf, hnext]
    omega
  · rw [hf, List.length_cons] at hadd
    rw [takeSlot_cons hf]
    dsimp only
    omega

/-- The table has as many slots after an insertion as before, or as many as there are entries now
if these are more. -/
lemma size_insert (h : s.Valid) (e : Entry) :
    (s.insert e).2.slots.size = max s.slots.size (s.live + 1) := by
  have hsize : (s.insert e).2.slots.size = s.takeSlot.2.slots.size := Table.size_set _ _ _
  have hadd := h.live_add
  have hle := h.fresh_le
  rw [hsize]
  rcases hf : s.free with _ | ⟨i, rest⟩
  · rw [hf, List.length_nil] at hadd
    rw [takeSlot_nil hf]
    dsimp only
    split
    · rw [Table.size_grow]
      omega
    · omega
  · rw [hf, List.length_cons] at hadd
    rw [takeSlot_cons hf]
    dsimp only
    omega

/-- A new guard has one of the slots that were handed out. -/
lemma slot_insert_lt (h : s.Valid) (room : s.live + 1 < 2 ^ 32) (e : Entry) :
    (s.insert e).1.slot.toNat < (s.insert e).2.fresh.toNat := by
  have hget : (s.insert e).2.get? (s.insert e).1 = some e := by rw [get?_insert h, if_pos rfl]
  exact (valid_insert h room e).lt_fresh (congrArg Slot.entry (get?_eq_some.mp hget))

@[simp] lemma fresh_remove (s : Slab) (id : GuardId) : (s.remove id).2.fresh = s.fresh := by
  cases h : s.get? id with
  | none => rw [remove_eq_self h]
  | some e => rw [remove_eq h]

@[simp] lemma size_remove (s : Slab) (id : GuardId) :
    (s.remove id).2.slots.size = s.slots.size := by
  cases h : s.get? id with
  | none => rw [remove_eq_self h]
  | some e => rw [remove_eq h, Table.size_set]

/-- If there are as many entries as slots then every slot is occupied. -/
lemma Valid.occupied_of_size_le (h : s.Valid) (hsize : s.slots.size ≤ s.live) {i : ℕ}
    (hi : i < s.slots.size) : s.occupied i = true := by
  have hcount := h.live_eq_countP
  have hall : (List.range s.slots.size).countP s.occupied = (List.range s.slots.size).length := by
    have hle : (List.range s.slots.size).countP s.occupied ≤ _ := List.countP_le_length
    rw [List.length_range] at hle ⊢
    omega
  exact List.countP_eq_length.mp hall i (List.mem_range.mpr hi)

end Slab

namespace Ledger

variable {σ : Type}

/-- The number of guards that are live: they were given out and not taken back. -/
def alive (l : Ledger σ) : ℕ := l.issued.length - l.returned.length

/-- The slots in use are as many as the guards that were ever live at once, which were `n`, and the
table, which began with `base` slots, has no more than these need. -/
structure Compact (base n : ℕ) (l : Ledger σ) : Prop where
  valid : l.registry.slab.Valid
  live : l.registry.slab.live + l.returned.length = l.issued.length
  fresh : l.registry.slab.fresh.toNat = n
  size : l.registry.slab.slots.size = max base n
  slot_lt : ∀ id ∈ l.issued, id.slot.toNat < n

variable {l l' : Ledger σ} {base n n' : ℕ}

lemma Compact.live_eq (h : l.Compact base n) : l.registry.slab.live = l.alive := by
  have hlive := h.live
  rw [alive]
  omega

/-- What changes neither the slots handed out nor the guards given out, and makes no guard live. -/
lemma Compact.of_quiet (h : l.Compact base n) (hvalid : l'.registry.slab.Valid)
    (hlive : l'.registry.slab.live + l'.returned.length = l'.issued.length)
    (hle : l'.registry.slab.live ≤ l.registry.slab.live)
    (hfresh : l'.registry.slab.fresh = l.registry.slab.fresh)
    (hsize : l'.registry.slab.slots.size = l.registry.slab.slots.size)
    (hissued : l'.issued = l.issued) : l'.Compact base (max n l'.alive) := by
  have hroom : l.registry.slab.live ≤ n := by
    have hadd := h.valid.live_add
    have hn := h.fresh
    omega
  have hn : max n l'.alive = n := by
    rw [alive]
    omega
  rw [hn]
  exact ⟨hvalid, hlive, hfresh ▸ h.fresh, hsize.trans h.size, hissued ▸ h.slot_lt⟩

/-- A table that grows was full, and grows by one slot for the guard that comes. -/
lemma Compact.full_of_grown (h : l.Compact base n) (h' : l'.Compact base n')
    (hnext : n' = max n l'.alive) (hone : l'.alive ≤ l.alive + 1)
    (hgrown : l'.registry.slab.slots.size ≠ l.registry.slab.slots.size) :
    (∀ i < l.registry.slab.slots.size, l.registry.slab.occupied i = true) ∧
      l'.registry.slab.slots.size = l.registry.slab.slots.size + 1 := by
  have hlive := h.live_eq
  have hadd := h.valid.live_add
  have hn := h.fresh
  rw [h.size, h'.size] at hgrown ⊢
  have hfull : max base n ≤ l.registry.slab.live := by omega
  refine ⟨fun i hi => h.valid.occupied_of_size_le ?_ ?_, by omega⟩
  · rwa [h.size]
  · rwa [h.size]

variable [Mechanism σ]

/-- The most guards that were live at once while `as` was asked. -/
def peak (capacity : ℕ) (m : σ) (as : List Access) : ℕ :=
  (Finset.range (as.length + 1)).sup fun k => (ofAccesses capacity m (as.take k)).alive

variable (capacity : ℕ) (m : σ)

lemma isGreatest_peak (as : List Access) :
    IsGreatest {n | ∃ p, p <+: as ∧ (ofAccesses capacity m p).alive = n} (peak capacity m as) := by
  constructor
  · obtain ⟨k, -, hk⟩ := Finset.exists_mem_eq_sup (Finset.range (as.length + 1))
      ⟨0, Finset.mem_range.mpr (Nat.succ_pos _)⟩
      fun k => (ofAccesses capacity m (as.take k)).alive
    exact ⟨as.take k, List.take_prefix k as, hk.symm⟩
  · rintro n ⟨p, hp, rfl⟩
    have hlen : p.length ∈ Finset.range (as.length + 1) :=
      Finset.mem_range.mpr (Nat.lt_succ_of_le hp.length_le)
    rw [List.prefix_iff_eq_take.mp hp]
    exact Finset.le_sup (f := fun k => (ofAccesses capacity m (as.take k)).alive) hlen

lemma peak_nil : peak capacity m [] = 0 := rfl

/-- Only the guards that are live in the end can raise the peak. -/
lemma peak_snoc (as : List Access) (a : Access) :
    peak capacity m (as ++ [a]) =
      max (peak capacity m as) (ofAccesses capacity m (as ++ [a])).alive := by
  have hearlier : ∀ k ∈ Finset.range (as.length + 1),
      (ofAccesses capacity m ((as ++ [a]).take k)).alive =
        (ofAccesses capacity m (as.take k)).alive := by
    intro k hk
    rw [List.take_append_of_le_length (Nat.le_of_lt_succ (Finset.mem_range.mp hk))]
  have hlatest : (as ++ [a]).take (as.length + 1) = as ++ [a] :=
    List.take_of_length_le (by simp)
  rw [peak, peak, List.length_append, List.length_singleton, Finset.range_add_one,
    Finset.sup_insert, Finset.sup_congr rfl hearlier, hlatest, max_comm]

lemma Compact.register (h : l.Compact base n) (fd : Descriptor) (t : Thread)
    (room : (l.step (.register fd t)).registry.slab.live < 2 ^ 32) :
    (l.step (.register fd t)).Compact base (max n (l.step (.register fd t)).alive) := by
  have hlive := h.live
  rw [slab_step_register, Slab.live_insert] at room
  have hlivenext : (l.registry.slab.insert ⟨fd, t, false⟩).2.live + l.returned.length =
      (l.issued ++ [(l.registry.slab.insert ⟨fd, t, false⟩).1]).length := by
    rw [Slab.live_insert, List.length_append, List.length_singleton]
    omega
  have halive : (l.step (.register fd t)).alive = l.registry.slab.live + 1 := by
    change (l.issued ++ [(l.registry.slab.insert ⟨fd, t, false⟩).1]).length - l.returned.length = _
    rw [List.length_append, List.length_singleton]
    omega
  have hfresh := Slab.fresh_insert h.valid room ⟨fd, t, false⟩
  rw [h.fresh] at hfresh
  rw [halive]
  refine ⟨Slab.valid_insert h.valid room _, hlivenext, hfresh, ?_, ?_⟩
  · rw [slab_step_register, Slab.size_insert h.valid, h.size]
    omega
  · intro id hid
    rcases List.mem_append.mp hid with hid | hid
    · exact lt_max_of_lt_left (h.slot_lt id hid)
    · rw [List.mem_singleton.mp hid, ← hfresh]
      exact Slab.slot_insert_lt h.valid room _

lemma Compact.unregister (h : l.Compact base n) (id : GuardId) :
    (l.step (.unregister id)).Compact base (max n (l.step (.unregister id)).alive) := by
  have hlive := h.live
  have hvalid := Slab.valid_remove h.valid id
  cases he : l.registry.slab.get? id with
  | none =>
    have hsame := Slab.remove_eq_self he
    rw [step_unregister_of_none he]
    exact h.of_quiet hvalid (by rwa [Registry.slab_unregister, hsame])
      (by rw [Registry.slab_unregister, hsame]) (Slab.fresh_remove _ id) (Slab.size_remove _ id) rfl
  | some e =>
    have hpos := h.valid.live_pos he
    have hless : (l.registry.unregister id).2.slab.live = l.registry.slab.live - 1 := by
      rw [Registry.slab_unregister, Slab.live_remove he]
    rw [step_unregister_of_some he]
    refine h.of_quiet hvalid ?_ (by dsimp only; omega) (Slab.fresh_remove _ id)
      (Slab.size_remove _ id) rfl
    rw [List.length_append, List.length_singleton]
    dsimp only
    omega

lemma Compact.wake (h : l.Compact base n) (fd : Descriptor) :
    (l.step (.wake fd)).Compact base (max n (l.step (.wake fd)).alive) := by
  have hslab : (l.step (.wake fd)).registry.slab = l.registry.slab.onClose fd :=
    Registry.slab_wakeBlocked fd l.registry h.valid.tidy
  refine h.of_quiet ?_ ?_ ?_ ?_ ?_ rfl <;> rw [hslab]
  · exact Slab.valid_onClose h.valid fd
  · exact h.live
  · exact le_rfl
  · rfl
  · rfl

variable {as : List Access}

/-- Any number of requests keeps the slots compact. -/
lemma compact_ofAccesses (room : Roomy capacity m as) :
    (ofAccesses capacity m as).Compact (min (max capacity 1) Slab.maxSlots)
      (peak capacity m as) := by
  induction as using List.reverseRecOn with
  | nil =>
    refine ⟨Slab.valid_ofCapacity capacity, rfl, rfl, ?_, fun id hid => absurd hid List.not_mem_nil⟩
    rw [peak_nil, Nat.max_zero]
    rfl
  | append_singleton as a ih =>
    have h := ih (room.of_prefix (List.prefix_append as [a]))
    rw [peak_snoc, ofAccesses_snoc]
    cases a with
    | register fd t =>
      have hlast := (Registry.roomy_iff_live (valid_ofAccesses capacity m room)).mp
        (room _ List.prefix_rfl)
      rw [ofAccesses_snoc] at hlast
      exact h.register fd t hlast
    | unregister id => exact h.unregister id
    | wake fd => exact h.wake fd

/-- No request makes more than one guard live. -/
lemma alive_step_le (l : Ledger σ) (a : Access) : (l.step a).alive ≤ l.alive + 1 := by
  cases a with
  | register fd t =>
    change (l.issued ++ [_]).length - l.returned.length ≤ _
    rw [List.length_append, List.length_singleton, alive]
    omega
  | unregister id =>
    cases he : l.registry.slab.get? id with
    | none => rw [step_unregister_of_none he]; exact Nat.le_succ _
    | some e =>
      rw [step_unregister_of_some he, alive, alive, List.length_append]
      dsimp only
      omega
  | wake fd => exact Nat.le_succ _

/-- **Slots stay compact.** Whatever is asked of a registry, of any capacity and over any mechanism,
as long as fewer than `2 ^ 32` guards are live at once: the slots that were ever handed out are as
many as the guards that were ever live at the same time, so the slot of every guard that was given
out is below that number. The table has the slots that were set aside, or that many if these are
more: it grows only when every slot of it is occupied, and then by the slot it takes. -/
theorem slots_stay_compact (as : List Access) (room : Roomy capacity m as) :
    IsGreatest {n | ∃ p, p <+: as ∧ (ofAccesses capacity m p).alive = n} (peak capacity m as) ∧
      (∀ p, p <+: as →
        (ofAccesses capacity m p).registry.blocked.length = (ofAccesses capacity m p).alive) ∧
      (ofAccesses capacity m as).registry.slab.fresh.toNat = peak capacity m as ∧
      (∀ id ∈ (ofAccesses capacity m as).issued, id.slot.toNat < peak capacity m as) ∧
      (ofAccesses capacity m as).registry.slab.slots.size =
        max (min (max capacity 1) Slab.maxSlots) (peak capacity m as) ∧
      ∀ p a, p ++ [a] <+: as →
        (ofAccesses capacity m (p ++ [a])).registry.slab.slots.size ≠
            (ofAccesses capacity m p).registry.slab.slots.size →
          (∀ i < (ofAccesses capacity m p).registry.slab.slots.size,
              (ofAccesses capacity m p).registry.slab.occupied i = true) ∧
            (ofAccesses capacity m (p ++ [a])).registry.slab.slots.size =
              (ofAccesses capacity m p).registry.slab.slots.size + 1 := by
  have hcompact := compact_ofAccesses capacity m room
  refine ⟨isGreatest_peak capacity m as, fun p hp => ?_, hcompact.fresh, hcompact.slot_lt,
    hcompact.size, fun p a hp hgrown => ?_⟩
  · have h := compact_ofAccesses capacity m (room.of_prefix hp)
    rw [Registry.blocked, Slab.length_entries h.valid, h.live_eq]
  · have hp' : p <+: as := (List.prefix_append p [a]).trans hp
    have hbefore := compact_ofAccesses capacity m (room.of_prefix hp')
    have hafter := compact_ofAccesses capacity m (room.of_prefix hp)
    refine hbefore.full_of_grown hafter (peak_snoc capacity m p a) ?_ hgrown
    rw [ofAccesses_snoc]
    exact alive_step_le _ a

/-- Of two slots set aside one is used again before a third one is needed, and later guards have
room in the slots that others left. -/
def churn : List Access :=
  [.register (.raw 5) ⟨0⟩, .register (.raw 6) ⟨1⟩, .unregister (.pack 0 0),
    .register (.raw 5) ⟨0⟩, .register (.raw 7) ⟨2⟩, .wake (.raw 6), .unregister (.pack 1 0),
    .unregister (.pack 2 0), .register (.raw 8) ⟨1⟩, .unregister (.pack 0 0)]

lemma roomy_churn : Roomy 2 (WakeRecorder.mk [] (.ofOutcomes [])) churn := by
  decide +kernel

/-- Five guards were given out and three were live at once: three slots are enough, and the third
one came when the first two were occupied. -/
theorem slots_stay_compact_churn :
    (ofAccesses 2 (WakeRecorder.mk [] (.ofOutcomes [])) churn).issued.length = 5 ∧
      peak 2 (WakeRecorder.mk [] (.ofOutcomes [])) churn = 3 ∧
      (ofAccesses 2 (WakeRecorder.mk [] (.ofOutcomes [])) churn).registry.slab.fresh.toNat = 3 ∧
      (ofAccesses 2 (WakeRecorder.mk [] (.ofOutcomes [])) churn).registry.slab.slots.size = 3 ∧
      (∀ id ∈ (ofAccesses 2 (WakeRecorder.mk [] (.ofOutcomes [])) churn).issued,
        id.slot.toNat < 3) ∧
      ∀ i < 2, (ofAccesses 2 (WakeRecorder.mk [] (.ofOutcomes []))
        (churn.take 4)).registry.slab.occupied i = true := by
  have hpeak : peak 2 (WakeRecorder.mk [] (.ofOutcomes [])) churn = 3 := by decide +kernel
  obtain ⟨-, -, hfresh, hslot, hsize, hgrows⟩ :=
    slots_stay_compact 2 (WakeRecorder.mk [] (.ofOutcomes [])) churn roomy_churn
  obtain ⟨hfull, -⟩ := hgrows (churn.take 4) (.register (.raw 7) ⟨2⟩) (by decide)
    (by decide +kernel)
  rw [hpeak] at hfresh hslot hsize
  exact ⟨by decide +kernel, hpeak, hfresh, hsize, hslot, hfull⟩

end Ledger

end AsyncClose
