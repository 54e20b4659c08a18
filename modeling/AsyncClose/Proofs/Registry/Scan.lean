import AsyncClose.Proofs.Slab.Valid
import AsyncClose.Registry.Basic

/-!
What a scan does, in closed form.

Closing a descriptor marks every entry blocked on it, and alerts the thread of each such entry,
in slot order. Alerting never looks at the slab and marking never looks at the mechanism, so the
scan, which does both slot by slot, comes to the same as marking all and then alerting all.
-/

namespace AsyncClose

namespace Slab

/-- The slab in the middle of a scan: entries in the slots below `k` are marked. -/
def sweep (fd : Descriptor) (k : ℕ) (s : Slab) : Slab :=
  { s with
    slots := ⟨s.slots.size, s.slots.written.mapIdx fun i x => if i < k then x.onClose fd else x⟩ }

variable {s : Slab} (fd : Descriptor)

lemma sweep_zero : s.sweep fd 0 = s := by
  have hw : (s.slots.written.mapIdx fun i x => if i < 0 then x.onClose fd else x) =
      s.slots.written := by
    ext1 <;> simp
  rw [sweep, hw]

lemma sweep_size : s.sweep fd s.slots.written.size = s.onClose fd := by
  have hw : (s.slots.written.mapIdx fun i x =>
      if i < s.slots.written.size then x.onClose fd else x) =
        s.slots.written.map (·.onClose fd) := by
    ext1
    · simp
    · next i h1 h2 =>
      have hi : i < s.slots.written.size := by simpa using h2
      simp [hi]
  rw [sweep, hw, onClose]

lemma slotAt_sweep (k i : ℕ) :
    (s.sweep fd k).slotAt i = if i < k then (s.slotAt i).onClose fd else s.slotAt i := by
  simp only [slotAt, sweep, Table.get?, Array.getD_eq_getD_getElem?, Array.getElem?_mapIdx]
  by_cases hi : i < s.slots.size
  · cases s.slots.written[i]? <;> by_cases hk : i < k <;> simp [hi, hk]
  · simp [hi]

lemma entryAt?_sweep (k : ℕ) : (s.sweep fd k).entryAt? k = s.entryAt? k := by
  rw [entryAt?_eq, entryAt?_eq, slotAt_sweep, if_neg (lt_irrefl k)]

lemma sweep_succ_of_ne {k : ℕ} (h : s.Tidy) (hne : (s.slotAt k).onClose fd = s.slotAt k) :
    s.sweep fd (k + 1) = s.sweep fd k := by
  have hw : (s.slots.written.mapIdx fun i x => if i < k + 1 then x.onClose fd else x) =
      s.slots.written.mapIdx fun i x => if i < k then x.onClose fd else x := by
    ext1
    · simp
    · next i h1 h2 =>
      have hi : i < s.slots.written.size := by simpa using h2
      rw [Array.getElem_mapIdx, Array.getElem_mapIdx]
      rcases lt_trichotomy i k with hk | rfl | hk
      · rw [if_pos hk, if_pos (by omega)]
      · rw [slotAt_eq_getD s h, Array.getD, dif_pos hi] at hne
        rw [if_pos (by omega), if_neg (by omega)]
        exact hne
      · rw [if_neg (by omega), if_neg (by omega)]
  rw [sweep, hw, sweep]

/-- Marking the entry of the next slot continues the scan. -/
lemma mark_sweep {k : ℕ} {g : UInt32} {e : Entry} (h : s.Tidy) (hk : s.slotAt k = ⟨g, some e⟩)
    (he : e.fd = fd) : (s.sweep fd k).mark k = s.sweep fd (k + 1) := by
  have hw : k < s.slots.written.size := lt_written_of_entry h (congrArg Slot.entry hk)
  have hs : k < s.slots.size := lt_of_lt_of_le hw h.written
  have hget : (s.sweep fd k).slots.get? k = some ⟨g, some e⟩ := by
    have hat : (s.sweep fd k).slotAt k = ⟨g, some e⟩ := by
      rw [slotAt_sweep, if_neg (lt_irrefl k), hk]
    rw [slotAt, Table.get?, if_pos (show k < (s.sweep fd k).slots.size from hs),
      Option.getD_some] at hat
    rw [Table.get?, if_pos (show k < (s.sweep fd k).slots.size from hs), hat]
  have hset : (s.sweep fd k).slots.set k ⟨g, some { e with signaled := true }⟩ =
      (s.sweep fd (k + 1)).slots := by
    rw [Table.set, if_pos (show k < (s.sweep fd k).slots.size from hs), Table.fill,
      Nat.sub_eq_zero_of_le (by simpa [sweep] using hw)]
    simp only [sweep, Table.mk.injEq, true_and, Array.replicate_zero, Array.append_empty]
    ext1
    · simp
    · next i h1 h2 =>
      rw [slotAt_eq_getD s h, Array.getD, dif_pos hw] at hk
      rw [Array.getElem_setIfInBounds (by simpa using h2), Array.getElem_mapIdx,
        Array.getElem_mapIdx]
      rcases lt_trichotomy i k with hik | rfl | hik
      · rw [if_neg hik.ne', if_pos hik, if_pos (by omega)]
      · rw [if_pos rfl, if_pos (by omega)]
        simp only [Array.getInternal_eq_getElem] at hk
        simp [hk, Slot.onClose, Entry.onClose, he]
      · rw [if_neg hik.ne, if_neg (by omega), if_neg (by omega)]
  rw [mark, hget]
  dsimp only
  rw [hset]
  rfl

end Slab

namespace Registry

variable {σ : Type}

def withSlab (r : Registry σ) (s : Slab) : Registry σ := { r with slab := s }

@[simp] lemma slab_withSlab (r : Registry σ) (s : Slab) : (r.withSlab s).slab = s := rfl

@[simp] lemma mechanism_withSlab (r : Registry σ) (s : Slab) :
    (r.withSlab s).mechanism = r.mechanism := rfl

@[simp] lemma withSlab_withSlab (r : Registry σ) (s t : Slab) :
    (r.withSlab s).withSlab t = r.withSlab t := rfl

@[simp] lemma withSlab_slab (r : Registry σ) : r.withSlab r.slab = r := rfl

/-- The live guards on a descriptor, in slot order: those that a scan for it finds. -/
def targets (fd : Descriptor) (r : Registry σ) : List (GuardId × Entry) :=
  r.blocked.filter fun x => x.2.fd = fd

lemma mem_targets {fd : Descriptor} {r : Registry σ} (h : r.slab.Tidy) {id : GuardId} {e : Entry} :
    (id, e) ∈ r.targets fd ↔ r.slab.get? id = some e ∧ e.fd = fd := by
  simp [targets, blocked, Slab.mem_entries h]

variable [Mechanism σ]

def alert (fd : Descriptor) (r : Registry σ) (x : GuardId × Entry) : Registry σ :=
  match (r.note [.waking fd x.1 x.2.thread]).interrupt x.2.thread fd with
  | (.ok (), r) => r
  | (.error e, r) => r.note [.wakeFailed fd x.2.thread e]

lemma mechanism_alert (fd : Descriptor) (r : Registry σ) (x : GuardId × Entry) :
    (r.alert fd x).mechanism = (Mechanism.wake x.2.thread fd r.mechanism).2.1 := by
  unfold alert interrupt
  simp only [mechanism_note]
  rcases Mechanism.wake x.2.thread fd r.mechanism with ⟨_ | _, m, events⟩ <;> rfl

lemma alert_withSlab (fd : Descriptor) (r : Registry σ) (s : Slab) (x : GuardId × Entry) :
    alert fd (r.withSlab s) x = (r.alert fd x).withSlab s := by
  unfold alert interrupt note withSlab
  dsimp only
  rcases Mechanism.wake x.2.thread fd r.mechanism with ⟨_ | _, m, events⟩ <;> rfl

lemma wakeEntry_eq (fd : Descriptor) (i : ℕ) (id : GuardId) (e : Entry) (r : Registry σ) :
    r.wakeEntry fd i id e.thread = (r.alert fd (id, e)).withSlab (r.slab.mark i) := by
  rw [← alert_withSlab]
  rfl

/-- One step of the scan: slot `k` of a slab in which the slots before it are done. -/
lemma scanSlot_eq (fd : Descriptor) (n k : ℕ) (r : Registry σ) (s : Slab) (h : s.Tidy) :
    scanSlot fd (n, r.withSlab (s.sweep fd k)) k =
      (n + ((s.entryAt? k).toList.filter fun x => x.2.fd = fd).length,
        (((s.entryAt? k).toList.filter fun x => x.2.fd = fd).foldl (alert fd) r).withSlab
          (s.sweep fd (k + 1))) := by
  simp only [scanSlot, slab_withSlab, Slab.entryAt?_sweep]
  cases hk : s.entryAt? k with
  | none =>
    have hempty : (s.slotAt k).entry = none := by
      rw [Slab.entryAt?_eq] at hk
      simpa using hk
    rw [Slab.sweep_succ_of_ne fd h (Slot.onClose_of_empty fd hempty)]
    rfl
  | some x =>
    obtain ⟨id, e⟩ := x
    have hat : s.slotAt k = ⟨id.generation, some e⟩ := by
      obtain ⟨rfl, he⟩ := (Slab.entryAt?_eq_some h).mp hk
      exact Slab.get?_eq_some.mp he
    by_cases he : e.fd = fd
    · simp [he, wakeEntry_eq, alert_withSlab, Slab.mark_sweep fd h hat he]
    · have hsame : (s.slotAt k).onClose fd = s.slotAt k := by
        simp [hat, Slot.onClose, Entry.onClose, he]
      simp [he, Slab.sweep_succ_of_ne fd h hsame]

lemma scan_range (fd : Descriptor) (r : Registry σ) (h : r.slab.Tidy) (k : ℕ) :
    (List.range k).foldl (scanSlot fd) (0, r) =
      ((((List.range k).filterMap r.slab.entryAt?).filter fun x => x.2.fd = fd).length,
        ((((List.range k).filterMap r.slab.entryAt?).filter fun x => x.2.fd = fd).foldl
          (alert fd) r).withSlab (r.slab.sweep fd k)) := by
  induction k with
  | zero => simp [Slab.sweep_zero]
  | succ k ih =>
    have hsplit : (List.range (k + 1)).filterMap r.slab.entryAt? =
        (List.range k).filterMap r.slab.entryAt? ++ (r.slab.entryAt? k).toList := by
      rw [List.range_succ, List.filterMap_append]
      cases h : r.slab.entryAt? k <;> simp [h]
    rw [hsplit, List.range_succ, List.foldl_append, ih, List.filter_append, List.length_append,
      List.foldl_append, List.foldl_cons, List.foldl_nil, scanSlot_eq fd _ k _ _ h]

/-- **A scan** counts the live guards on the descriptor, marks them, and alerts their threads in
slot order. -/
theorem wakeBlocked_eq (fd : Descriptor) (r : Registry σ) (h : r.slab.Tidy) :
    r.wakeBlocked fd =
      ((r.targets fd).length,
        ((r.targets fd).foldl (alert fd) r).withSlab (r.slab.onClose fd)) := by
  rw [wakeBlocked, Slab.indices, scan_range fd r h, Slab.sweep_size]
  rfl

lemma slab_wakeBlocked (fd : Descriptor) (r : Registry σ) (h : r.slab.Tidy) :
    (r.wakeBlocked fd).2.slab = r.slab.onClose fd := by
  rw [wakeBlocked_eq fd r h, slab_withSlab]

lemma get?_wakeBlocked (fd : Descriptor) (r : Registry σ) (h : r.slab.Tidy) (id : GuardId) :
    (r.wakeBlocked fd).2.slab.get? id = (r.slab.get? id).map (·.onClose fd) := by
  rw [slab_wakeBlocked fd r h, Slab.get?_onClose]

lemma mechanism_foldl_alert (fd : Descriptor) (xs : List (GuardId × Entry)) (r : Registry σ) :
    (xs.foldl (alert fd) r).mechanism =
      xs.foldl (fun m x => (Mechanism.wake x.2.thread fd m).2.1) r.mechanism := by
  induction xs generalizing r with
  | nil => rfl
  | cons x xs ih => rw [List.foldl_cons, List.foldl_cons, ih, mechanism_alert]

lemma mechanism_wakeBlocked (fd : Descriptor) (r : Registry σ) (h : r.slab.Tidy) :
    (r.wakeBlocked fd).2.mechanism =
      (r.targets fd).foldl (fun m x => (Mechanism.wake x.2.thread fd m).2.1) r.mechanism := by
  rw [wakeBlocked_eq fd r h, mechanism_withSlab, mechanism_foldl_alert]

end Registry

end AsyncClose
