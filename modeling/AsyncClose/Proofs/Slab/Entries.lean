import AsyncClose.Proofs.Slab.Reading

/-!
The entries of a slab as a list: each live guard once, in slot order. Closing a descriptor marks
the entries blocked on it and changes nothing else.
-/

namespace AsyncClose

namespace Slab

variable {s : Slab}

lemma written_le (h : s.Tidy) : s.slots.written.size ≤ 2 ^ 32 := h.written.trans h.size

/-- No more entries are kept than slots can be numbered. -/
lemma length_entries_le (h : s.Tidy) : s.entries.length ≤ 2 ^ 32 := by
  have hle := List.length_filterMap_le s.entryAt? s.indices
  rw [indices, List.length_range] at hle
  exact hle.trans (written_le h)

lemma toNat_ofNat_of_lt_written (h : s.Tidy) {i : ℕ} (hi : i < s.slots.written.size) :
    (UInt32.ofNat i).toNat = i := by
  have := written_le h
  rw [UInt32.toNat_ofNat', Nat.mod_eq_of_lt (by omega)]

lemma lt_written_of_entry (h : s.Tidy) {i : ℕ} {e : Entry} (he : (s.slotAt i).entry = some e) :
    i < s.slots.written.size := by
  by_contra hc
  rw [slotAt_eq_getD s h, Array.getD, dif_neg hc] at he
  exact absurd he (by simp [default])

lemma entryAt?_eq_some (h : s.Tidy) {i : ℕ} {id : GuardId} {e : Entry} :
    s.entryAt? i = some (id, e) ↔ id.slot.toNat = i ∧ s.get? id = some e := by
  rw [entryAt?_eq, get?_eq_some]
  constructor
  · intro hx
    obtain ⟨x, he, heq⟩ := Option.map_eq_some_iff.mp hx
    obtain ⟨rfl, rfl⟩ := Prod.mk.inj heq
    have hi := toNat_ofNat_of_lt_written h (lt_written_of_entry h he)
    simp only [GuardId.slot_pack, GuardId.generation_pack, hi, ← he, and_self]
  · rintro ⟨rfl, hx⟩
    simp [hx]

lemma mem_entries (h : s.Tidy) {id : GuardId} {e : Entry} :
    (id, e) ∈ s.entries ↔ s.get? id = some e := by
  simp only [entries, indices, List.mem_filterMap, List.mem_range, entryAt?_eq_some h]
  constructor
  · rintro ⟨i, -, -, hx⟩
    exact hx
  · intro hx
    have he := congrArg Slot.entry (get?_eq_some.mp hx)
    exact ⟨_, lt_written_of_entry h he, rfl, hx⟩

lemma pairwise_entries (h : s.Tidy) :
    s.entries.Pairwise fun x y => x.1.slot < y.1.slot := by
  refine List.Pairwise.filterMap _ ?_ List.pairwise_lt_range
  rintro i j hij ⟨a, e⟩ ha ⟨b, f⟩ hb
  rw [UInt32.lt_iff_toNat_lt, ((entryAt?_eq_some h).mp ha).1, ((entryAt?_eq_some h).mp hb).1]
  exact hij

lemma nodup_entries (h : s.Tidy) : s.entries.Nodup :=
  (pairwise_entries h).imp fun {x y} hxy heq => by
    rw [heq] at hxy
    exact UInt32.lt_irrefl _ hxy

lemma signaled_eq_true {id : GuardId} :
    s.signaled id = true ↔ ∃ e, s.get? id = some e ∧ e.signaled = true := by
  unfold signaled
  cases s.get? id <;> simp

end Slab

/-! ### Closing a descriptor -/

/-- The entry once its descriptor may have been closed. -/
def Entry.onClose (fd : Descriptor) (e : Entry) : Entry :=
  if e.fd = fd then { e with signaled := true } else e

@[simp] lemma Entry.fd_onClose (fd : Descriptor) (e : Entry) : (e.onClose fd).fd = e.fd := by
  unfold onClose
  split <;> rfl

@[simp] lemma Entry.thread_onClose (fd : Descriptor) (e : Entry) :
    (e.onClose fd).thread = e.thread := by
  unfold onClose
  split <;> rfl

@[simp] lemma Entry.signaled_onClose (fd : Descriptor) (e : Entry) :
    (e.onClose fd).signaled = (e.signaled || decide (e.fd = fd)) := by
  unfold onClose
  split <;> simp [*]

def Slot.onClose (fd : Descriptor) (x : Slot) : Slot :=
  { x with entry := x.entry.map (·.onClose fd) }

lemma Slot.onClose_of_empty (fd : Descriptor) {x : Slot} (h : x.entry = none) :
    x.onClose fd = x := by
  obtain ⟨g, e⟩ := x
  obtain rfl : e = none := h
  rfl

@[simp] lemma Slot.onClose_default (fd : Descriptor) : (default : Slot).onClose fd = default := rfl

namespace Slab

def onClose (fd : Descriptor) (s : Slab) : Slab :=
  { s with slots := ⟨s.slots.size, s.slots.written.map (·.onClose fd)⟩ }

variable (fd : Descriptor)

lemma slotAt_onClose (s : Slab) (i : ℕ) : (s.onClose fd).slotAt i = (s.slotAt i).onClose fd := by
  simp only [slotAt, onClose, Table.get?, Array.getD_eq_getD_getElem?, Array.getElem?_map]
  split
  · cases s.slots.written[i]? <;> rfl
  · rfl

lemma get?_onClose (s : Slab) (id : GuardId) :
    (s.onClose fd).get? id = (s.get? id).map (·.onClose fd) := by
  rw [get?_eq, get?_eq, slotAt_onClose]
  by_cases hg : (s.slotAt id.slot.toNat).generation = id.generation <;> simp [Slot.onClose, hg]

lemma tidy_onClose {s : Slab} (h : s.Tidy) : (s.onClose fd).Tidy :=
  ⟨by simpa [onClose] using h.written, h.size⟩

lemma entries_onClose (s : Slab) :
    (s.onClose fd).entries = s.entries.map fun x => (x.1, x.2.onClose fd) := by
  have hi : (s.onClose fd).indices = s.indices := by simp [indices, onClose]
  rw [entries, entries, hi, List.map_filterMap]
  congr 1
  funext i
  rw [entryAt?_eq, entryAt?_eq, slotAt_onClose, Option.map_map]
  cases h : (s.slotAt i).entry <;> simp [Slot.onClose, h]

end Slab

end AsyncClose
