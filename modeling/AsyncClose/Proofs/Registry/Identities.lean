import AsyncClose.Mechanism.Recorder
import AsyncClose.Proofs.Registry.Steps
import AsyncClose.Proofs.Slab.Overflow

/-!
An identity is given out once, and does nothing once it has been taken back.

The generation of a slot counts the releases of the slot, so an identity that was taken back has a
generation its slot has left behind, and a new identity has one its slot has only just reached.
This holds as long as the count fits the generation, and as long as there are slots to number.
-/

namespace AsyncClose

/-- What can be asked of a registry, apart from what only reads it. Any identity can be asked to be
taken out, also one that was never given out. -/
inductive Access
  | register (fd : Descriptor) (t : Thread)
  | unregister (id : GuardId)
  | wake (fd : Descriptor)
  deriving DecidableEq

namespace Registry

variable {σ : Type} {r : Registry σ} {id : GuardId}

/-- The identity stands for no mark, and to take it out is refused and leaves the slab as it is. -/
def Inert (r : Registry σ) (id : GuardId) : Prop :=
  r.signaled id = false ∧ (r.unregister id).1 = false ∧ (r.unregister id).2.slab = r.slab

lemma inert_of_get?_eq_none (h : r.slab.get? id = none) : r.Inert id := by
  refine ⟨?_, ?_, ?_⟩
  · rw [signaled, Slab.signaled, h]; rfl
  · rw [unregister_fst, h]; rfl
  · rw [slab_unregister, Slab.remove_eq_self h]

end Registry

/-- A registry, with the identities it gave out and took back. -/
structure Ledger (σ : Type) where
  registry : Registry σ
  /-- Every identity given out so far, in order. -/
  issued : List GuardId
  /-- Every identity taken out so far, in order. -/
  returned : List GuardId

namespace Ledger

variable {σ : Type}

def start (capacity : ℕ) (m : σ) : Ledger σ := ⟨.ofCapacity capacity m, [], []⟩

def releases (l : Ledger σ) (i : UInt32) : ℕ := l.returned.countP fun id => id.slot = i

variable {l : Ledger σ}

lemma releases_append (r : Registry σ) (is : List GuardId) (id : GuardId) (i : UInt32) :
    releases ⟨r, is, l.returned ++ [id]⟩ i = l.releases i + if id.slot = i then 1 else 0 := by
  simp [releases, List.countP_append, List.countP_singleton]

/-- The books are right: they tell the generation of every slot, and which identities are live. -/
structure Exact (l : Ledger σ) : Prop where
  valid : l.registry.slab.Valid
  generation : ∀ i : UInt32, (l.registry.slab.slotAt i.toNat).generation.toNat = l.releases i
  live : ∀ id, (l.registry.slab.get? id).isSome = true ↔ id ∈ l.issued ∧ id ∉ l.returned
  returned_lt : ∀ id ∈ l.returned, id.generation.toNat < l.releases id.slot
  nodup : l.issued.Nodup

lemma Exact.get?_eq_none (h : l.Exact) {id : GuardId} (hid : id ∈ l.returned ∨ id ∉ l.issued) :
    l.registry.slab.get? id = none := by
  rw [← Option.not_isSome_iff_eq_none, h.live]
  rintro ⟨hissued, hreturned⟩
  rcases hid with hid | hid
  · exact hreturned hid
  · exact hid hissued

/-- The generation of a new identity is the number of releases of its slot. -/
lemma Exact.generation_insert (h : l.Exact) (e : Entry) :
    (l.registry.slab.insert e).1.generation.toNat =
      l.releases (l.registry.slab.insert e).1.slot := by
  rw [Slab.insert_fst h.valid.tidy, GuardId.generation_pack, GuardId.slot_pack, h.generation]

/-- A new identity was not given out before: it is not live, and its slot has only just come to its
generation. -/
lemma Exact.insert_not_mem (h : l.Exact) (e : Entry) :
    (l.registry.slab.insert e).1 ∉ l.issued := by
  intro hmem
  have hnew := Slab.get?_insert_fst h.valid e
  have hreturned : (l.registry.slab.insert e).1 ∈ l.returned := by
    by_contra hc
    have := (h.live _).mpr ⟨hmem, hc⟩
    simp [hnew] at this
  have := h.returned_lt _ hreturned
  rw [h.generation_insert] at this
  omega

variable [Mechanism σ]

def step (l : Ledger σ) : Access → Ledger σ
  | .register fd t =>
    let (id, r) := l.registry.register fd t
    ⟨r, l.issued ++ [id], l.returned⟩
  | .unregister id =>
    match l.registry.unregister id with
    | (true, r) => ⟨r, l.issued, l.returned ++ [id]⟩
    | (false, r) => ⟨r, l.issued, l.returned⟩
  | .wake fd => ⟨(l.registry.wakeBlocked fd).2, l.issued, l.returned⟩

def ofAccesses (capacity : ℕ) (m : σ) (as : List Access) : Ledger σ :=
  as.foldl step (start capacity m)

lemma ofAccesses_snoc (capacity : ℕ) (m : σ) (as : List Access) (a : Access) :
    ofAccesses capacity m (as ++ [a]) = (ofAccesses capacity m as).step a := by
  simp [ofAccesses]

/-! ### Asking step by step -/

lemma step_unregister_of_some {id : GuardId} {e : Entry}
    (h : l.registry.slab.get? id = some e) :
    l.step (.unregister id) =
      ⟨(l.registry.unregister id).2, l.issued, l.returned ++ [id]⟩ := by
  have hfst : (l.registry.unregister id).1 = true := by rw [Registry.unregister_fst, h]; rfl
  rw [step]
  split
  · next heq => rw [heq]
  · next heq => rw [heq] at hfst; simp at hfst

lemma step_unregister_of_none {id : GuardId} (h : l.registry.slab.get? id = none) :
    l.step (.unregister id) = ⟨(l.registry.unregister id).2, l.issued, l.returned⟩ := by
  have hfst : (l.registry.unregister id).1 = false := by rw [Registry.unregister_fst, h]; rfl
  rw [step]
  split
  · next heq => rw [heq] at hfst; simp at hfst
  · next heq => rw [heq]

/-- What was taken back stays taken back. -/
lemma returned_step (a : Access) : l.returned <+: (l.step a).returned := by
  cases a with
  | register fd t => exact List.prefix_rfl
  | unregister id =>
    cases h : l.registry.slab.get? id with
    | none => rw [step_unregister_of_none h]
    | some e => rw [step_unregister_of_some h]; exact List.prefix_append _ _
  | wake fd => exact List.prefix_rfl

lemma Exact.register (h : l.Exact) (fd : Descriptor) (t : Thread)
    (room : (l.registry.register fd t).2.Roomy) : (l.step (.register fd t)).Exact := by
  have hnot := h.insert_not_mem ⟨fd, t, false⟩
  have hslot := Slab.slotAt_insert_of_valid h.valid ⟨fd, t, false⟩
  have hget := Slab.get?_insert h.valid ⟨fd, t, false⟩
  refine ⟨Registry.valid_register h.valid room, ?_, ?_, h.returned_lt, ?_⟩
  · intro i
    change ((l.registry.slab.insert ⟨fd, t, false⟩).2.slotAt i.toNat).generation.toNat =
      l.releases i
    rw [hslot]
    split
    · next hi =>
      rw [h.generation_insert, Slab.slot_insert h.valid, UInt32.toNat_inj.mp hi]
    · exact h.generation i
  · intro id
    change ((l.registry.slab.insert ⟨fd, t, false⟩).2.get? id).isSome = true ↔
      id ∈ l.issued ++ [(l.registry.slab.insert ⟨fd, t, false⟩).1] ∧ id ∉ l.returned
    rw [hget, List.mem_append, List.mem_singleton]
    by_cases hid : id = (l.registry.slab.insert ⟨fd, t, false⟩).1
    · have hfresh : id ∉ l.returned := by
        intro hc
        have hlt := h.returned_lt id hc
        rw [hid, h.generation_insert] at hlt
        omega
      rw [if_pos hid]
      exact ⟨fun _ => ⟨.inr hid, hfresh⟩, fun _ => rfl⟩
    · simp [hid, h.live]
  · change (l.issued ++ [(l.registry.slab.insert ⟨fd, t, false⟩).1]).Nodup
    rw [List.nodup_append]
    refine ⟨h.nodup, List.nodup_singleton _, ?_⟩
    rintro a ha b hb rfl
    exact hnot (List.mem_singleton.mp hb ▸ ha)

lemma Exact.unregister (h : l.Exact) (id : GuardId)
    (rare : (l.step (.unregister id)).releases id.slot < 2 ^ 32) :
    (l.step (.unregister id)).Exact := by
  cases hx : l.registry.slab.get? id with
  | none =>
    rw [step_unregister_of_none hx]
    have hslab := (Registry.inert_of_get?_eq_none hx).2.2
    refine ⟨?_, ?_, ?_, h.returned_lt, h.nodup⟩
    · rw [hslab]; exact h.valid
    · rw [hslab]; exact h.generation
    · rw [hslab]; exact h.live
  | some e =>
    rw [step_unregister_of_some hx] at rare ⊢
    have hslot := Slab.slotAt_remove hx
    have hat := Slab.get?_eq_some.mp hx
    have hgen : id.generation.toNat = l.releases id.slot := by
      rw [← h.generation, hat]
    rw [releases_append, if_pos rfl] at rare
    have hnext : (id.generation + 1).toNat = l.releases id.slot + 1 := by
      rw [UInt32.toNat_add, UInt32.toNat_one, hgen, Nat.mod_eq_of_lt rare]
    refine ⟨Slab.valid_remove h.valid id, ?_, ?_, ?_, h.nodup⟩
    · intro i
      rw [releases_append]
      change ((l.registry.slab.remove id).2.slotAt i.toNat).generation.toNat = _
      rw [hslot]
      by_cases hi : id.slot = i
      · rw [if_pos (by rw [hi]), if_pos hi, hnext, hi]
      · rw [if_neg fun hc => hi (UInt32.toNat_inj.mp hc), if_neg hi, h.generation]; rfl
    · intro id'
      change ((l.registry.slab.remove id).2.get? id').isSome = true ↔
        id' ∈ l.issued ∧ id' ∉ l.returned ++ [id]
      rw [Slab.get?_remove]
      by_cases hid : id' = id
      · simp [hid]
      · simp [hid, h.live]
    · intro id' hid'
      rw [releases_append]
      rcases List.mem_append.mp hid' with hid' | hid'
      · have := h.returned_lt id' hid'
        omega
      · obtain rfl := List.mem_singleton.mp hid'
        rw [if_pos rfl, hgen]
        omega

lemma Exact.wake (h : l.Exact) (fd : Descriptor) : (l.step (.wake fd)).Exact := by
  have hslab := Registry.slab_wakeBlocked fd l.registry h.valid.tidy
  refine ⟨?_, ?_, ?_, h.returned_lt, h.nodup⟩
  · rw [step, hslab]
    exact Slab.valid_onClose h.valid fd
  · intro i
    rw [step, hslab, Slab.slotAt_onClose]
    exact h.generation i
  · intro id
    rw [step, hslab, Slab.get?_onClose, Option.isSome_map]
    exact h.live id

/-! ### Whole runs -/

variable (capacity : ℕ) (m : σ) {as : List Access}

/-- Fewer than `2 ^ 32` guards are live at any time. -/
def Roomy (capacity : ℕ) (m : σ) (as : List Access) : Prop :=
  ∀ p, p <+: as → (ofAccesses capacity m p).registry.Roomy

instance (capacity : ℕ) (m : σ) (as : List Access) : Decidable (Roomy capacity m as) :=
  inferInstanceAs (Decidable (∀ p, p <+: as → (ofAccesses capacity m p).registry.Roomy))

lemma Roomy.of_prefix {capacity : ℕ} {m : σ} {p : List Access} (h : Roomy capacity m as)
    (hp : p <+: as) : Roomy capacity m p := fun p' hp' => h p' (hp'.trans hp)

/-- No slot is released `2 ^ 32` times. -/
def Lasting (capacity : ℕ) (m : σ) (as : List Access) : Prop :=
  ∀ i, (ofAccesses capacity m as).releases i < 2 ^ 32

lemma returned_append (as bs : List Access) :
    (ofAccesses capacity m as).returned <+: (ofAccesses capacity m (as ++ bs)).returned := by
  induction bs using List.reverseRecOn with
  | nil => rw [List.append_nil]
  | append_singleton bs a ih =>
    rw [← List.append_assoc, ofAccesses_snoc]
    exact ih.trans (returned_step a)

/-- The one slot of a registry is used twice, and then a second one. -/
def reuse : List Access :=
  [.register (.raw 5) ⟨0⟩, .unregister ⟨0⟩, .register (.raw 5) ⟨0⟩, .register (.raw 6) ⟨1⟩,
    .wake (.raw 5), .unregister ⟨0⟩]

lemma roomy_reuse : Roomy 1 (WakeRecorder.mk [] (.ofOutcomes [])) reuse := by
  decide +kernel

/-- One guard more than there are slots to number, none of which is ever released. -/
def crammed : List Access := List.replicate (2 ^ 32 + 1) (.register (.raw 5) ⟨0⟩)

end Ledger

end AsyncClose
