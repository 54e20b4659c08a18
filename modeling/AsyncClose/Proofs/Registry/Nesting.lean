import AsyncClose.Proofs.Program.Capacity
import AsyncClose.Proofs.Program.Steps
import AsyncClose.Proofs.Registry.Attempts
import AsyncClose.Proofs.Registry.Identities
import AsyncClose.Proofs.Slab.Overflow
import AsyncClose.Proofs.Slab.Stock

/-!
Guards that come and go in stack order.

Each of them takes the slot in front and puts it back, so whatever they do between them, the slots
and the guards that were there before come back to what they were. The attempts of a call are such
guards one after the other, and use the same slot.
-/

namespace AsyncClose

/-- Guards that are all released in the opposite order, and scans in between. -/
inductive Nesting where
  | done
  | wake (fd : Descriptor) (rest : Nesting)
  | guard (t : Thread) (fd : Descriptor) (canOpen : Bool) (inner rest : Nesting)

namespace Nesting

def depth : Nesting → ℕ
  | done => 0
  | wake _ rest => rest.depth
  | guard _ _ _ inner rest => max (inner.depth + 1) rest.depth

def closed : Nesting → List Descriptor
  | done => []
  | wake fd rest => fd :: rest.closed
  | guard _ _ _ inner rest => inner.closed ++ rest.closed

variable {σ : Type} [Mechanism σ]

def run : Nesting → Registry σ → Registry σ
  | done, r => r
  | wake fd rest, r => rest.run (r.wakeBlocked fd).2
  | guard t fd canOpen inner rest, r =>
    let (g, q) := r.acquire t fd canOpen
    rest.run ((inner.run q).release g)

lemma run_guard (t : Thread) (fd : Descriptor) (canOpen : Bool) (inner rest : Nesting)
    (r : Registry σ) :
    (guard t fd canOpen inner rest).run r =
      rest.run ((inner.run (r.acquire t fd canOpen).2).release (r.acquire t fd canOpen).1) := rfl

/-- The slots come back to what they were, and so do the guards up to marks. -/
lemma restored_run (n : Nesting) {r : Registry σ} (h : r.slab.Valid)
    (room : r.slab.live + n.depth < 2 ^ 32) : Slab.Restored n.closed r.slab (n.run r).slab := by
  induction n generalizing r with
  | done => exact Slab.restored_refl h
  | wake fd rest ih =>
    have hclosed : Slab.Restored [fd] r.slab (r.wakeBlocked fd).2.slab := by
      rw [Registry.slab_wakeBlocked fd r h.tidy]
      exact Slab.restored_onClose h fd
    exact hclosed.trans (ih hclosed.valid (by rw [hclosed.live]; exact room))
  | guard t fd canOpen inner rest ihinner ihrest =>
    rw [depth] at room
    have hinner : Slab.Restored inner.closed (r.slab.insert ⟨fd, t, false⟩).2
        (inner.run (r.acquire t fd canOpen).2).slab := by
      rw [← Registry.slab_acquire]
      refine ihinner ?_ ?_
      · rw [Registry.slab_acquire]
        exact Slab.valid_insert h (by omega) _
      · rw [Registry.slab_acquire, Slab.live_insert]
        omega
    have hgone : Slab.Restored inner.closed r.slab
        ((inner.run (r.acquire t fd canOpen).2).release (r.acquire t fd canOpen).1).slab := by
      rw [Registry.slab_release, Registry.acquire_fst]
      exact hinner.bracket h
    rw [run_guard]
    exact hgone.trans (ihrest hgone.valid (by rw [hgone.live]; omega))

end Nesting

namespace Invocation

variable {σ ω α : Type} [Mechanism σ]

/-- The operation has left guards behind that came and went in stack order, with no more than so
many live at once. -/
def Nested (most : ℕ) (a : Invocation σ ω α) : Prop :=
  ∃ n : Nesting, a.after.1.slab = (n.run a.before.1).slab ∧ n.depth ≤ most

end Invocation

namespace Registry

variable {σ ω α : Type} [Mechanism σ]

variable (t : Thread) (fd : Descriptor)

/-- After an attempt whose operation nests its guards the slots are restored, and the slot in front
has the next generation. -/
lemma restored_settled (op : Op σ ω α) {s : Registry σ × ω} (h : s.1.slab.Valid) {most : ℕ}
    (room : s.1.slab.live + 1 + most < 2 ^ 32) (hn : (invocation t fd op s).Nested most) :
    (∃ fds, Slab.Restored fds s.1.slab (settled (invocation t fd op s)).slab) ∧
      ((settled (invocation t fd op s)).slab.slotAt s.1.slab.stock.head.toNat).generation =
        (s.1.slab.slotAt s.1.slab.stock.head.toNat).generation + 1 := by
  obtain ⟨n, hslab, hdepth⟩ := hn
  have hid : (invocation t fd op s).guard.id = (s.1.slab.insert ⟨fd, t, false⟩).1 := rfl
  have hinner : Slab.Restored n.closed (s.1.slab.insert ⟨fd, t, false⟩).2
      (invocation t fd op s).after.1.slab := by
    rw [hslab]
    refine n.restored_run (r := (s.1.acquire t fd true).2) ?_ ?_
    · rw [slab_acquire]
      exact Slab.valid_insert h (by omega) _
    · rw [slab_acquire, Slab.live_insert]
      omega
  rw [slab_settled, hid]
  refine ⟨⟨n.closed, hinner.bracket h⟩, ?_⟩
  have hentry := Slab.get?_eq_some.mp (hinner.get?_insert_fst h)
  rw [Slab.insert_fst_eq h.tidy, GuardId.slot_pack, GuardId.generation_pack] at hentry
  rw [Slab.generation_remove (hinner.get?_insert_fst h), Slab.insert_fst_eq h.tidy,
    GuardId.slot_pack, if_pos rfl, hentry]

/-- The attempts of a call whose operations nest their guards are made under guards in one slot, with
one generation after the other. -/
lemma id_invocations (ops : List (Op σ ω α)) {s : Registry σ × ω} (h : s.1.slab.Valid) {most : ℕ}
    (room : s.1.slab.live + 1 + most < 2 ^ 32)
    (hn : ∀ a ∈ invocations t fd ops s, a.Nested most) {k : ℕ} {a : Invocation σ ω α}
    (ha : (invocations t fd ops s)[k]? = some a) :
    a.guard.id = .pack s.1.slab.stock.head
      ((s.1.slab.slotAt s.1.slab.stock.head.toNat).generation + .ofNat k) := by
  induction ops generalizing s k with
  | nil => simp [invocations] at ha
  | cons op rest ih =>
    rw [invocations_cons_eq] at ha hn
    obtain ⟨hfirst, hlater⟩ := List.forall_mem_cons.mp hn
    cases k with
    | zero =>
      obtain rfl := Option.some.inj ha
      change (s.1.slab.insert ⟨fd, t, false⟩).1 = _
      rw [Slab.insert_fst_eq h.tidy, show UInt32.ofNat 0 = 0 from rfl, UInt32.add_zero]
    | succ k =>
      obtain ⟨⟨fds, hrestored⟩, hnext⟩ := restored_settled t fd op h room hfirst
      rw [List.getElem?_cons_succ] at ha
      cases hv : (invocation t fd op s).verdict with
      | finished e => simp [hv] at ha
      | retry =>
        simp only [hv] at ha hlater
        have hid := ih (s := (settled (invocation t fd op s), (invocation t fd op s).after.2))
          hrestored.valid (by rw [hrestored.live]; exact room) hlater ha
        rw [hid, hrestored.stock, hnext, UInt32.add_assoc]
        congr 2
        rw [UInt32.ofNat_add, UInt32.add_comm]
        rfl

end Registry

namespace Program

variable {σ ω α : Type} [Mechanism σ]

/-- **Slots are handed out as from a stack**, at every point of every program. A registration takes
the slot in front; a release that finds its guard puts the slot of the guard in front, with the next
generation; a release that finds none and a scan leave the slots alone. So after guards that came and
went in stack order the slots are as they were, and so are the guards that are listed, unless one of
their descriptors was closed; and the attempts of a call whose operations leave it at that are all
made in one slot, with one generation after the other. The latter as long as all guards live at once
can be counted. -/
theorem slots_are_a_stack {κ β : Type} (c : ℕ) (m : σ) (p : Program ω α) (r : Registry σ)
    (hr : r ∈ p.points (.ofCapacity c m)) :
    ((∀ fd t, r.slab.stock = .cons (r.register fd t).1.slot (r.register fd t).2.slab.stock) ∧
        (∀ id, (r.unregister id).1 = true →
          (r.unregister id).2.slab.stock = .cons id.slot r.slab.stock ∧
            ∀ i, ((r.unregister id).2.slab.slotAt i).generation =
              (r.slab.slotAt i).generation + if id.slot.toNat = i then 1 else 0) ∧
        (∀ id, (r.unregister id).1 = false → (r.unregister id).2.slab.stock = r.slab.stock) ∧
        ∀ fd, (r.wakeBlocked fd).2.slab.stock = r.slab.stock) ∧
      ((∀ q ∈ p.points (.ofCapacity c m), q.Roomy) →
        (∀ n : Nesting, r.size + n.depth < 2 ^ 32 →
          (n.run r).slab.stock = r.slab.stock ∧
            ((∀ x ∈ r.blocked, x.2.fd ∉ n.closed) → (n.run r).blocked = r.blocked)) ∧
        ∀ t fd (ops : List (Op σ κ β)) w most, r.size + 1 + most < 2 ^ 32 →
          (∀ a ∈ Registry.invocations t fd ops (r, w), a.Nested most) →
            ∀ (k : ℕ) a, (Registry.invocations t fd ops (r, w))[k]? = some a →
              a.guard.id = .pack r.slab.stock.head
                ((r.slab.slotAt r.slab.stock.head.toNat).generation + .ofNat k)) := by
  have htidy := (Registry.kept_tidy.points p (Slab.tidy_ofCapacity c) fun _ _ => trivial).1 r hr
  refine ⟨⟨fun fd t => Slab.stock_insert htidy _, fun id hid => ?_, fun id hid => ?_, fun fd => ?_⟩,
    fun room => ?_⟩
  · rw [Registry.unregister_fst, Option.isSome_iff_exists] at hid
    obtain ⟨e, he⟩ := hid
    exact ⟨Slab.stock_remove he, Slab.generation_remove he⟩
  · rw [Registry.unregister_fst, Option.isSome_eq_false_iff, Option.isNone_iff_eq_none] at hid
    rw [Registry.slab_unregister, Slab.remove_eq_self hid]
  · rw [Registry.slab_wakeBlocked fd r htidy, Slab.stock_onClose]
  · have hvalid := (Registry.kept_valid.points p (Slab.valid_ofCapacity c) room).1 r hr
    refine ⟨fun n hn => ?_, fun t fd ops w most hmost hnested k a ha => ?_⟩
    · have hrestored := n.restored_run hvalid hn
      exact ⟨hrestored.stock, hrestored.entries htidy⟩
    · exact Registry.id_invocations t fd ops hvalid hmost hnested ha

/-- Two guards are left, and the slot of a third one is free. -/
def gap : Program Unit ℕ :=
  .acquire ⟨0⟩ (.raw 5) true fun g =>
    .acquire ⟨1⟩ (.raw 6) true fun _ =>
      .acquire ⟨0⟩ (.raw 7) true fun _ => .release g (.finish (.returned (.ok 0)) ())

def gapped : Registry WakeRecorder :=
  let r₁ := (Registry.ofCapacity 1 (WakeRecorder.mk [] (.ofOutcomes []))).acquire ⟨0⟩ (.raw 5) true
  let r₂ := r₁.2.acquire ⟨1⟩ (.raw 6) true
  let r₃ := r₂.2.acquire ⟨0⟩ (.raw 7) true
  r₃.2.release r₁.1

/-- A guard whose descriptor is closed inside another guard, and a guard behind them. -/
def nest : Nesting :=
  .guard ⟨2⟩ (.raw 8) true
    (.guard ⟨3⟩ (.raw 9) true (.wake (.raw 9) .done) .done)
    (.guard ⟨2⟩ (.raw 8) true .done .done)

/-- Does the nest, is interrupted, and does it again. -/
def nesting : List (Op WakeRecorder Unit ℕ) :=
  [fun _ s => (.returned (.error (.os .interrupted)), nest.run s.1, s.2),
    fun _ s => (.returned (.ok 1), nest.run s.1, s.2)]

/-- The free slot is taken first, and by both attempts of a call; the nest leaves no trace. -/
theorem slots_are_a_stack_gapped :
    gapped.slab.stock.take 3 = [0, 3, 4] ∧
      (nest.run gapped).blocked = gapped.blocked ∧
      (Registry.invocations ⟨0⟩ (.raw 5) nesting (gapped, ())).length = 2 ∧
      ∀ (k : ℕ) a, (Registry.invocations ⟨0⟩ (.raw 5) nesting (gapped, ()))[k]? = some a →
        a.guard.id = .pack 0 (1 + .ofNat k) := by
  have room : ∀ q ∈ gap.points (.ofCapacity 1 (WakeRecorder.mk [] (.ofOutcomes []))),
      q.Roomy := by decide +kernel
  have hpoint : gapped ∈ gap.points (.ofCapacity 1 (WakeRecorder.mk [] (.ofOutcomes []))) :=
    .tail _ (.tail _ (.tail _ (.tail _ (mem_points_self _ _))))
  obtain ⟨-, hlater⟩ := slots_are_a_stack (κ := Unit) (β := ℕ) 1
    (WakeRecorder.mk [] (.ofOutcomes [])) gap gapped hpoint
  obtain ⟨hnest, hcall⟩ := hlater room
  have hnested : ∀ a ∈ Registry.invocations ⟨0⟩ (.raw 5) nesting (gapped, ()), a.Nested 2 := by
    intro a ha
    obtain ⟨op, hop, s, rfl⟩ := Registry.exists_of_mem_invocations _ _ ha
    simp only [nesting, List.mem_cons, List.not_mem_nil, or_false] at hop
    rcases hop with rfl | rfl <;> exact ⟨nest, rfl, by decide⟩
  refine ⟨by decide +kernel, (hnest nest (by decide +kernel)).2 (by decide +kernel),
    by decide +kernel, fun k a ha => ?_⟩
  have hhead : gapped.slab.stock.head = 0 := by decide +kernel
  have hgeneration : (gapped.slab.slotAt (0 : UInt32).toNat).generation = 1 := by decide +kernel
  rw [hcall ⟨0⟩ (.raw 5) nesting () 2 (by decide +kernel) hnested k a ha, hhead, hgeneration]

/-- As many guards that are never released. -/
def pile : ℕ → Program Unit ℕ
  | 0 => .finish (.returned (.ok 0)) ()
  | n + 1 => .acquire ⟨0⟩ (.raw 5) true fun _ => pile n

lemma exists_point_pile (n : ℕ) (r : Registry σ) :
    ∃ q ∈ (pile n).points r, q.slab = r.slab.cram ⟨.raw 5, ⟨0⟩, false⟩ n := by
  induction n generalizing r with
  | zero => exact ⟨r, List.mem_singleton_self r, rfl⟩
  | succ n ih =>
    obtain ⟨q, hq, hslab⟩ := ih (r.acquire ⟨0⟩ (.raw 5) true).2
    rw [Registry.slab_acquire, Slab.cram_insert] at hslab
    exact ⟨q, List.mem_cons_of_mem r hq, hslab⟩

/-- On as many guards as there are slots to number, one that comes and goes leaves a trace: the guard
whose slot it took is gone. -/
theorem slots_are_a_stack_piled :
    ∃ r ∈ (pile (2 ^ 32)).points (.ofCapacity 1 (WakeRecorder.mk [] (.ofOutcomes []))),
      ((Nesting.guard ⟨1⟩ (.raw 6) true .done .done).run r).blocked ≠ r.blocked := by
  obtain ⟨r, hr, hslab⟩ :=
    exists_point_pile (2 ^ 32) (.ofCapacity 1 (WakeRecorder.mk [] (.ofOutcomes [])))
  have hfilled : (Registry.ofCapacity 1 (WakeRecorder.mk [] (.ofOutcomes []))).slab.Filled 0 :=
    Slab.filled_ofCapacity 1
  obtain ⟨hthere, hlost⟩ := hfilled.first_lost ⟨.raw 5, ⟨0⟩, false⟩ ⟨.raw 6, ⟨1⟩, false⟩
  have htidy := (hfilled.cram ⟨.raw 5, ⟨0⟩, false⟩ (2 ^ 32)).tidy
  rw [← hslab] at hthere hlost htidy
  refine ⟨r, hr, fun heq => ?_⟩
  have hmem := (Slab.mem_entries htidy).mpr hthere
  rw [← Registry.blocked, ← heq] at hmem
  have hfound := (Slab.mem_entries (Slab.tidy_remove
    (Slab.tidy_insert htidy ⟨.raw 6, ⟨1⟩, false⟩) _)).mp hmem
  exact absurd (hfound.symm.trans hlost) (by simp)

end Program

end AsyncClose
