import AsyncClose.Mechanism.Recorder
import AsyncClose.Proofs.Program.Basic
import AsyncClose.Proofs.Slab.Alike
import AsyncClose.Proofs.Slab.Stock

/-!
How many slots are set aside cannot be told.

The tables of two registries may differ in size at every point, and grow at different times. No
call shows it: what has an entry is in both tables, and what only one of them has is empty.
-/

namespace AsyncClose

namespace Registry

variable {σ : Type}

/-- The registries differ in the size of their tables only. -/
def Resized (r q : Registry σ) : Prop := r.slab.Alike q.slab ∧ q = r.withSlab q.slab

variable {r q : Registry σ}

lemma Resized.mechanism (h : r.Resized q) : r.mechanism = q.mechanism := by rw [h.2]; rfl

lemma Resized.log (h : r.Resized q) : r.log = q.log := by rw [h.2]; rfl

lemma Resized.blocked (h : r.Resized q) : r.blocked = q.blocked := h.1.entries

lemma Resized.size (h : r.Resized q) : r.size = q.size := h.1.live

lemma Resized.signaled (h : r.Resized q) (id : GuardId) : r.signaled id = q.signaled id :=
  h.1.signaled id

lemma resized_ofCapacity (c d : ℕ) (m : σ) : (ofCapacity c m).Resized (ofCapacity d m) :=
  ⟨Slab.alike_ofCapacity c d, rfl⟩

variable [Mechanism σ]

lemma foldl_alert_withSlab (fd : Descriptor) (xs : List (GuardId × Entry)) (r : Registry σ)
    (s : Slab) : xs.foldl (alert fd) (r.withSlab s) = (xs.foldl (alert fd) r).withSlab s := by
  induction xs generalizing r with
  | nil => rfl
  | cons x xs ih => rw [List.foldl_cons, List.foldl_cons, alert_withSlab, ih]

lemma Resized.acquire (h : r.Resized q) (t : Thread) (fd : Descriptor) (canOpen : Bool) :
    (r.acquire t fd canOpen).1 = (q.acquire t fd canOpen).1 ∧
      (r.acquire t fd canOpen).2.Resized (q.acquire t fd canOpen).2 := by
  obtain ⟨hslab, hq⟩ := h
  have hid := hslab.insert_fst ⟨fd, t, false⟩
  refine ⟨by rw [acquire_fst, acquire_fst, hid], hslab.insert _, ?_⟩
  rw [hq]
  simp only [Registry.acquire, enter, register, note, withSlab, hid]

lemma Resized.release (h : r.Resized q) (g : Guard) : (r.release g).Resized (q.release g) := by
  obtain ⟨hslab, hq⟩ := h
  obtain ⟨hentry, hrest⟩ := hslab.remove g.id
  refine ⟨hrest, ?_⟩
  rw [hq]
  simp only [Registry.release, unregister, leave, note, withSlab, hentry]

lemma Resized.wakeBlocked (h : r.Resized q) (fd : Descriptor) :
    (r.wakeBlocked fd).1 = (q.wakeBlocked fd).1 ∧
      (r.wakeBlocked fd).2.Resized (q.wakeBlocked fd).2 := by
  have htargets : r.targets fd = q.targets fd := by rw [targets, targets, h.blocked]
  obtain ⟨hslab, hq⟩ := h
  rw [wakeBlocked_eq fd r hslab.left.tidy, wakeBlocked_eq fd q hslab.right.tidy, htargets]
  -- the alerts do not look at the slab
  have halerts : (q.targets fd).foldl (alert fd) q =
      ((q.targets fd).foldl (alert fd) r).withSlab q.slab := by
    rw [← foldl_alert_withSlab, ← hq]
  refine ⟨rfl, hslab.onClose fd, ?_⟩
  rw [halerts, withSlab_withSlab, slab_withSlab, withSlab_withSlab]

/-- The size of the table makes no difference to any call. -/
lemma agreement_resized : Agreement (@Resized σ) where
  acquire h := h.acquire
  release h := h.release
  wake h := h.wakeBlocked
  signaled h := h.signaled
  size h := h.size
  blocked h := h.blocked
  install h := ⟨h.1, by rw [h.2]; rfl⟩
  note h _ := ⟨h.1, by rw [h.2]; rfl⟩

/-! ### Room for one more -/

/-- A guard can be acquired, whether the table has to grow for it or not: the slab has an empty
slot for it, its identity is new, and it joins the guards that are listed, none of which changes. -/
def Admits (q : Registry σ) : Prop :=
  q.slab.InsertSafe ∧ ∀ t fd canOpen,
    q.slab.get? (q.acquire t fd canOpen).1.id = none ∧
      (q.acquire t fd canOpen).2.blocked.Perm
        (((q.acquire t fd canOpen).1.id, ⟨fd, t, false⟩) :: q.blocked)

lemma admits_of_valid (h : q.slab.Valid) (room : q.blocked.length + 1 < 2 ^ 32) : q.Admits := by
  rw [Registry.blocked, Slab.length_entries h] at room
  exact ⟨h.insertSafe room, fun t fd _ =>
    ⟨Slab.get?_insert_fst h ⟨fd, t, false⟩, Slab.entries_insert h ⟨fd, t, false⟩⟩⟩

/-- As long as the guards can be counted the books stay balanced, whatever is called. -/
lemma kept_valid : Program.Kept (fun r : Registry σ => r.slab.Valid)
    Registry.Roomy where
  acquire {r} h t _ canOpen room := valid_register (r := r.enter t canOpen) h room
  release h g := Slab.valid_remove h g.id
  wake h fd := by
    rw [slab_wakeBlocked fd _ h.tidy]
    exact Slab.valid_onClose h fd
  install h := h
  note h _ := h

end Registry

namespace Program

variable {σ ω α : Type} [Mechanism σ]

/-- **Capacity is unobservable.** Whatever a program does with a registry, blocking calls and what
their attempts do included: it comes to the same answers, ends with the same guards listed and the
same flags, and has called on the mechanism the same and in the same order, however many slots were
set aside. As long as fewer than `2 ^ 32` guards are live at once, a further guard is admitted at
every point, whether the table grows for it or not. -/
theorem capacity_unobservable (c d : ℕ) (m : σ) (p : Program ω α) :
    ((p.execOn c m).1 = (p.execOn d m).1 ∧ (p.execOn c m).2.2 = (p.execOn d m).2.2) ∧
      (p.execOn c m).2.1.blocked = (p.execOn d m).2.1.blocked ∧
      (p.execOn c m).2.1.size = (p.execOn d m).2.1.size ∧
      (∀ id, (p.execOn c m).2.1.signaled id = (p.execOn d m).2.1.signaled id) ∧
      (p.execOn c m).2.1.mechanism.calls = (p.execOn d m).2.1.mechanism.calls ∧
      (p.execOn c m).2.1.mechanism = (p.execOn d m).2.1.mechanism ∧
      (p.execOn c m).2.1.log = (p.execOn d m).2.1.log ∧
      ((∀ q ∈ p.points (.ofCapacity c (Watched.watch m)), q.Roomy) →
        ∀ q ∈ p.points (.ofCapacity c (Watched.watch m)),
          q.blocked.length + 1 < 2 ^ 32 → q.Admits) := by
  obtain ⟨hend, hresized, hmind⟩ := Registry.agreement_resized.exec p
    (Registry.resized_ofCapacity c d (Watched.watch m))
  have hmechanism := hresized.mechanism
  refine ⟨⟨hend, hmind⟩, hresized.blocked, hresized.size, hresized.signaled,
    congrArg Watched.calls hmechanism, hmechanism, hresized.log, fun room q hq hmore => ?_⟩
  obtain ⟨hvalid, -⟩ := Registry.kept_valid.points p (Slab.valid_ofCapacity c) room
  exact Registry.admits_of_valid (hvalid q hq) hmore

/-- Guards come and go while a call is made that is interrupted once and then closed. -/
def busy : Program Unit ℕ :=
  .acquire ⟨0⟩ (.raw 5) true fun g =>
    .acquire ⟨1⟩ (.raw 6) true fun _ =>
      .run ⟨0⟩ (.raw 5)
        [fun _ s =>
          .acquire ⟨2⟩ (.raw 7) true fun _ => .finish (.returned (.error (.plain .interrupted))) s,
        fun _ s => .wake (.raw 5) fun n => .release g (.finish (.returned (.ok n)) s)]
        () fun e s => .finish (e.getD (.panicked "unfinished")) s

/-- With nine slots set aside, where the table never grows, and with none asked for, where it grows
three times, the same two guards are left. -/
theorem capacity_unobservable_busy :
    (busy.execOn 9 (WakeRecorder.mk [] (.ofOutcomes []))).2.1.blocked =
        [(.pack 1 0, ⟨.raw 6, ⟨1⟩, false⟩), (.pack 3 0, ⟨.raw 7, ⟨2⟩, false⟩)] ∧
      (busy.execOn 0 (WakeRecorder.mk [] (.ofOutcomes []))).2.1.blocked =
        (busy.execOn 9 (WakeRecorder.mk [] (.ofOutcomes []))).2.1.blocked ∧
      ∀ q ∈ busy.points (.ofCapacity 0 (Watched.watch (WakeRecorder.mk [] (.ofOutcomes [])))),
        q.blocked.length + 1 < 2 ^ 32 → q.Admits := by
  have room : ∀ q ∈ busy.points
      (.ofCapacity 0 (Watched.watch (WakeRecorder.mk [] (.ofOutcomes [])))),
      q.Roomy := by
    decide +kernel
  obtain ⟨-, hblocked, -, -, -, -, -, hadmits⟩ :=
    capacity_unobservable 0 9 (WakeRecorder.mk [] (.ofOutcomes [])) busy
  exact ⟨by decide +kernel, hblocked, hadmits room⟩

end Program

end AsyncClose
