import AsyncClose.Proofs.Mechanism.Watched
import AsyncClose.Proofs.Registry.Steps

/-!
The moments of a scan.

A scan calls for one wake after the other. At each call the marks of the entries that were found so
far are set and those of the entries that are still to come are not touched, since an entry is
marked just before its thread is woken.
-/

namespace AsyncClose

namespace Slab

variable {s : Slab} (fd : Descriptor)

lemma get?_sweep (k : ℕ) (id : GuardId) :
    (s.sweep fd k).get? id =
      if id.slot.toNat < k then (s.get? id).map (·.onClose fd) else s.get? id := by
  rw [get?_eq, get?_eq, slotAt_sweep]
  by_cases hg : (s.slotAt id.slot.toNat).generation = id.generation <;>
    by_cases hk : id.slot.toNat < k <;> simp [hg, hk, Slot.onClose]

/-- Between the slabs nothing has changed but the marks on one descriptor, and all of those are
set. -/
structure OnlyMarked (fd : Descriptor) (s s' : Slab) : Prop where
  entries : s'.entries = s.entries.map fun x => (x.1, x.2.onClose fd)
  get? : ∀ id, s'.get? id = (s.get? id).map (·.onClose fd)
  generation : ∀ i, (s'.slotAt i).generation = (s.slotAt i).generation
  free : s'.free = s.free
  fresh : s'.fresh = s.fresh
  live : s'.live = s.live
  size : s'.slots.size = s.slots.size

lemma onlyMarked_onClose (s : Slab) : OnlyMarked fd s (s.onClose fd) where
  entries := entries_onClose fd s
  get? := get?_onClose fd s
  generation i := by rw [slotAt_onClose]; rfl
  free := rfl
  fresh := rfl
  live := rfl
  size := rfl

end Slab

namespace Registry

variable {σ : Type}

/-- The registry when a wake is called for: the entry is marked, and its thread is not woken yet. -/
def poised (fd : Descriptor) (i : ℕ) (id : GuardId) (t : Thread) (r : Registry σ) : Registry σ :=
  { r with slab := r.slab.mark i }.note [.waking fd id t]

/-- The wake that a scan calls for at slot `i`, if it does, and the registry when it does. -/
def momentAt (fd : Descriptor) (r : Registry σ) (i : ℕ) : Option (Thread × Registry σ) :=
  match r.slab.entryAt? i with
  | some (id, e) => if e.fd = fd then some (e.thread, r.poised fd i id e.thread) else none
  | none => none

def found (fd : Descriptor) (k : ℕ) (r : Registry σ) : List (GuardId × Entry) :=
  ((List.range k).filterMap r.slab.entryAt?).filter fun x => x.2.fd = fd

lemma found_succ (fd : Descriptor) (k : ℕ) (r : Registry σ) :
    r.found fd (k + 1) =
      r.found fd k ++ (r.slab.entryAt? k).toList.filter fun x => x.2.fd = fd := by
  rw [found, found, List.range_succ, List.filterMap_append, List.filter_append]
  cases h : r.slab.entryAt? k <;> simp [h]

lemma found_size (fd : Descriptor) (r : Registry σ) :
    r.found fd r.slab.slots.written.size = r.targets fd := rfl

lemma pairwise_targets (fd : Descriptor) {r : Registry σ} (h : r.slab.Tidy) :
    (r.targets fd).Pairwise fun x y => x.1.slot < y.1.slot :=
  (Slab.pairwise_entries h).filter _

lemma slot_lt_of_lt (fd : Descriptor) {r : Registry σ} (h : r.slab.Tidy) {j k : ℕ}
    {x y : GuardId × Entry} (hjk : j < k) (hx : (r.targets fd)[j]? = some x)
    (hy : (r.targets fd)[k]? = some y) : x.1.slot.toNat < y.1.slot.toNat := by
  obtain ⟨hj, rfl⟩ := List.getElem?_eq_some_iff.mp hx
  obtain ⟨hk, rfl⟩ := List.getElem?_eq_some_iff.mp hy
  exact UInt32.lt_iff_toNat_lt.mp
    (List.pairwise_iff_getElem.mp (pairwise_targets fd h) j k hj hk hjk)

variable [Mechanism σ]

/-- The registry after the wake it was poised for. A wake that fails is reported. -/
def wakeNow (fd : Descriptor) (t : Thread) (q : Registry σ) : Registry σ :=
  match q.interrupt t fd with
  | (.ok (), q') => q'
  | (.error e, q') => q'.note [.wakeFailed fd t e]

lemma wakeEntry_eq_poised (fd : Descriptor) (i : ℕ) (id : GuardId) (t : Thread) (r : Registry σ) :
    r.wakeEntry fd i id t = (r.poised fd i id t).wakeNow fd t := rfl

/-- A step of a scan makes the wake of its moment, if it has one, and no other. -/
lemma scanSlot_eq_momentAt (fd : Descriptor) (s : ℕ × Registry σ) (i : ℕ) :
    scanSlot fd s i = (momentAt fd s.2 i).elim s fun x => (s.1 + 1, x.2.wakeNow fd x.1) := by
  unfold scanSlot momentAt
  cases s.2.slab.entryAt? i with
  | none => rfl
  | some x =>
    by_cases hfd : x.2.fd = fd
    · simp only [hfd, if_true, wakeEntry_eq_poised, Option.elim_some]
    · simp only [hfd, if_false, Option.elim_none]

/-- The wakes that a scan of the slots `is` calls for, one after the other, each with the registry
when it does. -/
def moments (fd : Descriptor) : List ℕ → ℕ × Registry σ → List (Thread × Registry σ)
  | [], _ => []
  | i :: is, s => (momentAt fd s.2 i).toList ++ moments fd is (scanSlot fd s i)

lemma moments_append (fd : Descriptor) (is js : List ℕ) (s : ℕ × Registry σ) :
    moments fd (is ++ js) s = moments fd is s ++ moments fd js (is.foldl (scanSlot fd) s) := by
  induction is generalizing s with
  | nil => rfl
  | cons i is ih => rw [List.cons_append, moments, ih, moments, List.append_assoc, List.foldl_cons]

/-- The registry when the wake for `x` is called for, once the threads of `xs` were woken. -/
def whenFound (fd : Descriptor) (r : Registry σ) (xs : List (GuardId × Entry))
    (x : GuardId × Entry) : Registry σ :=
  ((xs.foldl (alert fd) r).withSlab (r.slab.sweep fd (x.1.slot.toNat + 1))).note
    [.waking fd x.1 x.2.thread]

variable {r : Registry σ}

/-- The next moment of a scan that has done the slots below `k`. -/
lemma momentAt_sweep (fd : Descriptor) (h : r.slab.Tidy) (k : ℕ) (xs : List (GuardId × Entry)) :
    (momentAt fd ((xs.foldl (alert fd) r).withSlab (r.slab.sweep fd k)) k).toList =
      ((r.slab.entryAt? k).toList.filter fun x => x.2.fd = fd).map fun x =>
        (x.2.thread, whenFound fd r xs x) := by
  simp only [momentAt, slab_withSlab, Slab.entryAt?_sweep]
  cases hk : r.slab.entryAt? k with
  | none => rfl
  | some x =>
    obtain ⟨id, e⟩ := x
    obtain ⟨rfl, he⟩ := (Slab.entryAt?_eq_some h).mp hk
    by_cases hfd : e.fd = fd
    · simp [hfd, poised, whenFound, note, withSlab,
        Slab.mark_sweep fd h (Slab.get?_eq_some.mp he) hfd]
    · simp [hfd]

lemma moments_range (fd : Descriptor) (h : r.slab.Tidy) (k : ℕ) :
    moments fd (List.range k) (0, r) =
      (r.found fd k).mapIdx fun j x => (x.2.thread, whenFound fd r ((r.found fd k).take j) x) := by
  induction k with
  | zero => rfl
  | succ k ih =>
    have hearlier : ((r.found fd k).mapIdx fun j x =>
          (x.2.thread, whenFound fd r ((r.found fd k).take j) x)) =
        (r.found fd k).mapIdx fun j x =>
          (x.2.thread, whenFound fd r ((r.found fd (k + 1)).take j) x) := by
      refine List.mapIdx_eq_mapIdx_iff.mpr fun j hj => ?_
      rw [found_succ, List.take_append_of_le_length hj.le]
    have hscan : ((List.range k).foldl (scanSlot fd) (0, r)).2 =
        ((r.found fd k).foldl (alert fd) r).withSlab (r.slab.sweep fd k) := by
      rw [scan_range fd r h]; rfl
    have hlatest : ((r.slab.entryAt? k).toList.filter fun x => x.2.fd = fd).map (fun x =>
          (x.2.thread, whenFound fd r (r.found fd k) x)) =
        ((r.slab.entryAt? k).toList.filter fun x => x.2.fd = fd).mapIdx fun j x =>
          (x.2.thread, whenFound fd r ((r.found fd (k + 1)).take (j + (r.found fd k).length)) x) := by
      rw [found_succ]
      -- at most one entry is found in slot `k`
      cases hk : r.slab.entryAt? k with
      | none => rfl
      | some x => by_cases hfd : x.2.fd = fd <;> simp [hfd]
    calc moments fd (List.range (k + 1)) (0, r)
        = moments fd (List.range k) (0, r) ++
            (momentAt fd ((List.range k).foldl (scanSlot fd) (0, r)).2 k).toList := by
          rw [List.range_succ, moments_append, moments, moments, List.append_nil]
      _ = ((r.found fd k).mapIdx fun j x =>
              (x.2.thread, whenFound fd r ((r.found fd (k + 1)).take j) x)) ++
            ((r.slab.entryAt? k).toList.filter fun x => x.2.fd = fd).mapIdx fun j x =>
              (x.2.thread,
                whenFound fd r ((r.found fd (k + 1)).take (j + (r.found fd k).length)) x) := by
          rw [ih, hearlier, hscan, momentAt_sweep fd h, hlatest]
      _ = (r.found fd (k + 1)).mapIdx fun j x =>
            (x.2.thread, whenFound fd r ((r.found fd (k + 1)).take j) x) := by
          conv_rhs => arg 2; rw [found_succ]
          rw [List.mapIdx_append]

/-! ### A scan over a watched mechanism -/

/-- From `q` a scan of `r` calls for its `k`-th wake, counted from zero. -/
structure AtCall (fd : Descriptor) (r : Registry (Watched σ)) (k : ℕ) (q : Registry (Watched σ)) :
    Prop where
  calls : q.mechanism.calls =
    r.mechanism.calls ++ ((r.targets fd).take k).map fun x => .wake x.2.thread fd
  marked : ∀ j x, j ≤ k → (r.targets fd)[j]? = some x → q.signaled x.1 = true
  waiting : ∀ j x, k < j → (r.targets fd)[j]? = some x → q.signaled x.1 = r.signaled x.1
  other : ∀ id, (∀ x ∈ r.targets fd, x.1 ≠ id) → q.slab.get? id = r.slab.get? id

/-- What a scan comes to, call by call and in the end. -/
structure Scanned (fd : Descriptor) (r : Registry (Watched σ)) : Prop where
  /-- The wakes are for the live guards on the descriptor and for no other. -/
  targets : ∀ id e, (id, e) ∈ r.targets fd ↔ r.slab.get? id = some e ∧ e.fd = fd
  order : (r.targets fd).Pairwise fun x y => x.1.slot < y.1.slot
  count : (r.wakeBlocked fd).1 = (r.targets fd).length
  calls : (r.wakeBlocked fd).2.mechanism.calls =
    r.mechanism.calls ++ (r.targets fd).map fun x => .wake x.2.thread fd
  /-- Each step of the scan makes the wake of its moment. -/
  steps : ∀ (s : ℕ × Registry (Watched σ)) i,
    scanSlot fd s i = (momentAt fd s.2 i).elim s fun x => (s.1 + 1, x.2.wakeNow fd x.1)
  moments : (moments fd r.slab.indices (0, r)).length = (r.targets fd).length
  moment : ∀ k x, (r.targets fd)[k]? = some x →
    ∃ q, (Registry.moments fd r.slab.indices (0, r))[k]? = some (x.2.thread, q) ∧ AtCall fd r k q
  marked : Slab.OnlyMarked fd r.slab (r.wakeBlocked fd).2.slab

lemma get?_whenFound (fd : Descriptor) (r : Registry σ) (xs : List (GuardId × Entry))
    (x : GuardId × Entry) (id : GuardId) :
    (whenFound fd r xs x).slab.get? id =
      if id.slot.toNat < x.1.slot.toNat + 1 then (r.slab.get? id).map (·.onClose fd)
      else r.slab.get? id := Slab.get?_sweep fd _ id

lemma atCall_whenFound (fd : Descriptor) {r : Registry (Watched σ)} (h : r.slab.Tidy) {k : ℕ}
    {x : GuardId × Entry} (hx : (r.targets fd)[k]? = some x) :
    AtCall fd r k (whenFound fd r ((r.targets fd).take k) x) := by
  have hlive : ∀ {j : ℕ} {y : GuardId × Entry}, (r.targets fd)[j]? = some y →
      r.slab.get? y.1 = some y.2 ∧ y.2.fd = fd := fun hy =>
    (mem_targets h).mp (List.mem_of_getElem? hy)
  refine ⟨?_, ?_, ?_, ?_⟩
  · rw [whenFound, mechanism_note, mechanism_withSlab, mechanism_foldl_alert,
      ← Watched.calls_replay, Contact.replay, List.foldl_map]
    rfl
  · intro j y hjk hy
    have hslot : y.1.slot.toNat < x.1.slot.toNat + 1 := by
      rcases hjk.lt_or_eq with hjk | rfl
      · exact Nat.lt_succ_of_lt (slot_lt_of_lt fd h hjk hy hx)
      · rw [Option.some.inj (hy.symm.trans hx)]
        exact Nat.lt_succ_self _
    refine Slab.signaled_eq_true.mpr ⟨y.2.onClose fd, ?_, by simp [(hlive hy).2]⟩
    rw [get?_whenFound, if_pos hslot, (hlive hy).1, Option.map_some]
  · intro j y hkj hy
    have hslot := slot_lt_of_lt fd h hkj hx hy
    rw [signaled, signaled, Slab.signaled, Slab.signaled, get?_whenFound, if_neg (by omega)]
  · intro id hid
    rw [get?_whenFound]
    split
    · cases he : r.slab.get? id with
      | none => rfl
      | some e =>
        have hfd : e.fd ≠ fd := fun hfd => hid (id, e) ((mem_targets h).mpr ⟨he, hfd⟩) rfl
        rw [Option.map_some, Entry.onClose, if_neg hfd]
    · rfl

/-- Every scan goes that way, whatever is blocked and whatever comes of the wakes. -/
lemma scanned_of_tidy (fd : Descriptor) {r : Registry (Watched σ)} (h : r.slab.Tidy) :
    Scanned fd r := by
  have hmoments := moments_range fd h r.slab.slots.written.size
  rw [found_size] at hmoments
  refine ⟨fun id e => mem_targets h, pairwise_targets fd h, ?_, calls_wakeBlocked fd r h,
    scanSlot_eq_momentAt fd, ?_, ?_, ?_⟩
  · rw [wakeBlocked_eq fd r h]
  · rw [Slab.indices, hmoments, List.length_mapIdx]
  · intro k x hx
    refine ⟨_, ?_, atCall_whenFound fd h hx⟩
    rw [Slab.indices, hmoments, List.getElem?_mapIdx, hx, Option.map_some]
  · rw [slab_wakeBlocked fd r h]
    exact Slab.onlyMarked_onClose fd r.slab

end Registry

end AsyncClose
