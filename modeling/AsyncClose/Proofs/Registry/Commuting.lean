import AsyncClose.Mechanism.Recorder
import AsyncClose.Proofs.Log.Channels
import AsyncClose.Proofs.Program.Steps
import AsyncClose.Proofs.Scene.Interleaved
import AsyncClose.Proofs.Slab.Commuting

/-!
Wakes in any order.

A wake marks entries, which neither takes a thread off a descriptor nor puts one on it, and pushes
pairs, which a second push leaves as they are. So two wakes find the same threads in either order.
They push the same pairs, even if a thread blocks on both descriptors and its one pair is pushed by
both, or takes no byte at all.
-/

namespace AsyncClose

namespace WakePair

/-- A push that put a byte under way is not followed by another one, and one that failed fails
again. -/
lemma push_push (p : WakePair) : p.push.1.push.1 = p.push.1 := by
  obtain ⟨_ | _, queued, _ | _⟩ := p <;> rfl

def pushAll (is : List ℕ) (ps : List WakePair) : List WakePair :=
  ps.mapIdx fun i p => if i ∈ is then p.push.1 else p

lemma getElem?_pushAll (is : List ℕ) (ps : List WakePair) (i : ℕ) :
    (pushAll is ps)[i]? = ps[i]?.map fun p => if i ∈ is then p.push.1 else p := List.getElem?_mapIdx

lemma pushAll_nil (ps : List WakePair) : pushAll [] ps = ps := by
  refine List.ext_getElem? fun i => ?_
  simp [getElem?_pushAll]

lemma pushAll_cons (i : ℕ) (is : List ℕ) (ps : List WakePair) :
    pushAll (i :: is) ps = pushAll is (ps.modify i fun p => p.push.1) := by
  refine List.ext_getElem? fun j => ?_
  rw [getElem?_pushAll, getElem?_pushAll, List.getElem?_modify, Option.map_eq_map,
    Option.map_map]
  refine congrArg (Option.map · ps[j]?) (funext fun p => ?_)
  by_cases hij : i = j
  · subst hij
    by_cases hi : i ∈ is <;> simp [hi, push_push]
  · simp [hij, Ne.symm hij]

lemma pushAll_comm (is js : List ℕ) (ps : List WakePair) :
    pushAll js (pushAll is ps) = pushAll is (pushAll js ps) := by
  refine List.ext_getElem? fun i => ?_
  simp only [getElem?_pushAll, Option.map_map]
  refine congrArg (Option.map · ps[i]?) (funext fun p => ?_)
  by_cases hi : i ∈ is <;> by_cases hj : i ∈ js <;> simp [hi, hj]

lemma pushAll_pushAll (is : List ℕ) (ps : List WakePair) :
    pushAll is (pushAll is ps) = pushAll is ps := by
  refine List.ext_getElem? fun i => ?_
  simp only [getElem?_pushAll, Option.map_map]
  refine congrArg (Option.map · ps[i]?) (funext fun p => ?_)
  by_cases hi : i ∈ is <;> simp [hi, push_push]

end WakePair

namespace WakeChannels

variable {κ : Type}

def rung (s : WakeChannels κ) (ts : List Thread) : List ℕ :=
  ts.filterMap fun t => (s.channels.get? t).map (·.pair.index)

/-- Wakes of any threads leave the channels alone and push the pairs of those that have one. -/
lemma foldl_wake [ForcedClose κ] (fd : Descriptor) (ts : List Thread) (s : WakeChannels κ) :
    (ts.foldl (fun m t => (m.wake t fd).2.1) s).channels = s.channels ∧
      (ts.foldl (fun m t => (m.wake t fd).2.1) s).pairs =
        WakePair.pushAll (s.rung ts) s.pairs := by
  induction ts generalizing s with
  | nil => exact ⟨rfl, (WakePair.pushAll_nil s.pairs).symm⟩
  | cons t ts ih =>
    have hcalled : Called s (.wake t fd) (s.wake t fd).2.1 := called s (.wake t fd)
    obtain ⟨hchannels, hpairs⟩ := ih (s.wake t fd).2.1
    rw [List.foldl_cons]
    generalize (s.wake t fd).2.1 = s' at hcalled hchannels hpairs ⊢
    rw [hchannels, hpairs, rung, rung, List.filterMap_cons]
    cases hcalled with
    | rung _ _ c closer hc =>
      rw [hc]
      exact ⟨rfl, (WakePair.pushAll_cons _ _ _).symm⟩
    | missed _ _ closer hc =>
      rw [hc]
      exact ⟨rfl, rfl⟩

end WakeChannels

namespace Registry

/-- The threads blocked on a descriptor, in slot order, each as often as it blocks on it. -/
def callers {σ : Type} (fd : Descriptor) (r : Registry σ) : List Thread :=
  (r.targets fd).map (·.2.thread)

section

variable {σ : Type} [Mechanism σ] {r : Registry σ}

lemma wakeBlocked_fst (h : r.slab.Tidy) (a : Descriptor) :
    (r.wakeBlocked a).1 = (r.callers a).length := by
  rw [wakeBlocked_eq a r h, callers, List.length_map]

/-- A wake sets marks only, so the same threads are found after it. -/
lemma callers_wakeBlocked (h : r.slab.Tidy) (a b : Descriptor) :
    (r.wakeBlocked a).2.callers b = r.callers b := by
  have hkeeps (x : GuardId × Entry) : decide ((x.2.onClose a).fd = b) = decide (x.2.fd = b) := by
    rw [Entry.fd_onClose]
  rw [callers, callers, targets, targets, blocked, blocked, slab_wakeBlocked a r h,
    Slab.entries_onClose, List.filter_map, List.map_map]
  simp only [Function.comp_def, hkeeps, Entry.thread_onClose]

lemma tidy_wakeBlocked (h : r.slab.Tidy) (a : Descriptor) : (r.wakeBlocked a).2.slab.Tidy := by
  rw [slab_wakeBlocked a r h]
  exact Slab.tidy_onClose a h

end

variable {κ : Type} [ForcedClose κ] {r : Registry (WakeChannels κ)}

lemma channels_wakeBlocked (h : r.slab.Tidy) (a : Descriptor) :
    (r.wakeBlocked a).2.mechanism.channels = r.mechanism.channels := by
  have hwakes := WakeChannels.foldl_wake a (r.callers a) r.mechanism
  rw [callers, List.foldl_map] at hwakes
  rw [mechanism_wakeBlocked a r h]
  exact hwakes.1

lemma pairs_wakeBlocked (h : r.slab.Tidy) (a : Descriptor) :
    (r.wakeBlocked a).2.mechanism.pairs =
      WakePair.pushAll (r.mechanism.rung (r.callers a)) r.mechanism.pairs := by
  have hwakes := WakeChannels.foldl_wake a (r.callers a) r.mechanism
  rw [callers, List.foldl_map] at hwakes
  rw [mechanism_wakeBlocked a r h]
  exact hwakes.2

/-- A wake pushes the same pairs before another wake and after it. -/
lemma rung_wakeBlocked (h : r.slab.Tidy) (a b : Descriptor) :
    (r.wakeBlocked a).2.mechanism.rung ((r.wakeBlocked a).2.callers b) =
      r.mechanism.rung (r.callers b) := by
  rw [callers_wakeBlocked h, WakeChannels.rung, WakeChannels.rung, channels_wakeBlocked h]

/-- The same slots, the same channels and the same pairs. What has been noted and what has been
forced closed may differ. -/
structure Agrees (r q : Registry (WakeChannels κ)) : Prop where
  slab : r.slab = q.slab
  channels : r.mechanism.channels = q.mechanism.channels
  pairs : r.mechanism.pairs = q.mechanism.pairs

lemma agrees_wakeBlocked_comm (h : r.slab.Tidy) (a b : Descriptor) :
    ((r.wakeBlocked a).2.wakeBlocked b).2.Agrees ((r.wakeBlocked b).2.wakeBlocked a).2 := by
  have ha := tidy_wakeBlocked h a
  have hb := tidy_wakeBlocked h b
  refine ⟨?_, ?_, ?_⟩
  · rw [slab_wakeBlocked b _ ha, slab_wakeBlocked a r h, slab_wakeBlocked a _ hb,
      slab_wakeBlocked b r h, Slab.onClose_comm]
  · rw [channels_wakeBlocked ha, channels_wakeBlocked h, channels_wakeBlocked hb,
      channels_wakeBlocked h]
  · rw [pairs_wakeBlocked ha, rung_wakeBlocked h, pairs_wakeBlocked h, pairs_wakeBlocked hb,
      rung_wakeBlocked h, pairs_wakeBlocked h, WakePair.pushAll_comm]

lemma agrees_wakeBlocked_twice (h : r.slab.Tidy) (a : Descriptor) :
    ((r.wakeBlocked a).2.wakeBlocked a).2.Agrees (r.wakeBlocked a).2 := by
  have ha := tidy_wakeBlocked h a
  refine ⟨?_, channels_wakeBlocked ha a, ?_⟩
  · rw [slab_wakeBlocked a _ ha, slab_wakeBlocked a r h, Slab.onClose_onClose]
  · rw [pairs_wakeBlocked ha, rung_wakeBlocked h, pairs_wakeBlocked h, WakePair.pushAll_pushAll]

end Registry

/-! ### Whatever happened before -/

/-- What can happen to a registry over wake channels. The steps on guards and the scans come as a
whole, or in the parts that other threads can come between. -/
inductive Incident (κ : Type)
  | step (x : Step)
  | enter (t : Thread) (canOpen : Bool)
  | register (fd : Descriptor) (t : Thread)
  | unregister (id : GuardId)
  | leave (t : Thread)
  /-- A scan looks at one slot. -/
  | look (fd : Descriptor) (i : ℕ)
  /-- A thread is interrupted, blocked or not. -/
  | interrupt (t : Thread) (fd : Descriptor)
  /-- Somebody acts on a pair. -/
  | touch (p : PairId) (a : PairAction)
  /-- What forces descriptors closed has become something else. -/
  | replace (closer : κ)

namespace Incident

variable {κ : Type} [ForcedClose κ]

def apply : Incident κ → Registry (WakeChannels κ) → Registry (WakeChannels κ)
  | step x, r => x.apply r
  | enter t canOpen, r => r.enter t canOpen
  | register fd t, r => (r.register fd t).2
  | unregister id, r => (r.unregister id).2
  | leave t, r => r.leave t
  | look fd i, r => (Registry.scanSlot fd (0, r) i).2
  | interrupt t fd, r => (r.interrupt t fd).2
  | touch p a, r =>
    let (m, events) := r.mechanism.touch p a
    { r with mechanism := m }.note events
  | replace closer, r => { r with mechanism := { r.mechanism with closer := closer } }

def run (xs : List (Incident κ)) (r : Registry (WakeChannels κ)) : Registry (WakeChannels κ) :=
  xs.foldl (fun r x => x.apply r) r

lemma tidy_apply (x : Incident κ) {r : Registry (WakeChannels κ)} (h : r.slab.Tidy) :
    (x.apply r).slab.Tidy := by
  cases x with
  | step y => exact Registry.kept_tidy.apply y h trivial
  | enter t canOpen => exact h
  | register fd t => exact Slab.tidy_insert h _
  | unregister id => exact Slab.tidy_remove h id
  | leave t => exact h
  | look fd i => exact Scene.tidy_looked h (Scene.looked fd (w := ⟨r, [], []⟩) h i)
  | interrupt t fd => exact h
  | touch p a => exact h
  | replace closer => exact h

lemma tidy_run (xs : List (Incident κ)) {r : Registry (WakeChannels κ)} (h : r.slab.Tidy) :
    (run xs r).slab.Tidy := by
  induction xs generalizing r with
  | nil => exact h
  | cons x xs ih => exact ih (tidy_apply x h)

end Incident

namespace Registry

/-- **Wakes commute, and one is enough.** Over wake channels, whatever happened before, and whether
or not descriptors can be forced closed: two wakes, in either order, try the same numbers of
threads and lead to the same slots, channels and pairs, and so does one wake made twice. To the
slots it makes no difference either whether a guard goes out before a wake or after it, or whether
a guard on another descriptor comes in before it or after it. -/
theorem wakes_commute {κ : Type} [ForcedClose κ] (capacity : ℕ) (closer : κ)
    (xs : List (Incident κ)) (a b : Descriptor) :
    let r := Incident.run xs (.ofCapacity capacity (.ofCloser closer))
    let ra := (r.wakeBlocked a).2
    let rb := (r.wakeBlocked b).2
    ((ra.wakeBlocked b).1 = (r.wakeBlocked b).1 ∧ (rb.wakeBlocked a).1 = (r.wakeBlocked a).1 ∧
        (ra.wakeBlocked b).2.Agrees (rb.wakeBlocked a).2) ∧
      ((ra.wakeBlocked a).1 = (r.wakeBlocked a).1 ∧ (ra.wakeBlocked a).2.Agrees ra) ∧
      (∀ g : Guard, (ra.unregister g.id).1 = (r.unregister g.id).1 ∧
        (ra.release g).slab = ((r.release g).wakeBlocked a).2.slab) ∧
      ∀ t fd canOpen, fd ≠ a → (ra.acquire t fd canOpen).1 = (r.acquire t fd canOpen).1 ∧
        (ra.acquire t fd canOpen).2.slab = ((r.acquire t fd canOpen).2.wakeBlocked a).2.slab := by
  intro r ra rb
  have h : r.slab.Tidy := Incident.tidy_run xs (Slab.tidy_ofCapacity capacity)
  have hcount (c d : Descriptor) :
      ((r.wakeBlocked c).2.wakeBlocked d).1 = (r.wakeBlocked d).1 := by
    rw [wakeBlocked_fst (tidy_wakeBlocked h c), callers_wakeBlocked h, wakeBlocked_fst h]
  have hslab : ra.slab = r.slab.onClose a := slab_wakeBlocked a r h
  refine ⟨⟨hcount a b, hcount b a, agrees_wakeBlocked_comm h a b⟩,
    ⟨hcount a a, agrees_wakeBlocked_twice h a⟩, fun g => ?_, fun t fd canOpen hfd => ?_⟩
  · obtain ⟨hanswer, hleft⟩ := Slab.remove_onClose r.slab a g.id
    have htidy : (r.release g).slab.Tidy := Slab.tidy_remove h g.id
    rw [slab_wakeBlocked a _ htidy, slab_release, slab_release, hslab]
    refine ⟨?_, hleft⟩
    calc (ra.unregister g.id).1 = (ra.slab.remove g.id).1.isSome := rfl
      _ = (r.slab.remove g.id).1.isSome := by rw [hslab, hanswer]
  · have hinsert := Slab.insert_onClose r.slab a (e := ⟨fd, t, false⟩) hfd
    have htidy : (r.acquire t fd canOpen).2.slab.Tidy := Slab.tidy_insert h _
    rw [slab_wakeBlocked a _ htidy, acquire_fst, acquire_fst, slab_acquire, slab_acquire, hslab,
      hinsert]
    exact ⟨rfl, rfl⟩

/-- Forcing a descriptor closed always fails. -/
def refusing : CloseRecorder := ⟨[], .ofOutcomes [some (.os .badDescriptor)]⟩

/-- A thread blocks on two descriptors, and another one, whose pair takes no bytes, on the first of
them. -/
def entangling : List (Incident CloseRecorder) :=
  [.step (.acquire ⟨0⟩ (.raw 5) true), .step (.acquire ⟨0⟩ (.raw 6) true),
    .step (.acquire ⟨1⟩ (.raw 5) true), .touch ⟨1⟩ .shutdown]

def entangled : Registry (WakeChannels CloseRecorder) :=
  Incident.run entangling (.ofCapacity 1 (.ofCloser refusing))

/-- Both wakes push the one pair of the first thread, and the pair of the second one stays as it is.
A guard on a third descriptor comes in before the first wake or after it. -/
theorem wakes_commute_entangled :
    (entangled.wakeBlocked (.raw 5)).1 = 2 ∧
      ((entangled.wakeBlocked (.raw 5)).2.wakeBlocked (.raw 6)).1 = 1 ∧
      ((entangled.wakeBlocked (.raw 5)).2.wakeBlocked (.raw 6)).2.mechanism.pairs =
        [⟨true, 1, false⟩, ⟨false, 0, true⟩] ∧
      ((entangled.wakeBlocked (.raw 6)).2.wakeBlocked (.raw 5)).2.mechanism.pairs =
        [⟨true, 1, false⟩, ⟨false, 0, true⟩] ∧
      Descriptor.raw 7 ≠ .raw 5 ∧
      ((entangled.wakeBlocked (.raw 5)).2.acquire ⟨1⟩ (.raw 7) true).2.slab =
        ((entangled.acquire ⟨1⟩ (.raw 7) true).2.wakeBlocked (.raw 5)).2.slab := by
  obtain ⟨⟨-, -, hagrees⟩, -, -, hacquire⟩ :=
    wakes_commute 1 refusing entangling (.raw 5) (.raw 6)
  have hne : Descriptor.raw 7 ≠ .raw 5 := by decide
  have hpairs : ((entangled.wakeBlocked (.raw 5)).2.wakeBlocked (.raw 6)).2.mechanism.pairs =
      [⟨true, 1, false⟩, ⟨false, 0, true⟩] := by
    decide +kernel
  exact ⟨by decide +kernel, by decide +kernel, hpairs, hagrees.pairs.symm.trans hpairs, hne,
    (hacquire ⟨1⟩ (.raw 7) true hne).2⟩

/-- A guard on the very descriptor is told of the close only if it came in before it. -/
example :
    let before := entangled.acquire ⟨1⟩ (.raw 5) true
    let after := (entangled.wakeBlocked (.raw 5)).2.acquire ⟨1⟩ (.raw 5) true
    before.1 = after.1 ∧ (before.2.wakeBlocked (.raw 5)).2.signaled before.1.id = true ∧
      after.2.signaled after.1.id = false := by
  decide +kernel

end Registry

end AsyncClose
