import AsyncClose.Proofs.Log.Trouble
import AsyncClose.Proofs.Program.Steps
import AsyncClose.Proofs.Registry.Moments
import AsyncClose.Proofs.Stream.Finality

/-!
Scans in the course of a program, and the forced closes they come to.

Every wake of a scan forces the descriptor closed once, whether the thread has a channel and whether
a byte could be sent. So the forced closes are as many as the scans have counted, in all.
-/

namespace AsyncClose

/-! ### Forced closes under observation -/

/-- What forces descriptors closed, and the forced closes it was called for, oldest first. -/
structure WatchedClose (κ : Type) where
  closer : κ
  closes : List (Thread × Descriptor)

instance {κ : Type} [ForcedClose κ] : ForcedClose (WatchedClose κ) where
  close t fd s :=
    let (r, closer) := ForcedClose.close t fd s.closer
    (r, ⟨closer, s.closes ++ [(t, fd)]⟩)

namespace Troubled

variable {κ : Type}

/-- Wake channels in trouble from the start, whose forced closes are watched. -/
def watch (closer : κ) (openings : List Bool) (meddling : List (List (PairId × PairAction))) :
    Troubled (WatchedClose κ) := ⟨.ofCloser ⟨closer, []⟩, openings, meddling⟩

def closes (s : Troubled (WatchedClose κ)) : List (Thread × Descriptor) :=
  s.channels.closer.closes

end Troubled

lemma WakeChannels.closer_meddle {κ : Type} (actions : List (PairId × PairAction))
    (s : WakeChannels κ) : (meddle actions s).1.closer = s.closer := by
  induction actions generalizing s with
  | nil => rfl
  | cons x rest ih =>
    have htouch : (s.touch x.1 x.2).1.closer = s.closer := by
      unfold touch
      split <;> rfl
    exact (ih _).trans htouch

namespace Troubled

variable {κ : Type} (s : Troubled (WatchedClose κ))

lemma closes_meddled : s.meddled.1.closes = s.closes :=
  congrArg WatchedClose.closes (WakeChannels.closer_meddle _ _)

variable [ForcedClose κ] (t : Thread)

lemma closes_enter (canOpen : Bool) : (Mechanism.enter t canOpen s).1.closes = s.closes := by
  refine Eq.trans ?_ s.closes_meddled
  exact congrArg WatchedClose.closes (WakeChannels.closer_enter (WakeChannels.called _ (.enter t _)))

lemma closes_leave : (Mechanism.leave t s).1.closes = s.closes := by
  refine Eq.trans ?_ s.closes_meddled
  exact congrArg WatchedClose.closes (WakeChannels.closer_leave (WakeChannels.called _ (.leave t)))

/-- A wake forces its descriptor closed once. -/
lemma closes_wake (fd : Descriptor) :
    (Mechanism.wake t fd s).2.1.closes = s.closes ++ [(t, fd)] := by
  rw [← s.closes_meddled]
  exact congrArg WatchedClose.closes (WakeChannels.closer_wake _ t fd)

end Troubled

namespace Registry

variable {κ : Type} [ForcedClose κ]

lemma closes_acquire (r : Registry (Troubled (WatchedClose κ))) (t : Thread) (fd : Descriptor)
    (canOpen : Bool) : (r.acquire t fd canOpen).2.mechanism.closes = r.mechanism.closes :=
  r.mechanism.closes_enter t canOpen

lemma closes_release (r : Registry (Troubled (WatchedClose κ))) (g : Guard) :
    (r.release g).mechanism.closes = r.mechanism.closes := r.mechanism.closes_leave g.thread

/-- A scan forces the descriptor closed for each guard it counts. -/
lemma closes_wakeBlocked (fd : Descriptor) {r : Registry (Troubled (WatchedClose κ))}
    (h : r.slab.Tidy) :
    (r.wakeBlocked fd).2.mechanism.closes =
      r.mechanism.closes ++ (r.targets fd).map fun x => (x.2.thread, fd) := by
  rw [mechanism_wakeBlocked fd r h]
  generalize r.mechanism = m
  induction r.targets fd generalizing m with
  | nil => simp
  | cons x xs ih => simp [ih, Troubled.closes_wake]

end Registry

/-! ### What the scans count -/

namespace Step

/-- What the scans among the steps answer. -/
def counts {σ : Type} [Mechanism σ] : List Step → Registry σ → List ℕ
  | [], _ => []
  | wake fd :: xs, r => (r.wakeBlocked fd).1 :: counts xs (r.wakeBlocked fd).2
  | x :: xs, r => counts xs (x.apply r)

/-- The forced closes are as many as the scans have counted. -/
lemma length_closes {κ : Type} [ForcedClose κ] (xs : List Step)
    {r : Registry (Troubled (WatchedClose κ))} (h : r.slab.Tidy) :
    (perform xs r).mechanism.closes.length = r.mechanism.closes.length + (counts xs r).sum := by
  induction xs generalizing r with
  | nil => rfl
  | cons x xs ih =>
    rw [perform_cons, ih (Registry.kept_tidy.apply x h trivial)]
    cases x with
    | acquire t fd canOpen => simp only [counts, apply, Registry.closes_acquire]
    | release g => simp only [counts, apply, Registry.closes_release]
    | wake fd =>
      rw [counts, List.sum_cons, apply, Registry.closes_wakeBlocked fd h, List.length_append,
        List.length_map, Registry.wakeBlocked_eq fd r h, Nat.add_assoc]
    | install => rfl
    | retry fd => rfl

end Step

namespace Program

variable {σ ω α : Type} [Mechanism σ]

/-- **A scan from end to end.** At every point of every program, over any mechanism and whatever its
wakes answer: a scan wakes for each live guard on the descriptor, in slot order; at each call the
guards found so far are marked and those to come are not touched; it counts the guards it woke for,
and in the end their marks are set and nothing else has changed. What the wakes answer makes no
difference. Over wake channels, each wake forces the descriptor closed once, in whatever trouble the
channels are, and the forced closes of a whole program are as many as its scans have counted. -/
theorem scan_end_to_end {κ τ : Type} [ForcedClose κ] [Mechanism τ] (c : ℕ) (m : σ) (m' : τ)
    (closer : κ) (openings : List Bool) (meddling : List (List (PairId × PairAction)))
    (p : Program ω α) (fd : Descriptor) :
    (∀ r ∈ p.points (.ofCapacity c (Watched.watch m)),
      Registry.Scanned fd r ∧
        ((Registry.mk r.slab m' r.log).wakeBlocked fd).1 = (r.wakeBlocked fd).1 ∧
        ((Registry.mk r.slab m' r.log).wakeBlocked fd).2.slab = (r.wakeBlocked fd).2.slab) ∧
      (∀ (s : Troubled (WatchedClose κ)) t,
        (Mechanism.wake t fd s).2.1.closes = s.closes ++ [(t, fd)]) ∧
      (∀ r ∈ p.points (.ofCapacity c (Troubled.watch closer openings meddling)),
        (r.wakeBlocked fd).2.mechanism.closes =
          r.mechanism.closes ++ (r.targets fd).map fun x => (x.2.thread, fd)) ∧
      (p.exec (.ofCapacity c (Troubled.watch closer openings meddling))).2.1.mechanism.closes.length =
        (Step.counts (p.steps (.ofCapacity c (Troubled.watch closer openings meddling)))
          (.ofCapacity c (Troubled.watch closer openings meddling))).sum := by
  refine ⟨fun r hr => ?_, fun s t => s.closes_wake t fd, fun r hr => ?_, ?_⟩
  · have htidy := (Registry.kept_tidy.points p (Slab.tidy_ofCapacity c) fun _ _ => trivial).1 r hr
    have hsame : (Registry.mk r.slab m' r.log).targets fd = r.targets fd := rfl
    refine ⟨Registry.scanned_of_tidy fd htidy, ?_, ?_⟩
    · rw [Registry.wakeBlocked_eq fd r htidy, Registry.wakeBlocked_eq fd (.mk r.slab m' r.log) htidy,
        hsame]
    · rw [Registry.slab_wakeBlocked fd r htidy,
        Registry.slab_wakeBlocked fd (.mk r.slab m' r.log) htidy]
  · have htidy := (Registry.kept_tidy.points p (Slab.tidy_ofCapacity c) fun _ _ => trivial).1 r hr
    exact Registry.closes_wakeBlocked fd htidy
  · rw [exec_eq_perform, Step.length_closes _ (Slab.tidy_ofCapacity c)]
    exact Nat.zero_add _

/-- Two threads are blocked, one of them twice, and a third one closes the descriptor it is about to
block on. -/
def crowd : Program Unit ℕ :=
  .acquire ⟨0⟩ (.raw 5) true fun _ =>
    .acquire ⟨1⟩ (.raw 6) true fun _ =>
      .acquire ⟨0⟩ (.raw 5) true fun _ =>
        .wake (.raw 5) fun _ =>
          .run ⟨2⟩ (.raw 5) [fun _ s => .wake (.raw 5) fun n => .finish (.returned (.ok n)) s]
            () fun e s => .finish (e.getD (.panicked "unfinished")) s

/-- All wakes and all forced closes fail, one thread has no channel and the channel of the other is
shut down: two guards are counted, then three, and the descriptor is forced closed five times. -/
theorem scan_end_to_end_crowd :
    let m := WakeRecorder.mk [] (.ofOutcomes [some (.os .noSuchProcess)])
    let closer := CloseRecorder.mk [] (.ofOutcomes [some (.os .badDescriptor)])
    let trouble := Troubled.watch closer [true, false] [[], [], [], [(⟨0⟩, .shutdown)]]
    (∀ r ∈ crowd.points (.ofCapacity 1 (Watched.watch m)), Registry.Scanned (.raw 5) r) ∧
      Step.counts (crowd.steps (.ofCapacity 1 trouble)) (.ofCapacity 1 trouble) = [2, 3] ∧
      (crowd.exec (.ofCapacity 1 trouble)).2.1.mechanism.closes.length = 5 := by
  intro m closer trouble
  obtain ⟨hscans, -, -, hcloses⟩ := scan_end_to_end 1 m m closer [true, false]
    [[], [], [], [(⟨0⟩, .shutdown)]] crowd (.raw 5)
  have hcounts :
      Step.counts (crowd.steps (.ofCapacity 1 trouble)) (.ofCapacity 1 trouble) = [2, 3] := by
    decide +kernel
  refine ⟨fun r hr => (hscans r hr).1, hcounts, ?_⟩
  rw [hcloses, hcounts]
  rfl

end Program

end AsyncClose
