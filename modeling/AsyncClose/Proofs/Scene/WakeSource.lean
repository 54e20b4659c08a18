import AsyncClose.Mechanism.Recorder
import AsyncClose.Proofs.Mechanism.Channels
import AsyncClose.Proofs.Scene.Brackets

/-!
What a woken thread can wait on.

While pairs can be made, a thread owns a channel as long as it is inside, so a scan always finds
one to push, and it is the pair that every live guard of the thread reports. The byte stays until
the thread leaves, whichever of its episodes that ends. So a guard that is signaled may find
nothing to read any more, if another guard of its thread was released after the last wake.
-/

namespace AsyncClose

namespace Scene

/-! ### Every mark comes from a wake -/

section

variable {σ : Type}

def Marked (w : Scene σ) : Prop :=
  ∀ id e, w.registry.slab.get? id = some e → e.signaled = true → .wake e.thread e.fd ∈ w.trace

lemma marked_moved {w : Scene σ} {n : ℕ} {x : Episode} {s : Stage} {r : Registry σ}
    {cs : List Contact}
    (h : ∀ id e, r.slab.get? id = some e → e.signaled = true → w.registry.slab.get? id = some e)
    (hm : w.Marked) : (w.moved n x s r cs).Marked := fun id e he hs =>
  List.mem_append_left _ (hm id e (h id e he hs) hs)

variable [Mechanism σ]

lemma marked_stepped {v v' : Scene σ} (h : v.registry.slab.Tidy) (hm : v.Marked)
    (hs : Stepped v v') : v'.Marked := by
  cases hs with
  | idle => exact hm
  | enter t fd canOpen => exact fun id e he hs => List.mem_append_left _ (hm id e he hs)
  | register n x hx hs =>
    refine marked_moved (fun id e he hsig => ?_) hm
    rcases Slab.get?_insert_cases h he with ⟨-, rfl⟩ | hold
    · simp at hsig
    · exact hold
  | forget n x id hx hs => exact marked_moved (fun _ _ he _ => he) hm
  | unregister n x id hx hs =>
    refine marked_moved (fun id' e he _ => ?_) hm
    rw [Registry.slab_unregister, Slab.get?_remove] at he
    split at he
    · simp at he
    · exact he
  | leave n x id hx hs => exact marked_moved (fun _ _ he _ => he) hm
  | wake fd =>
    intro id e he hs
    dsimp only at he ⊢
    rw [Registry.get?_wakeBlocked fd _ h] at he
    obtain ⟨e, hold, rfl⟩ := Option.map_eq_some_iff.mp he
    rw [Entry.signaled_onClose, Bool.or_eq_true, decide_eq_true_iff] at hs
    rw [Entry.thread_onClose, Entry.fd_onClose, List.mem_append]
    rcases hs with hs | hs
    · exact .inl (hm id e hold hs)
    · exact .inr ((mem_wakes h).mpr ⟨id, e, hold, hs, by rw [hs]⟩)

lemma marked_run (capacity : ℕ) (m : σ) (ms : List Move) :
    ((start capacity m).run ms).Marked := by
  refine (run_induction (P := fun w => w.registry.slab.Tidy ∧ w.Marked)
    ⟨tidy_start capacity m, ?_⟩ ?_ ms).2
  · intro id e he
    rw [get?_start] at he
    simp at he
  · exact fun v v' h hs => ⟨tidy_stepped h.1 hs, marked_stepped h.1 h.2 hs⟩

lemma mem_trace_step {w : Scene σ} {m : Move} {t : Thread} {canOpen : Bool}
    (hw : w.registry.slab.Tidy) (h : .enter t canOpen ∈ (w.step m).trace) :
    .enter t canOpen ∈ w.trace ∨ ∃ fd, m = .enter t fd canOpen := by
  cases m with
  | enter u fd b =>
    simp only [step, List.mem_append, List.mem_singleton, Contact.enter.injEq] at h
    rcases h with h | ⟨rfl, rfl⟩
    · exact .inl h
    · exact .inr ⟨fd, rfl⟩
  | register n => simp only [step] at h; split at h <;> simp_all [moved]
  | forget n => simp only [step] at h; split at h <;> simp_all [moved]
  | unregister n => simp only [step] at h; split at h <;> simp_all [moved]
  | leave n => simp only [step] at h; split at h <;> simp_all [moved]
  | wake fd =>
    simp only [step, List.mem_append, mem_wakes hw] at h
    rcases h with h | ⟨id, e, -, -, heq⟩
    · exact .inl h
    · simp at heq

end

/-! ### Over wake channels -/

variable {κ : Type} [ForcedClose κ]

/-- No pair was ever refused to an episode. -/
def Opens (ms : List Move) : Prop := ∀ t fd, Move.enter t fd false ∉ ms

lemma unrefused_run {ms : List Move} (h : Opens ms) (capacity : ℕ) (m : WakeChannels κ) :
    WakeChannels.Unrefused ((start capacity m).run ms).trace := by
  induction ms using List.reverseRecOn with
  | nil => intro t ht; simp [start] at ht
  | append_singleton ms a ih =>
    intro t ht
    rw [run_append, run_singleton] at ht
    rcases mem_trace_step (tidy_run (tidy_start capacity m) ms) ht with ht | ⟨fd, rfl⟩
    · exact ih (fun u fd hm => h u fd (by simp [hm])) t ht
    · exact h t fd (by simp)

def overChannels (closer : κ) (capacity : ℕ) (ms : List Move) : Scene (WakeChannels κ) :=
  (start capacity (.ofCloser closer)).run ms

variable (closer : κ) (capacity : ℕ) {ms : List Move}

lemma mechanism_overChannels :
    (overChannels closer capacity ms).registry.mechanism =
      WakeChannels.after closer (overChannels closer capacity ms).trace :=
  mechanism_run capacity _ ms

lemma orderly_overChannels (ms : List Move) : (overChannels closer capacity ms).Orderly :=
  orderly_run capacity _ ms

lemma unrefused_overChannels (hopen : Opens ms) :
    WakeChannels.Unrefused (overChannels closer capacity ms).trace :=
  unrefused_run hopen capacity _

lemma source?_eq (r : Registry (WakeChannels κ)) (t : Thread) :
    r.source? t = (r.mechanism.channels.get? t).map (·.pair) := rfl

/-- A live guard's thread has a pair to wait on. A byte is under way in it if and only if some
wake of the thread was followed by no leave. -/
lemma exists_source (hopen : Opens ms) {id : GuardId} {e : Entry}
    (he : (id, e) ∈ (overChannels closer capacity ms).registry.blocked) :
    ∃ q p, (overChannels closer capacity ms).registry.source? e.thread = some q ∧
      (overChannels closer capacity ms).registry.mechanism.pair? q = some p ∧ p.InStep ∧
      (p.pushed = true ↔
        Contact.Unanswered (fun _ => True) e.thread (overChannels closer capacity ms).trace) := by
  have horder := orderly_overChannels closer capacity ms
  have hun := unrefused_overChannels closer capacity hopen
  have hget := (Slab.mem_entries horder.tidy).mp he
  have hlt := lt_entered_of_get? horder.owned horder.balanced hget
  obtain ⟨c, p, hc, hp⟩ := WakeChannels.exists_channel closer hun horder.bracketed hlt
  obtain ⟨hin, hpushed⟩ := (WakeChannels.told_after closer _ e.thread).in_step
    ((WakeChannels.pairOf?_of_some hc).trans hp)
  rw [WakeChannels.unanswered_owns closer hun horder.bracketed] at hpushed
  refine ⟨c.pair, p, ?_, ?_, hin, hpushed⟩
  · rw [source?_eq, mechanism_overChannels, hc, Option.map_some]
  · rw [mechanism_overChannels, hp]

/-- In a scan for `fd` every wake finds a channel of its thread, and pushes the pair that all live
guards of the thread report. After the wake the flag of the pair is up and its watched end is
readable. -/
def RingsOwnPairs (fd : Descriptor) (w : Scene (WakeChannels κ)) : Prop :=
  ∀ (xs : List (GuardId × Entry)) (x : GuardId × Entry) (ys : List (GuardId × Entry)),
    w.registry.targets fd = xs ++ x :: ys →
    ∃ (r : Registry (WakeChannels κ)) (c : Channel) (p : WakePair),
      r = xs.foldl (Registry.alert fd) w.registry ∧
      r.mechanism.channels.get? x.2.thread = some c ∧ r.mechanism.pair? c.pair = some p ∧
      (r.alert fd x).mechanism.pairs = r.mechanism.pairs.set c.pair.index p.push.1 ∧
      (p.push.1.pushed = true ∧ p.push.1.readable = true) ∧
      ∀ y ∈ w.episodes, y.stage.live?.isSome → y.thread = x.2.thread →
        r.source? y.thread = some c.pair

lemma rings_own_pairs (hopen : Opens ms) (fd : Descriptor) :
    RingsOwnPairs fd (overChannels closer capacity ms) := by
  intro xs x ys hsplit
  have horder := orderly_overChannels closer capacity ms
  have hun := unrefused_overChannels closer capacity hopen
  set w := overChannels closer capacity ms with hw
  -- the calls made before this wake
  have hcalls : w.trace ++ w.wakes fd =
      (w.trace ++ xs.map fun y => Contact.wake y.2.thread fd) ++
        Contact.wake x.2.thread fd :: ys.map fun y => Contact.wake y.2.thread fd := by
    rw [wakes, hsplit]
    simp
  have hbr := horder.bracketed_wakes fd
  have hlt := hbr _ _ _ hcalls
  have hmech : (xs.foldl (Registry.alert fd) w.registry).mechanism =
      WakeChannels.after closer (w.trace ++ xs.map fun y => Contact.wake y.2.thread fd) := by
    rw [Registry.mechanism_foldl_alert, WakeChannels.after, Contact.replay_append,
      ← WakeChannels.after, ← mechanism_overChannels, Contact.replay, List.foldl_map]
    rfl
  have hunx : WakeChannels.Unrefused (w.trace ++ xs.map fun y => Contact.wake y.2.thread fd) := by
    intro t ht
    simp only [List.mem_append, List.mem_map] at ht
    rcases ht with ht | ⟨y, -, hy⟩
    · exact hun t ht
    · simp at hy
  rw [hcalls] at hbr
  obtain ⟨c, p, hc, hp⟩ := WakeChannels.exists_channel closer hunx hbr.of_append hlt
  have hin := ((WakeChannels.told_after closer _ x.2.thread).in_step
    ((WakeChannels.pairOf?_of_some hc).trans hp)).1
  rw [← hmech] at hc hp
  refine ⟨_, c, p, rfl, hc, hp, ?_, ?_, ?_⟩
  · rw [Registry.mechanism_alert]
    exact WakeChannels.pairs_wake_of_some hc hp fd
  · rcases hin with rfl | rfl <;> decide
  · intro y _ _ hy
    rw [hy, source?_eq, hc, Option.map_some]

/-- **Wakes fall inside the brackets.** Whatever the mechanism and the order of steps, the mechanism
has received the calls of the trace, a wake comes only to a thread that has entered more often
than it has left, and no thread leaves more often than it enters. Over wake channels, if no pair
was refused, every wake finds a channel of its thread and pushes the pair that all live guards of
the thread report. The steps are those of guards: an enter and a register in a row acquire one
(`Scene.run_enter_register`), an unregister and a leave in a row release it
(`Scene.run_unregister_leave`). -/
theorem wakes_inside_brackets :
    (∀ (σ : Type) [Mechanism σ] (capacity : ℕ) (m : σ) (ms : List Move),
      ((start capacity m).run ms).registry.mechanism =
          Contact.replay ((start capacity m).run ms).trace m ∧
        (∀ (pre : List Contact) (t : Thread) (fd : Descriptor) (post : List Contact),
          ((start capacity m).run ms).trace = pre ++ Contact.wake t fd :: post →
            Contact.left t pre < Contact.entered t pre) ∧
        ∀ (pre post : List Contact) (t : Thread), ((start capacity m).run ms).trace = pre ++ post →
          Contact.left t pre ≤ Contact.entered t pre) ∧
      (∀ (κ : Type) [ForcedClose κ] (closer : κ) (capacity : ℕ) (ms : List Move), Opens ms →
        ∀ fd, RingsOwnPairs fd (overChannels closer capacity ms)) ∧
      ∀ (σ : Type) [Mechanism σ] (w : Scene σ) (t : Thread) (fd : Descriptor),
        (∀ canOpen, (w.run [.enter t fd canOpen, .register w.episodes.length]).registry =
          (w.registry.acquire t fd canOpen).2) ∧
        ∀ (n : ℕ) (id : GuardId), w.episodes[n]? = some ⟨t, fd, .registered id⟩ →
          (w.run [.unregister n, .leave n]).registry = w.registry.release ⟨id, fd, t⟩ := by
  refine ⟨fun σ _ capacity m ms => ?_,
    fun κ _ closer capacity ms hopen fd => rings_own_pairs closer capacity hopen fd,
    fun σ _ w t fd => ⟨fun canOpen => ?_, fun n id hn => ?_⟩⟩
  · have hbr := (orderly_run capacity m ms).bracketed
    refine ⟨mechanism_run capacity m ms, fun pre t fd post heq => hbr pre _ post heq, ?_⟩
    intro pre post t heq
    rw [heq] at hbr
    exact hbr.of_append.left_le t
  · rw [run_enter_register]
  · rw [run_unregister_leave w hn]

def watched (ms : List Move) : Scene (WakeChannels CloseRecorder) :=
  overChannels (CloseRecorder.mk [] (.ofOutcomes [])) 1 ms

/-- Two nested guards of one thread, and a close of the outer one's descriptor. -/
def nestedWake : List Move :=
  [.enter ⟨0⟩ (.raw 5) true, .register 0, .enter ⟨0⟩ (.raw 6) true, .register 1, .wake (.raw 5)]

/-- After that the inner guard is released. -/
def nestedRelease : List Move := nestedWake ++ [.unregister 1, .leave 1]

lemma opens_nestedRelease : Opens nestedRelease := by
  intro t fd h
  simp [nestedRelease, nestedWake] at h

lemma opens_nestedWake : Opens nestedWake := fun t fd h =>
  opens_nestedRelease t fd (List.mem_append_left _ h)

/-- A second scan finds the outer guard. -/
theorem wakes_inside_brackets_nested :
    RingsOwnPairs (.raw 5) (watched nestedWake) ∧
      (watched nestedWake).registry.targets (.raw 5) = [(⟨0⟩, ⟨.raw 5, ⟨0⟩, true⟩)] :=
  ⟨wakes_inside_brackets.2.1 _ _ _ _ opens_nestedWake _, by decide +kernel⟩

/-- **A wake byte lasts until the thread leaves.** If no pair was refused, the thread of a signaled
live guard has a wake source, and was woken. The source is readable if and only if the thread has
not left since it was last woken, and then its byte is under way. -/
theorem readable_iff_not_left_since_wake (hopen : Opens ms) (id : GuardId) (e : Entry)
    (he : (id, e) ∈ (overChannels closer capacity ms).registry.blocked)
    (hs : e.signaled = true) :
    ∃ (q : PairId) (p : WakePair) (pre : List Contact) (fd : Descriptor) (post : List Contact),
      (overChannels closer capacity ms).registry.source? e.thread = some q ∧
        (overChannels closer capacity ms).registry.mechanism.pair? q = some p ∧
        (overChannels closer capacity ms).trace = pre ++ Contact.wake e.thread fd :: post ∧
        (∀ d, .wake e.thread d ∉ post) ∧
        (p.readable = true ↔ .leave e.thread ∉ post) ∧
        (p.pushed = true ∧ p.queued = 1 ↔ .leave e.thread ∉ post) := by
  obtain ⟨q, p, hq, hp, hin, hpushed⟩ := exists_source closer capacity hopen he
  have hget := (Slab.mem_entries (orderly_overChannels closer capacity ms).tidy).mp he
  have hwoken := marked_run capacity (WakeChannels.ofCloser closer) ms id e hget hs
  obtain ⟨pre, fd, post, htrace, hlast⟩ := Contact.exists_last_wake ⟨_, hwoken⟩
  rw [show (overChannels closer capacity ms).trace = _ from htrace,
    Contact.unanswered_of_last trivial hlast] at hpushed
  refine ⟨q, p, pre, fd, post, hq, hp, htrace, hlast, ?_, ?_⟩
  · rw [← hpushed]
    rcases hin with rfl | rfl <;> decide
  · rw [← hpushed]
    rcases hin with rfl | rfl <;> decide

/-- Before the release the outer guard has its byte. -/
theorem readable_iff_not_left_since_wake_nested :
    ∃ (q : PairId) (p : WakePair) (pre : List Contact) (fd : Descriptor) (post : List Contact),
      (watched nestedWake).registry.source? ⟨0⟩ = some q ∧
        (watched nestedWake).registry.mechanism.pair? q = some p ∧
        (watched nestedWake).trace = pre ++ Contact.wake ⟨0⟩ fd :: post ∧
        (∀ d, .wake ⟨0⟩ d ∉ post) ∧
        (p.readable = true ↔ .leave ⟨0⟩ ∉ post) ∧
        (p.pushed = true ∧ p.queued = 1 ↔ .leave ⟨0⟩ ∉ post) :=
  readable_iff_not_left_since_wake (CloseRecorder.mk [] (.ofOutcomes [])) 1 opens_nestedWake
    ⟨0⟩ ⟨.raw 5, ⟨0⟩, true⟩ (by decide +kernel) rfl

/-- After it the outer guard is still signaled, and its thread has nothing to read. -/
theorem nested_release_takes_byte :
    Opens nestedRelease ∧
      ∃ id e q p, (id, e) ∈ (watched nestedRelease).registry.blocked ∧ e.signaled = true ∧
        (watched nestedRelease).registry.source? e.thread = some q ∧
        (watched nestedRelease).registry.mechanism.pair? q = some p ∧
        p.pushed = false ∧ p.readable = false :=
  ⟨opens_nestedRelease, ⟨0⟩, ⟨.raw 5, ⟨0⟩, true⟩, ⟨0⟩, .fresh, by decide +kernel⟩

end Scene

end AsyncClose
