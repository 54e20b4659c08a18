import AsyncClose.Proofs.Mechanism.Contact
import AsyncClose.Proofs.Registry.Steps

/-!
Threads that guard their calls while others close descriptors, in any order of steps.

A blocking episode passes four points: the thread enters, its entry goes into the registry, the
entry comes out again, the thread leaves. Between any two of them anything can happen: steps of
other episodes, of the same thread or of others, and scans. A forgotten guard stays where it is.

A scene also keeps the calls that were made on the mechanism so far, which no step looks at.
-/

namespace AsyncClose

inductive Stage
  | entered
  | registered (id : GuardId)
  | forgotten (id : GuardId)
  | unregistered (id : GuardId)
  | left (id : GuardId)
  deriving DecidableEq

namespace Stage

/-- The identity of the guard, from its entry's way in to its way out. -/
def live? : Stage → Option GuardId
  | registered id => some id
  | forgotten id => some id
  | _ => none

def isOver : Stage → Bool
  | left _ => true
  | _ => false

end Stage

structure Episode where
  thread : Thread
  fd : Descriptor
  stage : Stage
  deriving DecidableEq

structure Scene (σ : Type) where
  registry : Registry σ
  /-- All episodes so far, in the order of their enters. -/
  episodes : List Episode
  /-- The calls made on the mechanism so far, oldest first. -/
  trace : List Contact

/-- What happens next. An episode is named by the number of those before it. -/
inductive Move
  | enter (t : Thread) (fd : Descriptor) (canOpen : Bool)
  | register (n : ℕ)
  | forget (n : ℕ)
  | unregister (n : ℕ)
  | leave (n : ℕ)
  | wake (fd : Descriptor)
  deriving DecidableEq

namespace Scene

variable {σ : Type}

def start (capacity : ℕ) (m : σ) : Scene σ := ⟨.ofCapacity capacity m, [], []⟩

lemma tidy_start (capacity : ℕ) (m : σ) : (start capacity m).registry.slab.Tidy :=
  Slab.tidy_ofCapacity capacity

lemma get?_start (capacity : ℕ) (m : σ) (id : GuardId) :
    (start capacity m).registry.slab.get? id = none := Slab.get?_ofCapacity capacity id

/-- Episode `n`, which was `x`, comes to stage `s`. -/
def moved (w : Scene σ) (n : ℕ) (x : Episode) (s : Stage) (r : Registry σ)
    (cs : List Contact) : Scene σ :=
  ⟨r, w.episodes.set n { x with stage := s }, w.trace ++ cs⟩

def wakes (w : Scene σ) (fd : Descriptor) : List Contact :=
  (w.registry.targets fd).map fun x => .wake x.2.thread fd

variable [Mechanism σ]

/-- One step. A step for which the episode is not ready does nothing. -/
def step (w : Scene σ) : Move → Scene σ
  | .enter t fd canOpen =>
    ⟨w.registry.enter t canOpen, w.episodes ++ [⟨t, fd, .entered⟩], w.trace ++ [.enter t canOpen]⟩
  | .register n =>
    match w.episodes[n]? with
    | some ⟨t, fd, .entered⟩ =>
      let (id, r) := w.registry.register fd t
      w.moved n ⟨t, fd, .entered⟩ (.registered id) r []
    | _ => w
  | .forget n =>
    match w.episodes[n]? with
    | some ⟨t, fd, .registered id⟩ =>
      w.moved n ⟨t, fd, .registered id⟩ (.forgotten id) w.registry []
    | _ => w
  | .unregister n =>
    match w.episodes[n]? with
    | some ⟨t, fd, .registered id⟩ =>
      w.moved n ⟨t, fd, .registered id⟩ (.unregistered id) (w.registry.unregister id).2 []
    | _ => w
  | .leave n =>
    match w.episodes[n]? with
    | some ⟨t, fd, .unregistered id⟩ =>
      w.moved n ⟨t, fd, .unregistered id⟩ (.left id) (w.registry.leave t) [.leave t]
    | _ => w
  | .wake fd => ⟨(w.registry.wakeBlocked fd).2, w.episodes, w.trace ++ w.wakes fd⟩

def run (w : Scene σ) (ms : List Move) : Scene σ := ms.foldl step w

@[simp] lemma run_nil (w : Scene σ) : w.run [] = w := rfl

@[simp] lemma run_append (w : Scene σ) (ms ns : List Move) :
    w.run (ms ++ ns) = (w.run ms).run ns := List.foldl_append

@[simp] lemma run_singleton (w : Scene σ) (m : Move) : w.run [m] = w.step m := rfl

/-- To enter and to register with nothing in between is to acquire a guard. -/
lemma run_enter_register (w : Scene σ) (t : Thread) (fd : Descriptor) (canOpen : Bool) :
    w.run [.enter t fd canOpen, .register w.episodes.length] =
      ⟨(w.registry.acquire t fd canOpen).2,
        w.episodes ++ [⟨t, fd, .registered (w.registry.acquire t fd canOpen).1.id⟩],
        w.trace ++ [.enter t canOpen]⟩ := by
  simp [run, step, moved, Registry.acquire]

/-- To unregister and to leave with nothing in between is to release it. -/
lemma run_unregister_leave (w : Scene σ) {n : ℕ} {t : Thread} {fd : Descriptor} {id : GuardId}
    (hn : w.episodes[n]? = some ⟨t, fd, .registered id⟩) :
    w.run [.unregister n, .leave n] =
      ⟨w.registry.release ⟨id, fd, t⟩, w.episodes.set n ⟨t, fd, .left id⟩,
        w.trace ++ [.leave t]⟩ := by
  have hout : w.step (.unregister n) =
      w.moved n ⟨t, fd, .registered id⟩ (.unregistered id) (w.registry.unregister id).2 [] := by
    simp only [step, hn]
  have hn' : (w.episodes.set n ⟨t, fd, .unregistered id⟩)[n]? =
      some ⟨t, fd, .unregistered id⟩ :=
    List.getElem?_set_self (List.getElem?_eq_some_iff.mp hn).1
  change (w.step (.unregister n)).step (.leave n) = _
  rw [hout]
  simp [step, moved, hn', Registry.release]

/-! ### Everything a step can do -/

inductive Stepped (w : Scene σ) : Scene σ → Prop
  | idle : Stepped w w
  | enter (t : Thread) (fd : Descriptor) (canOpen : Bool) :
    Stepped w
      ⟨w.registry.enter t canOpen, w.episodes ++ [⟨t, fd, .entered⟩],
        w.trace ++ [.enter t canOpen]⟩
  | register (n : ℕ) (x : Episode) (hx : w.episodes[n]? = some x) (hs : x.stage = .entered) :
    Stepped w
      (w.moved n x (.registered (w.registry.register x.fd x.thread).1)
        (w.registry.register x.fd x.thread).2 [])
  | forget (n : ℕ) (x : Episode) (id : GuardId) (hx : w.episodes[n]? = some x)
    (hs : x.stage = .registered id) : Stepped w (w.moved n x (.forgotten id) w.registry [])
  | unregister (n : ℕ) (x : Episode) (id : GuardId) (hx : w.episodes[n]? = some x)
    (hs : x.stage = .registered id) :
    Stepped w (w.moved n x (.unregistered id) (w.registry.unregister id).2 [])
  | leave (n : ℕ) (x : Episode) (id : GuardId) (hx : w.episodes[n]? = some x)
    (hs : x.stage = .unregistered id) :
    Stepped w (w.moved n x (.left id) (w.registry.leave x.thread) [.leave x.thread])
  | wake (fd : Descriptor) :
    Stepped w ⟨(w.registry.wakeBlocked fd).2, w.episodes, w.trace ++ w.wakes fd⟩

lemma stepped (w : Scene σ) (m : Move) : Stepped w (w.step m) := by
  cases m with
  | enter t fd canOpen => exact .enter t fd canOpen
  | register n =>
    simp only [step]
    split
    · next t fd hx => exact .register n ⟨t, fd, .entered⟩ hx rfl
    · exact .idle
  | forget n =>
    simp only [step]
    split
    · next t fd id hx => exact .forget n ⟨t, fd, .registered id⟩ id hx rfl
    · exact .idle
  | unregister n =>
    simp only [step]
    split
    · next t fd id hx => exact .unregister n ⟨t, fd, .registered id⟩ id hx rfl
    · exact .idle
  | leave n =>
    simp only [step]
    split
    · next t fd id hx => exact .leave n ⟨t, fd, .unregistered id⟩ id hx rfl
    · exact .idle
  | wake fd => exact .wake fd

lemma run_induction {P : Scene σ → Prop} {w : Scene σ} (h : P w)
    (hstep : ∀ v v', P v → Stepped v v' → P v') (ms : List Move) : P (w.run ms) := by
  induction ms using List.reverseRecOn with
  | nil => exact h
  | append_singleton ms m ih =>
    rw [run_append, run_singleton]
    exact hstep _ _ ih (stepped _ m)

/-! ### The trace tells it all -/

lemma mechanism_wakes (w : Scene σ) (fd : Descriptor) (h : w.registry.slab.Tidy) :
    (w.registry.wakeBlocked fd).2.mechanism =
      Contact.replay (w.wakes fd) w.registry.mechanism := by
  rw [Registry.mechanism_wakeBlocked fd _ h, wakes, Contact.replay, List.foldl_map]
  rfl

lemma tidy_stepped {v v' : Scene σ} (h : v.registry.slab.Tidy) (hs : Stepped v v') :
    v'.registry.slab.Tidy := by
  cases hs with
  | idle => exact h
  | enter t fd canOpen => exact h
  | register n x hx hs => exact Slab.tidy_insert h _
  | forget n x id hx hs => exact h
  | unregister n x id hx hs => exact Slab.tidy_remove h id
  | leave n x id hx hs => exact h
  | wake fd =>
    dsimp only
    rw [Registry.slab_wakeBlocked fd _ h]
    exact Slab.tidy_onClose fd h

lemma tidy_run {w : Scene σ} (h : w.registry.slab.Tidy) (ms : List Move) :
    (w.run ms).registry.slab.Tidy :=
  run_induction h (fun _ _ => tidy_stepped) ms

lemma mechanism_stepped {v v' : Scene σ} {m : σ} (h : v.registry.slab.Tidy)
    (hm : v.registry.mechanism = Contact.replay v.trace m) (hs : Stepped v v') :
    v'.registry.mechanism = Contact.replay v'.trace m := by
  cases hs with
  | idle => exact hm
  | enter t fd canOpen => rw [Contact.replay_append, ← hm]; rfl
  | register n x hx hs => simpa [moved] using hm
  | forget n x id hx hs => simpa [moved] using hm
  | unregister n x id hx hs => simpa [moved] using hm
  | leave n x id hx hs =>
    simp only [moved, Contact.replay_append, ← hm]
    rfl
  | wake fd => rw [Contact.replay_append, ← hm, mechanism_wakes v fd h]

/-- The mechanism is what the calls in the trace have made of the first one. -/
lemma mechanism_run (capacity : ℕ) (m : σ) (ms : List Move) :
    ((start capacity m).run ms).registry.mechanism =
      Contact.replay ((start capacity m).run ms).trace m :=
  (run_induction (P := fun w => w.registry.slab.Tidy ∧
    w.registry.mechanism = Contact.replay w.trace m) ⟨tidy_start capacity m, rfl⟩
    (fun _ _ h hs => ⟨tidy_stepped h.1 hs, mechanism_stepped h.1 h.2 hs⟩) ms).2

end Scene

end AsyncClose
