import AsyncClose.Mechanism.Recorder
import AsyncClose.Proofs.Registry.Steps

/-!
A call that is retried, step by step, while other threads close descriptors.

The caller reads its mark and takes its entry out in two separate steps. A close that comes
before the first is seen, and the call is not made again. A close that comes between them still
finds the entry, and counts it, but the caller has made up its mind: if the call was interrupted
it is made again.
-/

namespace AsyncClose

/-- Where a caller is in an attempt, by what it does next. -/
inductive Phase (α : Type)
  | entering
  | registering
  | calling (g : Guard)
  | judging (g : Guard) (ending : Ending α)
  | unregistering (g : Guard) (verdict : Verdict α)
  | leaving (g : Guard) (verdict : Verdict α)
  | ended (ending : Ending α)

def Verdict.next {α : Type} : Verdict α → Phase α
  | .retry => .entering
  | .finished ending => .ended ending

namespace Phase

variable {α : Type}

/-- The guard whose entry is in the registry. -/
def guard? : Phase α → Option Guard
  | calling g => some g
  | judging g _ => some g
  | unregistering g _ => some g
  | _ => none

/-- The calls that are yet to be made under the present guard. -/
def due : Phase α → ℕ
  | calling _ => 1
  | _ => 0

end Phase

structure Caller (σ α : Type) where
  registry : Registry σ
  phase : Phase α
  /-- How often the call was made. -/
  made : ℕ

/-- Who goes next: the caller, or another thread that closes a descriptor. -/
inductive Turn
  | own
  | wake (d : Descriptor)
  deriving DecidableEq

namespace Caller

variable {σ α : Type}

def start (r : Registry σ) : Caller σ α := ⟨r, .entering, 0⟩

variable [Mechanism σ] (t : Thread) (fd : Descriptor) (results : ℕ → Ending α)

/-- The caller's next step. The calls come back with the given results. -/
def own (c : Caller σ α) : Caller σ α :=
  match c.phase with
  | .entering => ⟨c.registry.enter t true, .registering, c.made⟩
  | .registering =>
    let (id, r) := c.registry.register fd t
    ⟨r, .calling ⟨id, fd, t⟩, c.made⟩
  | .calling g => ⟨c.registry, .judging g (results c.made), c.made + 1⟩
  | .judging g e =>
    match e.verdict (c.registry.signaled g.id) with
    | .retry => ⟨c.registry.note [.retrying g.fd], .unregistering g .retry, c.made⟩
    | .finished e => ⟨c.registry, .unregistering g (.finished e), c.made⟩
  | .unregistering g v => ⟨(c.registry.unregister g.id).2, .leaving g v, c.made⟩
  | .leaving g v => ⟨c.registry.leave g.thread, v.next, c.made⟩
  | .ended _ => c

def turn (c : Caller σ α) : Turn → Caller σ α
  | .own => c.own t fd results
  | .wake d => { c with registry := (c.registry.wakeBlocked d).2 }

def run (c : Caller σ α) (turns : List Turn) : Caller σ α := turns.foldl (turn t fd results) c

/-! ### A caller left alone -/

/-- A call that does nothing but come back so. -/
def scripted (e : Ending α) : Op σ Unit α := fun _ s => (e, s.1, s.2)

lemma attempt_alone (r : Registry σ) (n : ℕ) :
    run t fd results ⟨r, .entering, n⟩ (List.replicate 6 .own) =
      ⟨(Registry.attempt t fd (scripted (results n)) (r, ())).2.1,
        (Registry.attempt t fd (scripted (results n)) (r, ())).1.next, n + 1⟩ := by
  simp only [run, List.replicate, List.foldl_cons, List.foldl_nil, turn, own, Registry.attempt,
    scripted, Registry.settle, Registry.acquire]
  cases (results n).verdict _ <;> rfl

lemma run_append (c : Caller σ α) (xs ys : List Turn) :
    run t fd results c (xs ++ ys) = run t fd results (run t fd results c xs) ys :=
  List.foldl_append

lemma run_ended (r : Registry σ) (e : Ending α) (n k : ℕ) :
    run t fd results ⟨r, .ended e, n⟩ (List.replicate k .own) = ⟨r, .ended e, n⟩ := by
  induction k with
  | zero => rfl
  | succ k ih => exact ih

/-- The call run in one piece, with the results from the `n`-th on and at most `k` attempts. -/
def inOnePiece (n k : ℕ) (r : Registry σ) : Option (Ending α) × Registry σ × Unit :=
  Registry.run t fd ((List.range' n k).map fun i => scripted (results i)) (r, ())

/-- **A caller left alone** runs the call as it is run in one piece. -/
theorem run_alone (k : ℕ) (r : Registry σ) (n : ℕ) :
    (run t fd results ⟨r, .entering, n⟩ (List.replicate (6 * k) .own)).registry =
        (inOnePiece t fd results n k r).2.1 ∧
      (run t fd results ⟨r, .entering, n⟩ (List.replicate (6 * k) .own)).phase =
        (inOnePiece t fd results n k r).1.elim .entering .ended := by
  induction k generalizing r n with
  | zero => exact ⟨rfl, rfl⟩
  | succ k ih =>
    rw [Nat.mul_succ, Nat.add_comm, List.replicate_add, run_append, attempt_alone, inOnePiece,
      List.range'_succ, List.map_cons, Registry.run_cons]
    obtain ⟨v, s⟩ := Registry.attempt t fd (scripted (results n)) (r, ())
    cases v with
    | retry => exact ih s.1 (n + 1)
    | finished e =>
      dsimp only [Verdict.next]
      rw [run_ended]
      exact ⟨rfl, rfl⟩

/-- Once it has decided to retry, the caller takes two steps to release its guard. -/
lemma run_retrying (r : Registry σ) (g : Guard) (n k : ℕ) :
    run t fd results ⟨r, .unregistering g .retry, n⟩ (List.replicate (2 + k) .own) =
      run t fd results ⟨r.release g, .entering, n⟩ (List.replicate k .own) := by
  rw [List.replicate_add, run_append]
  rfl

/-! ### What the turns keep -/

lemma tidy_turn {c : Caller σ α} (h : c.registry.slab.Tidy) (x : Turn) :
    (c.turn t fd results x).registry.slab.Tidy := by
  cases x with
  | wake d =>
    rw [turn, Registry.slab_wakeBlocked d _ h]
    exact Slab.tidy_onClose d h
  | own =>
    rw [turn, own]
    split
    · exact h
    · exact Slab.tidy_insert h _
    · exact h
    · split <;> exact h
    · exact Slab.tidy_remove h _
    · exact h
    · exact h

lemma tidy_run {c : Caller σ α} (h : c.registry.slab.Tidy) (turns : List Turn) :
    (run t fd results c turns).registry.slab.Tidy := by
  induction turns generalizing c with
  | nil => exact h
  | cons x turns ih => exact ih (tidy_turn t fd results h x)

lemma signaled_wakeBlocked {r : Registry σ} (h : r.slab.Tidy) (d : Descriptor) {id : GuardId}
    (hs : r.signaled id = true) : (r.wakeBlocked d).2.signaled id = true := by
  obtain ⟨e, he, hsig⟩ := Slab.signaled_eq_true.mp hs
  refine Slab.signaled_eq_true.mpr ⟨e.onClose d, ?_, by simp [hsig]⟩
  rw [Registry.get?_wakeBlocked d r h, he, Option.map_some]

lemma signaled_of_mem_targets {r : Registry σ} (h : r.slab.Tidy) {d : Descriptor} {id : GuardId}
    {e : Entry} (he : (id, e) ∈ r.targets d) : (r.wakeBlocked d).2.signaled id = true := by
  obtain ⟨hget, hfd⟩ := (Registry.mem_targets h).mp he
  refine Slab.signaled_eq_true.mpr ⟨e.onClose d, ?_, by simp [hfd]⟩
  rw [Registry.get?_wakeBlocked d r h, hget, Option.map_some]

/-- The caller has seen the mark or is going to, and makes no more than `n` calls in all. -/
def Doomed (n : ℕ) (c : Caller σ α) : Prop :=
  match c.phase with
  | .calling g => c.registry.signaled g.id = true ∧ c.made < n
  | .judging g _ => c.registry.signaled g.id = true ∧ c.made ≤ n
  | .unregistering _ (.finished _) => c.made ≤ n
  | .leaving _ (.finished _) => c.made ≤ n
  | .ended _ => c.made ≤ n
  | _ => False

omit [Mechanism σ] in
lemma made_le_of_doomed {n : ℕ} {c : Caller σ α} (hd : Doomed n c) : c.made ≤ n := by
  obtain ⟨r, phase, made⟩ := c
  cases phase with
  | calling g => exact hd.2.le
  | judging g e => exact hd.2
  | unregistering g v => cases v <;> first | exact hd | exact hd.elim
  | leaving g v => cases v <;> first | exact hd | exact hd.elim
  | ended e => exact hd
  | entering => exact hd.elim
  | registering => exact hd.elim

omit [Mechanism σ] in
/-- A caller whose guard is marked while it holds it makes the call that is due and no other,
unless it has decided to retry. -/
lemma doomed_of_signaled {c : Caller σ α} {g : Guard} (hg : c.phase.guard? = some g)
    (hs : c.registry.signaled g.id = true) :
    Doomed (c.made + c.phase.due) c ∨ c.phase = .unregistering g .retry := by
  obtain ⟨r, phase, made⟩ := c
  cases phase with
  | calling g' =>
    obtain rfl : g' = g := Option.some.inj hg
    exact .inl ⟨hs, Nat.lt_succ_self _⟩
  | judging g' e =>
    obtain rfl : g' = g := Option.some.inj hg
    exact .inl ⟨hs, le_rfl⟩
  | unregistering g' v =>
    obtain rfl : g' = g := Option.some.inj hg
    cases v with
    | retry => exact .inr rfl
    | finished e => exact .inl (le_refl made)
  | entering => simp [Phase.guard?] at hg
  | registering => simp [Phase.guard?] at hg
  | leaving g' v => simp [Phase.guard?] at hg
  | ended e => simp [Phase.guard?] at hg

omit [Mechanism σ] in
lemma exists_finished_of_signaled (e : Ending α) : ∃ e', e.verdict true = .finished e' := by
  cases e with
  | returned r => exact ⟨_, rfl⟩
  | panicked s => exact ⟨_, rfl⟩

lemma doomed_turn {n : ℕ} {c : Caller σ α} (h : c.registry.slab.Tidy) (hd : Doomed n c)
    (x : Turn) : Doomed n (c.turn t fd results x) := by
  obtain ⟨r, phase, made⟩ := c
  cases x with
  | wake d =>
    cases phase with
    | calling g => exact ⟨signaled_wakeBlocked h d hd.1, hd.2⟩
    | judging g e => exact ⟨signaled_wakeBlocked h d hd.1, hd.2⟩
    | unregistering g v => cases v <;> exact hd
    | leaving g v => cases v <;> exact hd
    | ended e => exact hd
    | entering => exact hd
    | registering => exact hd
  | own =>
    cases phase with
    | calling g => exact ⟨hd.1, hd.2⟩
    | judging g e =>
      obtain ⟨e', he'⟩ := exists_finished_of_signaled e
      have hs : r.signaled g.id = true := hd.1
      simp only [turn, own, hs, he']
      exact hd.2
    | unregistering g v =>
      cases v with
      | retry => exact hd
      | finished e => exact hd
    | leaving g v =>
      cases v with
      | retry => exact hd
      | finished e => exact hd
    | ended e => exact hd
    | entering => exact hd.elim
    | registering => exact hd.elim

lemma doomed_run {n : ℕ} {c : Caller σ α} (h : c.registry.slab.Tidy) (hd : Doomed n c)
    (turns : List Turn) : Doomed n (run t fd results c turns) := by
  induction turns generalizing c with
  | nil => exact hd
  | cons x turns ih => exact ih (tidy_turn t fd results h x) (doomed_turn t fd results h hd x)

/-- Once its guard is marked, only a caller that has decided to retry goes beyond the call that is
due. -/
lemma retrying_of_lt_made {c : Caller σ α} {g : Guard} (h : c.registry.slab.Tidy)
    (hg : c.phase.guard? = some g) (hs : c.registry.signaled g.id = true) {later : List Turn}
    (hmore : c.made + c.phase.due < (run t fd results c later).made) :
    c.phase = .unregistering g .retry := by
  rcases doomed_of_signaled hg hs with hd | hretry
  · have hle := made_le_of_doomed (doomed_run t fd results h hd later)
    exact absurd hle (Nat.not_le.mpr hmore)
  · exact hretry

lemma made_calling {c : Caller σ α} {g : Guard} (hc : c.phase = .calling g) :
    c.made < (run t fd results c [.own]).made := by
  obtain ⟨r, phase, made⟩ := c
  obtain rfl : phase = .calling g := hc
  exact Nat.lt_succ_self made

lemma made_retrying {c : Caller σ α} {g : Guard} (hc : c.phase = .unregistering g .retry) :
    c.made < (run t fd results c (List.replicate (2 + 6) .own)).made := by
  obtain ⟨r, phase, made⟩ := c
  obtain rfl : phase = .unregistering g .retry := hc
  rw [run_retrying, attempt_alone]
  exact Nat.lt_succ_self made

omit [Mechanism σ] in
lemma due_eq_zero {c : Caller σ α} {g : Guard} (hg : c.phase.guard? = some g)
    (hc : c.phase ≠ .calling g) : c.phase.due = 0 := by
  cases hp : c.phase with
  | calling g' =>
    rw [hp] at hg hc
    exact absurd (congrArg Phase.calling (Option.some.inj hg)) hc
  | _ => rfl

/-- **A close stops the retries unless it comes too late.** Let a scan count the guard that a
caller holds, at any point of any interleaving of the caller's steps with scans. The guard is
marked. The caller makes further calls, beyond one that is due under this very guard, if and only
if it had read its mark before, decided to retry, and not yet taken its entry out. So it calls at
all after the scan only then, or if the scan came before the call. A caller that does retry, and is
left alone, releases the marked guard and goes on like a call that is run in one piece. -/
theorem calls_again_iff (r : Registry σ) (h : r.slab.Tidy) (turns : List Turn) (g : Guard)
    (e : Entry) (d : Descriptor)
    (hg : (run t fd results (start r) turns).phase.guard? = some g)
    (he : (g.id, e) ∈ (run t fd results (start r) turns).registry.targets d) :
    (run t fd results (start r) (turns ++ [Turn.wake d])).registry.signaled g.id = true ∧
      ((∃ later,
          (run t fd results (start r) turns).made + (run t fd results (start r) turns).phase.due <
            (run t fd results (start r) (turns ++ Turn.wake d :: later)).made) ↔
        (run t fd results (start r) turns).phase = .unregistering g .retry) ∧
      ((∃ later, (run t fd results (start r) turns).made <
            (run t fd results (start r) (turns ++ Turn.wake d :: later)).made) ↔
        (run t fd results (start r) turns).phase = .calling g ∨
          (run t fd results (start r) turns).phase = .unregistering g .retry) ∧
      ((run t fd results (start r) turns).phase = .unregistering g .retry → ∀ k,
        let c := run t fd results (start r)
          (turns ++ Turn.wake d :: List.replicate (2 + 6 * k) .own)
        let whole := inOnePiece t fd results (run t fd results (start r) turns).made k
          ((run t fd results (start r) (turns ++ [Turn.wake d])).registry.release g)
        c.registry = whole.2.1 ∧ c.phase = whole.1.elim .entering .ended) := by
  have htidy := tidy_run t fd results (c := start r) h turns
  have hsplit : ∀ later, run t fd results (start r) (turns ++ Turn.wake d :: later) =
      run t fd results ((run t fd results (start r) turns).turn t fd results (.wake d)) later :=
    fun later => run_append t fd results _ _ _
  simp only [hsplit]
  generalize run t fd results (start r) turns = c at *
  have hs : (c.turn t fd results (.wake d)).registry.signaled g.id = true :=
    signaled_of_mem_targets htidy he
  -- the scan leaves the caller where it is, so what holds of it after the scan is said of `c`
  have htidy' := tidy_turn t fd results htidy (.wake d)
  have hagain : c.phase = .unregistering g .retry → ∃ later,
      c.made < (run t fd results (c.turn t fd results (.wake d)) later).made :=
    fun hretry => ⟨_, made_retrying t fd results (c := c.turn t fd results (.wake d)) hretry⟩
  have hstop : ∀ later,
      c.made + c.phase.due < (run t fd results (c.turn t fd results (.wake d)) later).made →
        c.phase = .unregistering g .retry :=
    fun later => retrying_of_lt_made t fd results (c := c.turn t fd results (.wake d)) htidy' hg hs
  refine ⟨hs, ⟨fun ⟨later, hlater⟩ => hstop later hlater, fun hretry => ?_⟩, ⟨?_, ?_⟩, ?_⟩
  · rw [hretry]
    exact hagain hretry
  · rintro ⟨later, hlater⟩
    by_cases hc : c.phase = .calling g
    · exact .inl hc
    · exact .inr (hstop later (by rwa [due_eq_zero hg hc]))
  · rintro (hc | hretry)
    · exact ⟨_, made_calling t fd results (c := c.turn t fd results (.wake d)) hc⟩
    · exact hagain hretry
  · intro hretry k
    obtain ⟨q, phase, made⟩ := c
    obtain rfl : phase = .unregistering g .retry := hretry
    rw [turn, run_retrying]
    exact run_alone t fd results k _ made

def interrupted (turns : List Turn) : Caller Recorder Unit :=
  run ⟨0⟩ (.raw 5) (fun _ => .returned (.error (.os .interrupted)))
    (start (.ofCapacity 1 (Recorder.mk [] (.ofOutcomes []) none))) turns

/-- A close just after the mark was read. -/
theorem calls_again_iff_interrupted :
    (interrupted (List.replicate 4 Turn.own ++ [Turn.wake (.raw 5)])).registry.signaled ⟨0⟩ =
        true ∧
      ((∃ later, (interrupted (List.replicate 4 Turn.own)).made +
            (interrupted (List.replicate 4 Turn.own)).phase.due <
          (interrupted (List.replicate 4 Turn.own ++ Turn.wake (.raw 5) :: later)).made) ↔
        (interrupted (List.replicate 4 Turn.own)).phase =
          .unregistering ⟨⟨0⟩, .raw 5, ⟨0⟩⟩ .retry) ∧
      ((∃ later, (interrupted (List.replicate 4 Turn.own)).made <
          (interrupted (List.replicate 4 Turn.own ++ Turn.wake (.raw 5) :: later)).made) ↔
        (interrupted (List.replicate 4 Turn.own)).phase = .calling ⟨⟨0⟩, .raw 5, ⟨0⟩⟩ ∨
          (interrupted (List.replicate 4 Turn.own)).phase =
            .unregistering ⟨⟨0⟩, .raw 5, ⟨0⟩⟩ .retry) := by
  obtain ⟨hsignaled, hmore, hagain, -⟩ := calls_again_iff (α := Unit) ⟨0⟩ (.raw 5)
    (fun _ => .returned (.error (.os .interrupted)))
    (.ofCapacity 1 (Recorder.mk [] (.ofOutcomes []) none)) (Slab.tidy_ofCapacity 1)
    (List.replicate 4 Turn.own) ⟨⟨0⟩, .raw 5, ⟨0⟩⟩ ⟨.raw 5, ⟨0⟩, false⟩ (.raw 5)
    (by decide +kernel) (by decide +kernel)
  exact ⟨hsignaled, hmore, hagain⟩

/-- The scan counts the guard and marks it, and the call is made again. -/
theorem calls_again_after_close :
    ((interrupted (List.replicate 4 Turn.own)).registry.wakeBlocked (.raw 5)).1 = 1 ∧
      (interrupted (List.replicate 4 Turn.own ++ [Turn.wake (.raw 5)])).registry.signaled ⟨0⟩ =
        true ∧
      (interrupted (List.replicate 4 Turn.own ++ [Turn.wake (.raw 5)])).made = 1 ∧
      (interrupted
        (List.replicate 4 Turn.own ++ Turn.wake (.raw 5) :: List.replicate 5 Turn.own)).made = 2 := by
  decide +kernel

end Caller

end AsyncClose
