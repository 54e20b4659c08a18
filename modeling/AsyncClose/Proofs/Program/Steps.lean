import AsyncClose.Proofs.Program.Basic

/-!
Programs laid out flat.

What a program does to a registry is one step after the other, those inside its calls included. Only
the choice of the steps takes a program; what is true of any steps is true of it.
-/

namespace AsyncClose

inductive Step
  | acquire (t : Thread) (fd : Descriptor) (canOpen : Bool)
  | release (g : Guard)
  | wake (fd : Descriptor)
  | install
  /-- An attempt of a call on the descriptor is going to be made again. -/
  | retry (fd : Descriptor)
  deriving DecidableEq

namespace Step

variable {σ : Type} [Mechanism σ]

def apply : Step → Registry σ → Registry σ
  | acquire t fd canOpen, r => (r.acquire t fd canOpen).2
  | release g, r => r.release g
  | wake fd, r => (r.wakeBlocked fd).2
  | install, r => r.install.2
  | retry fd, r => r.note [.retrying fd]

def perform (xs : List Step) (r : Registry σ) : Registry σ := xs.foldl (fun r x => x.apply r) r

@[simp] lemma perform_cons (x : Step) (xs : List Step) (r : Registry σ) :
    perform (x :: xs) r = perform xs (x.apply r) := rfl

@[simp] lemma perform_append (xs ys : List Step) (r : Registry σ) :
    perform (xs ++ ys) r = perform ys (perform xs r) := List.foldl_append

end Step

section

variable {σ : Type} [Mechanism σ] {P Q : Registry σ → Prop}

/-- What no call takes away holds after a step. -/
lemma Program.Kept.apply (h : Program.Kept P Q) (x : Step) {r : Registry σ} (hr : P r)
    (hq : Q (x.apply r)) : P (x.apply r) := by
  cases x with
  | acquire t fd canOpen => exact h.acquire hr t fd canOpen hq
  | release g => exact h.release hr g
  | wake fd => exact h.wake hr fd
  | install => exact h.install hr
  | retry fd => exact h.note hr _

/-- It holds after any number of them. -/
lemma Program.Kept.perform (h : Program.Kept P Q) (xs : List Step) {r : Registry σ} (hr : P r)
    (hq : ∀ ys, ys <+: xs → Q (Step.perform ys r)) : P (Step.perform xs r) := by
  induction xs generalizing r with
  | nil => exact hr
  | cons x xs ih =>
    have hone := hq [x] (List.prefix_append [x] xs)
    exact ih (h.apply x hr hone) fun ys hy => hq (x :: ys) ((List.prefix_append_right_inj [x]).mpr hy)

end

namespace Registry

variable {σ : Type} [Mechanism σ]

/-- The table is in order at every point, however many guards are live. -/
lemma kept_tidy : Program.Kept (fun r : Registry σ => r.slab.Tidy) fun _ => True where
  acquire h _ _ _ _ := Slab.tidy_insert h _
  release h g := Slab.tidy_remove h g.id
  wake {r} h fd := by
    rw [slab_wakeBlocked fd r h]
    exact Slab.tidy_onClose fd h
  install h := h
  note h _ := h

end Registry

namespace Program

variable {σ ω α : Type} [Mechanism σ]

mutual

def steps : Program ω α → Registry σ → List Step
  | finish _ _, _ => []
  | acquire t fd canOpen next, r =>
    .acquire t fd canOpen :: (next (r.acquire t fd canOpen).1).steps (r.acquire t fd canOpen).2
  | release g next, r => .release g :: next.steps (r.release g)
  | wake fd next, r => .wake fd :: (next (r.wakeBlocked fd).1).steps (r.wakeBlocked fd).2
  | signaled id next, r => (next (r.signaled id)).steps r
  | size next, r => (next r.size).steps r
  | blocked next, r => (next r.blocked).steps r
  | install next, r => .install :: next.steps r.install.2
  | run t fd ops s next, r =>
    let x := Registry.run t fd (operations ops) (r, s)
    stepsInside t fd ops (r, s) ++ (next x.1 x.2.2).steps x.2.1

/-- The steps of a call: those of its attempts, each between the steps of its guard. -/
def stepsInside (t : Thread) (fd : Descriptor) :
    List (Guard → ω → Program ω α) → Registry σ × ω → List Step
  | [], _ => []
  | op :: rest, s =>
    let g := (s.1.acquire t fd true).1
    .acquire t fd true :: ((op g s.2).steps (s.1.acquire t fd true).2 ++
      match Registry.attempt t fd (fun g s => (op g s.2).exec s.1) s with
      | (.retry, s) => .retry fd :: .release g :: stepsInside t fd rest s
      | (.finished _, _) => [.release g])

end

mutual

/-- A program does to a registry what its steps do. -/
theorem exec_eq_perform : ∀ (p : Program ω α) (r : Registry σ),
    (p.exec r).2.1 = Step.perform (p.steps r) r
  | .finish _ _, _ => rfl
  | .acquire _ _ _ next, r => exec_eq_perform (next _) _
  | .release _ next, _ => exec_eq_perform next _
  | .wake _ next, _ => exec_eq_perform (next _) _
  | .signaled _ next, r => exec_eq_perform (next _) r
  | .size next, r => exec_eq_perform (next _) r
  | .blocked next, r => exec_eq_perform (next _) r
  | .install next, _ => exec_eq_perform next _
  | .run t fd ops s next, r => by
    rw [steps, Step.perform_append, ← run_eq_perform t fd ops s r]
    exact exec_eq_perform (next _ _) _

/-- So does a call. -/
theorem run_eq_perform (t : Thread) (fd : Descriptor) :
    ∀ (ops : List (Guard → ω → Program ω α)) (s : ω) (r : Registry σ),
      (Registry.run t fd (operations ops) (r, s)).2.1 =
        Step.perform (stepsInside t fd ops (r, s)) r
  | [], _, _ => rfl
  | op :: rest, s, r => by
    have hop := exec_eq_perform (op (r.acquire t fd true).1 s) (r.acquire t fd true).2
    rw [operations, Registry.run_cons, stepsInside, Step.perform_cons, Step.perform_append,
      Step.apply, ← hop, attempt_eq]
    dsimp only
    unfold Registry.settle
    cases Ending.verdict _ _ with
    | retry => exact run_eq_perform t fd rest _ _
    | finished e => rfl

end

end Program

end AsyncClose
