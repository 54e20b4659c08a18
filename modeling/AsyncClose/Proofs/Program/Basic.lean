import AsyncClose.Proofs.Mechanism.Watched

/-!
Programs: what is done with a registry, one call after the other.

A program sees the answers to its calls and chooses the next call by them; it may make blocking
calls, whose attempts are programs themselves. A guard that is forgotten is one that no release
names. Two registries that give the same answers and stay related, call by call, cannot be told
apart by any program.
-/

namespace AsyncClose

/-- What is done with a registry, and how it ends. `α` are the values that calls return; `ω` is
what a program has in mind, which it can leave to the next attempt of a call. -/
inductive Program (ω α : Type) where
  | finish (e : Ending α) (s : ω)
  | acquire (t : Thread) (fd : Descriptor) (canOpen : Bool) (next : Guard → Program ω α)
  | release (g : Guard) (next : Program ω α)
  | wake (fd : Descriptor) (next : ℕ → Program ω α)
  | signaled (id : GuardId) (next : Bool → Program ω α)
  | size (next : ℕ → Program ω α)
  | blocked (next : List (GuardId × Entry) → Program ω α)
  /-- The mechanism is set up, with whatever outcome. -/
  | install (next : Program ω α)
  /-- A call is run for as many attempts as there are operations. -/
  | run (t : Thread) (fd : Descriptor) (ops : List (Guard → ω → Program ω α)) (s : ω)
    (next : Option (Ending α) → ω → Program ω α)

namespace Program

section

variable {σ ω α : Type} [Mechanism σ]

mutual

def exec : Program ω α → Registry σ → Ending α × Registry σ × ω
  | finish e s, r => (e, r, s)
  | acquire t fd canOpen next, r =>
    let (g, r) := r.acquire t fd canOpen
    (next g).exec r
  | release g next, r => next.exec (r.release g)
  | wake fd next, r =>
    let (n, r) := r.wakeBlocked fd
    (next n).exec r
  | signaled id next, r => (next (r.signaled id)).exec r
  | size next, r => (next r.size).exec r
  | blocked next, r => (next r.blocked).exec r
  | install next, r => next.exec r.install.2
  | run t fd ops s next, r =>
    let (e, r, s) := Registry.run t fd (operations ops) (r, s)
    (next e s).exec r

def operations : List (Guard → ω → Program ω α) → List (Op σ ω α)
  | [] => []
  | op :: rest => (fun g s => (op g s.2).exec s.1) :: operations rest

end

/-- The program on an empty registry, whose calls on the mechanism are watched. -/
def execOn (capacity : ℕ) (m : σ) (p : Program ω α) : Ending α × Registry (Watched σ) × ω :=
  p.exec (.ofCapacity capacity (Watched.watch m))

mutual

/-- The states of the registry from which the program makes its calls, and the one it leaves. -/
def points : Program ω α → Registry σ → List (Registry σ)
  | finish _ _, r => [r]
  | acquire t fd canOpen next, r =>
    r :: (next (r.acquire t fd canOpen).1).points (r.acquire t fd canOpen).2
  | release g next, r => r :: next.points (r.release g)
  | wake fd next, r => r :: (next (r.wakeBlocked fd).1).points (r.wakeBlocked fd).2
  | signaled id next, r => r :: (next (r.signaled id)).points r
  | size next, r => r :: (next r.size).points r
  | blocked next, r => r :: (next r.blocked).points r
  | install next, r => r :: next.points r.install.2
  | run t fd ops s next, r =>
    let x := Registry.run t fd (operations ops) (r, s)
    pointsInside t fd ops (r, s) ++ (next x.1 x.2.2).points x.2.1

def pointsInside (t : Thread) (fd : Descriptor) :
    List (Guard → ω → Program ω α) → Registry σ × ω → List (Registry σ)
  | [], s => [s.1]
  | op :: rest, s =>
    s.1 ::
      ((op (s.1.acquire t fd true).1 s.2).points (s.1.acquire t fd true).2 ++
        match Registry.attempt t fd (fun g s => (op g s.2).exec s.1) s with
        | (.retry, s) => pointsInside t fd rest s
        | (.finished _, s) => [s.1])

end

/-- An attempt, step by step. -/
lemma attempt_eq (t : Thread) (fd : Descriptor) (op : Op σ ω α) (r : Registry σ) (s : ω) :
    Registry.attempt t fd op (r, s) =
      let x := op (r.acquire t fd true).1 ((r.acquire t fd true).2, s)
      ((x.2.1.settle (r.acquire t fd true).1 x.1).1,
        (x.2.1.settle (r.acquire t fd true).1 x.1).2, x.2.2) := rfl

lemma mem_pointsInside_self (t : Thread) (fd : Descriptor)
    (ops : List (Guard → ω → Program ω α)) (s : Registry σ × ω) :
    s.1 ∈ pointsInside t fd ops s := by
  cases ops <;> simp [pointsInside]

lemma mem_points_self (p : Program ω α) (r : Registry σ) : r ∈ p.points r := by
  cases p with
  | run t fd ops s next => exact List.mem_append_left _ (mem_pointsInside_self t fd ops (r, s))
  | _ => simp [points]

/-- No call that leads to a state with `Q` takes `P` away. -/
structure Kept (P Q : Registry σ → Prop) : Prop where
  acquire : ∀ {r}, P r → ∀ t fd canOpen,
    Q (r.acquire t fd canOpen).2 → P (r.acquire t fd canOpen).2
  release : ∀ {r}, P r → ∀ g, P (r.release g)
  wake : ∀ {r}, P r → ∀ fd, P (r.wakeBlocked fd).2
  install : ∀ {r}, P r → P r.install.2
  note : ∀ {r}, P r → ∀ events, P (r.note events)

variable {P Q : Registry σ → Prop}

lemma Kept.settle (h : Kept P Q) {r : Registry σ} (hr : P r) (g : Guard) (e : Ending α) :
    P (r.settle g e).2 := by
  unfold Registry.settle
  cases e.verdict (r.signaled g.id) with
  | retry => exact h.release (h.note hr _) g
  | finished e => exact h.release hr g

omit [Mechanism σ] in
lemma forall_cons {r : Registry σ} {l : List (Registry σ)} {C : Prop} (hr : P r)
    (hq : ∀ q ∈ r :: l, Q q) (h : (∀ q ∈ l, Q q) → (∀ q ∈ l, P q) ∧ C) :
    (∀ q ∈ r :: l, P q) ∧ C := by
  obtain ⟨hall, hc⟩ := h (List.forall_mem_cons.mp hq).2
  exact ⟨List.forall_mem_cons.mpr ⟨hr, hall⟩, hc⟩

omit [Mechanism σ] in
lemma forall_append {l l' : List (Registry σ)} {B C : Prop} (hq : ∀ q ∈ l ++ l', Q q)
    (h : (∀ q ∈ l, Q q) → (∀ q ∈ l, P q) ∧ B)
    (h' : B → (∀ q ∈ l', Q q) → (∀ q ∈ l', P q) ∧ C) :
    (∀ q ∈ l ++ l', P q) ∧ C := by
  obtain ⟨hleft, hright⟩ := List.forall_mem_append.mp hq
  obtain ⟨hall, hb⟩ := h hleft
  obtain ⟨hall', hc⟩ := h' hb hright
  exact ⟨List.forall_mem_append.mpr ⟨hall, hall'⟩, hc⟩

mutual

/-- What no call takes away holds all the way and in the end. -/
theorem Kept.points (h : Kept P Q) :
    ∀ (p : Program ω α) {r : Registry σ}, P r → (∀ q ∈ p.points r, Q q) →
      (∀ q ∈ p.points r, P q) ∧ P (p.exec r).2.1
  | .finish _ _, _, hr, _ => ⟨fun _ hm => List.mem_singleton.mp hm ▸ hr, hr⟩
  | .acquire t fd canOpen next, _, hr, hq => forall_cons hr hq fun hq' =>
    h.points (next _) (h.acquire hr t fd canOpen (hq' _ (mem_points_self _ _))) hq'
  | .release g next, _, hr, hq => forall_cons hr hq (h.points next (h.release hr g))
  | .wake fd next, _, hr, hq => forall_cons hr hq (h.points (next _) (h.wake hr fd))
  | .signaled _ next, _, hr, hq => forall_cons hr hq (h.points (next _) hr)
  | .size next, _, hr, hq => forall_cons hr hq (h.points (next _) hr)
  | .blocked next, _, hr, hq => forall_cons hr hq (h.points (next _) hr)
  | .install next, _, hr, hq => forall_cons hr hq (h.points next (h.install hr))
  | .run t fd ops s next, _, hr, hq =>
    forall_append hq (h.pointsInside t fd ops s hr) (h.points (next _ _))

/-- It also holds at every point inside a call. -/
theorem Kept.pointsInside (h : Kept P Q) (t : Thread) (fd : Descriptor) :
    ∀ (ops : List (Guard → ω → Program ω α)) (s : ω) {r : Registry σ}, P r →
      (∀ q ∈ pointsInside t fd ops (r, s), Q q) →
        (∀ q ∈ pointsInside t fd ops (r, s), P q) ∧
          P (Registry.run t fd (operations ops) (r, s)).2.1
  | [], _, _, hr, _ => ⟨fun _ hm => List.mem_singleton.mp hm ▸ hr, hr⟩
  | op :: rest, s, r, hr, hq => by
    rw [operations, Registry.run_cons]
    refine forall_cons hr hq fun hq => forall_append hq (fun hq =>
      h.points (op _ s) (h.acquire hr t fd true (hq _ (mem_points_self _ _))) hq) ?_
    intro hended hq
    -- the attempt is judged where its operation has ended
    have hattempt : P (Registry.attempt t fd (fun g s => (op g s.2).exec s.1) (r, s)).2.1 :=
      h.settle hended (r.acquire t fd true).1 _
    generalize Registry.attempt t fd (fun g s => (op g s.2).exec s.1) (r, s) = x at hattempt hq ⊢
    obtain ⟨v, r', s'⟩ := x
    cases v with
    | retry => exact h.pointsInside t fd rest s' hattempt hq
    | finished e => exact ⟨fun _ hm => List.mem_singleton.mp hm ▸ hattempt, hattempt⟩

end

end

end Program

/-! ### Registries that cannot be told apart -/

section

variable {σ τ ω α : Type} [Mechanism σ] [Mechanism τ]

/-- Related registries answer every call alike and are related after it. -/
structure Agreement (R : Registry σ → Registry τ → Prop) : Prop where
  acquire : ∀ {r q}, R r q → ∀ t fd canOpen,
    (r.acquire t fd canOpen).1 = (q.acquire t fd canOpen).1 ∧
      R (r.acquire t fd canOpen).2 (q.acquire t fd canOpen).2
  release : ∀ {r q}, R r q → ∀ g, R (r.release g) (q.release g)
  wake : ∀ {r q}, R r q → ∀ fd,
    (r.wakeBlocked fd).1 = (q.wakeBlocked fd).1 ∧ R (r.wakeBlocked fd).2 (q.wakeBlocked fd).2
  signaled : ∀ {r q}, R r q → ∀ id, r.signaled id = q.signaled id
  size : ∀ {r q}, R r q → r.size = q.size
  blocked : ∀ {r q}, R r q → r.blocked = q.blocked
  install : ∀ {r q}, R r q → R r.install.2 q.install.2
  note : ∀ {r q}, R r q → ∀ events, R (r.note events) (q.note events)

/-- The outcome on related registries is the same and leaves them related. -/
def SameOutcome {β : Type} (R : Registry σ → Registry τ → Prop) (x : β × Registry σ × ω)
    (y : β × Registry τ × ω) : Prop :=
  x.1 = y.1 ∧ R x.2.1 y.2.1 ∧ x.2.2 = y.2.2

variable {R : Registry σ → Registry τ → Prop}

lemma Agreement.settle (h : Agreement R) {r : Registry σ} {q : Registry τ} (hr : R r q)
    (g : Guard) (e : Ending α) : (r.settle g e).1 = (q.settle g e).1 ∧
      R (r.settle g e).2 (q.settle g e).2 := by
  unfold Registry.settle
  rw [h.signaled hr]
  cases e.verdict (q.signaled g.id) with
  | retry => exact ⟨rfl, h.release (h.note hr _) g⟩
  | finished e => exact ⟨rfl, h.release hr g⟩

/-- An attempt goes alike if its operation does. -/
lemma Agreement.attempt (h : Agreement R) {r : Registry σ} {q : Registry τ} (hr : R r q)
    {op : Op σ ω α} {op' : Op τ ω α}
    (hop : ∀ g s {r q}, R r q → SameOutcome R (op g (r, s)) (op' g (q, s))) (t : Thread)
    (fd : Descriptor) (s : ω) :
    SameOutcome R (Registry.attempt t fd op (r, s)) (Registry.attempt t fd op' (q, s)) := by
  obtain ⟨hg, hacquired⟩ := h.acquire hr t fd true
  obtain ⟨hend, hdone, hmind⟩ := hop (q.acquire t fd true).1 s hacquired
  obtain ⟨hverdict, hsettled⟩ := h.settle hdone (q.acquire t fd true).1
    (op' (q.acquire t fd true).1 ((q.acquire t fd true).2, s)).1
  rw [Program.attempt_eq, Program.attempt_eq, hg]
  dsimp only
  rw [hend]
  exact ⟨hverdict, hsettled, hmind⟩

mutual

/-- **No program tells related registries apart**: it ends the same, has the same in mind, and
leaves the registries related. -/
theorem Agreement.exec (h : Agreement R) :
    ∀ (p : Program ω α) {r : Registry σ} {q : Registry τ}, R r q →
      SameOutcome R (p.exec r) (p.exec q)
  | .finish _ _, _, _, hr => ⟨rfl, hr, rfl⟩
  | .acquire t fd canOpen next, _, _, hr => by
    obtain ⟨hg, hr'⟩ := h.acquire hr t fd canOpen
    simp only [Program.exec, hg]
    exact h.exec _ hr'
  | .release g next, _, _, hr => h.exec next (h.release hr g)
  | .wake fd next, _, _, hr => by
    obtain ⟨hn, hr'⟩ := h.wake hr fd
    simp only [Program.exec, hn]
    exact h.exec _ hr'
  | .signaled _ next, _, _, hr => by
    simp only [Program.exec, h.signaled hr]
    exact h.exec _ hr
  | .size next, _, _, hr => by
    simp only [Program.exec, h.size hr]
    exact h.exec _ hr
  | .blocked next, _, _, hr => by
    simp only [Program.exec, h.blocked hr]
    exact h.exec _ hr
  | .install next, _, _, hr => h.exec next (h.install hr)
  | .run t fd ops s next, _, _, hr => by
    obtain ⟨he, hr', hs⟩ := h.runs t fd ops s hr
    simp only [Program.exec, he, hs]
    exact h.exec _ hr'

/-- A call runs alike on related registries. -/
theorem Agreement.runs (h : Agreement R) (t : Thread) (fd : Descriptor) :
    ∀ (ops : List (Guard → ω → Program ω α)) (s : ω) {r : Registry σ} {q : Registry τ}, R r q →
      SameOutcome R (Registry.run t fd (Program.operations ops) (r, s))
        (Registry.run t fd (Program.operations ops) (q, s))
  | [], _, _, _, hr => ⟨rfl, hr, rfl⟩
  | op :: rest, s, r, q, hr => by
    have hattempt : SameOutcome R
        (Registry.attempt t fd (fun g s => (op g s.2).exec s.1) (r, s))
        (Registry.attempt t fd (fun g s => (op g s.2).exec s.1) (q, s)) :=
      h.attempt hr (fun g s {_ _} hr => h.exec (op g s) hr) t fd s
    rw [Program.operations, Program.operations, Registry.run_cons, Registry.run_cons]
    generalize Registry.attempt t fd (fun g s => (op g s.2).exec s.1) (r, s) = x at hattempt ⊢
    generalize Registry.attempt t fd (fun g s => (op g s.2).exec s.1) (q, s) = y at hattempt ⊢
    obtain ⟨v, r', s'⟩ := x
    obtain ⟨v', q', s''⟩ := y
    obtain ⟨rfl, hr', rfl⟩ := hattempt
    cases v with
    | retry => exact h.runs t fd rest s' hr'
    | finished e => exact ⟨rfl, hr', rfl⟩

end

end

end AsyncClose
