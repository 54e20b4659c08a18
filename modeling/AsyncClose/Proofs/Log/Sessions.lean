import AsyncClose.Proofs.History.Basic
import AsyncClose.Session.Request

/-!
Sessions of commands and of calls that are made again.

An action is a command or a call, and a call makes its attempts by a script. What an attempt does
is a session again, so there can be calls inside calls. Every attempt has a guard of its own, which
belongs to the call and which no command can name.
-/

namespace AsyncClose

namespace Roster

section

variable {σ α : Type} [Mechanism σ]

def begun (t : Thread) (fd : Descriptor) (w : Roster σ) : Guard × Roster σ :=
  let (g, r) := w.registry.acquire t fd true
  (g, ⟨r, w.guards⟩)

def settled (g : Guard) (e : Ending (Option α)) (w : Roster σ) : Verdict (Option α) × Roster σ :=
  let (v, r) := w.registry.settle g e
  (v, ⟨r, w.guards⟩)

mutual

def act : Action Command α → Roster σ → Roster σ
  | .request _ c, w => w.perform c
  | .run t fd script, w =>
    let (_, r, guards) := Registry.run t fd (attempts script) (w.registry, w.guards)
    ⟨r, guards⟩

def actAll : List (Action Command α) → Roster σ → Roster σ
  | [], w => w
  | a :: rest, w => actAll rest (act a w)

def attempts :
    List (Attempt Command α) → List (Op σ (List (Guard × Fate)) (Option α))
  | [] => []
  | .mk actions ending :: rest =>
    (fun _ s =>
      let w := actAll actions ⟨s.1, s.2⟩
      (ending, w.registry, w.guards)) :: attempts rest

end

def call (t : Thread) (fd : Descriptor) (script : List (Attempt Command α)) (w : Roster σ) :
    Roster σ :=
  act (.run t fd script) w

/-- A call attempt by attempt. -/
lemma call_cons (t : Thread) (fd : Descriptor) (actions : List (Action Command α))
    (ending : Ending (Option α)) (rest : List (Attempt Command α)) (w : Roster σ) :
    call t fd (.mk actions ending :: rest) w =
      match settled (w.begun t fd).1 ending (actAll actions (w.begun t fd).2) with
      | (.retry, w) => call t fd rest w
      | (.finished _, w) => w := by
  rw [call, act, attempts, Registry.run_cons]
  simp only [Registry.attempt, begun, settled]
  generalize (actAll actions ⟨(w.registry.acquire t fd true).2, w.guards⟩).registry.settle
    (w.registry.acquire t fd true).1 ending = x
  obtain ⟨_ | _, r⟩ := x <;> rfl

mutual

/-- The states after every step of an action, those inside calls included. -/
def visited : Action Command α → Roster σ → List (Roster σ)
  | .request _ c, w => [w.perform c]
  | .run t fd script, w => visitedInside t fd script w

def visitedAll : List (Action Command α) → Roster σ → List (Roster σ)
  | [], _ => []
  | a :: rest, w => visited a w ++ visitedAll rest (act a w)

def visitedInside (t : Thread) (fd : Descriptor) :
    List (Attempt Command α) → Roster σ → List (Roster σ)
  | [], _ => []
  | .mk actions ending :: rest, w =>
    let u := (w.begun t fd).2
    let x := settled (w.begun t fd).1 ending (actAll actions u)
    u :: (visitedAll actions u ++
      x.2 :: match x.1 with
        | .retry => visitedInside t fd rest x.2
        | .finished _ => [])

end

lemma visitedInside_cons (t : Thread) (fd : Descriptor) (actions : List (Action Command α))
    (ending : Ending (Option α)) (rest : List (Attempt Command α)) (w : Roster σ) :
    visitedInside t fd (.mk actions ending :: rest) w =
      (w.begun t fd).2 :: (visitedAll actions (w.begun t fd).2 ++
        match settled (w.begun t fd).1 ending (actAll actions (w.begun t fd).2) with
        | (.retry, w) => w :: visitedInside t fd rest w
        | (.finished _, w) => [w]) := by
  rw [visitedInside]
  rcases settled (w.begun t fd).1 ending (actAll actions (w.begun t fd).2) with ⟨_ | _, w'⟩ <;> rfl

/-- A session of commands alone visits the state after each of them. -/
lemma run_mem_visitedAll (w : Roster σ) {cs : List Command} (hcs : cs ≠ []) (ds : List Command) :
    w.run cs ∈ visitedAll (α := α) ((cs ++ ds).map (.request [])) w := by
  induction cs generalizing w with
  | nil => exact absurd rfl hcs
  | cons c cs ih =>
    rw [List.cons_append, List.map_cons, visitedAll, visited, act]
    cases cs with
    | nil => exact List.mem_cons_self
    | cons c' cs => exact List.mem_cons_of_mem _ (ih (w.perform c) (List.cons_ne_nil c' cs))

/-- `P` tells of a registry and its guards, given the guards of the attempts under way, the last one
first. No step to a state with `Q` takes it away. -/
structure Kept (α : Type) (P : List Guard → Roster σ → Prop) (Q : Roster σ → Prop) : Prop where
  perform : ∀ {gs w}, P gs w → ∀ c, Q (w.perform c) → P gs (w.perform c)
  begun : ∀ {gs w}, P gs w → ∀ t fd, Q (w.begun t fd).2 →
    P ((w.begun t fd).1 :: gs) (w.begun t fd).2
  settled : ∀ {gs g w}, P (g :: gs) w → ∀ e : Ending (Option α), P gs (w.settled g e).2

variable {P : List Guard → Roster σ → Prop} {Q : Roster σ → Prop}

/-- All states in the list are such that `P` holds with some attempts under way. -/
def Throughout (P : List Guard → Roster σ → Prop) (l : List (Roster σ)) : Prop :=
  ∀ v ∈ l, ∃ gs, P gs v

mutual

/-- What no step takes away holds after every step of an action. -/
theorem Kept.visited (h : Kept α P Q) :
    ∀ (a : Action Command α) {gs : List Guard} {w : Roster σ}, P gs w →
      (∀ v ∈ Roster.visited a w, Q v) → Throughout P (Roster.visited a w) ∧ P gs (act a w)
  | .request _ c, gs, w, hw, hq => by
    have hc := h.perform hw c (hq _ (List.mem_singleton_self _))
    exact ⟨fun v hv => ⟨gs, List.mem_singleton.mp hv ▸ hc⟩, hc⟩
  | .run t fd script, _, _, hw, hq => h.visitedInside t fd script hw hq

/-- It holds after every step of a session. -/
theorem Kept.visitedAll (h : Kept α P Q) :
    ∀ (as : List (Action Command α)) {gs : List Guard} {w : Roster σ}, P gs w →
      (∀ v ∈ Roster.visitedAll as w, Q v) →
        Throughout P (Roster.visitedAll as w) ∧ P gs (actAll as w)
  | [], _, _, hw, _ => ⟨fun _ hv => absurd hv List.not_mem_nil, hw⟩
  | a :: rest, _, _, hw, hq => by
    obtain ⟨hqa, hqrest⟩ := List.forall_mem_append.mp hq
    obtain ⟨hall, hw'⟩ := h.visited a hw hqa
    obtain ⟨hall', hw''⟩ := h.visitedAll rest hw' hqrest
    exact ⟨List.forall_mem_append.mpr ⟨hall, hall'⟩, hw''⟩

/-- It holds after every step of a call. -/
theorem Kept.visitedInside (h : Kept α P Q) (t : Thread) (fd : Descriptor) :
    ∀ (script : List (Attempt Command α)) {gs : List Guard} {w : Roster σ}, P gs w →
      (∀ v ∈ Roster.visitedInside t fd script w, Q v) →
        Throughout P (Roster.visitedInside t fd script w) ∧ P gs (call t fd script w)
  | [], _, _, hw, _ => ⟨fun _ hv => absurd hv List.not_mem_nil, hw⟩
  | .mk actions ending :: rest, gs, w, hw, hq => by
    rw [visitedInside_cons] at hq ⊢
    rw [call_cons]
    obtain ⟨hqbegun, hq⟩ := List.forall_mem_cons.mp hq
    obtain ⟨hqactions, hqrest⟩ := List.forall_mem_append.mp hq
    have hbegun := h.begun hw t fd hqbegun
    obtain ⟨hall, hacted⟩ := h.visitedAll actions hbegun hqactions
    have hsettled := h.settled hacted ending
    generalize Roster.settled (w.begun t fd).1 ending (actAll actions (w.begun t fd).2) = x
      at hsettled hqrest ⊢
    obtain ⟨_ | _, w'⟩ := x
    · obtain ⟨hrest, hw'⟩ :=
        h.visitedInside t fd rest hsettled (List.forall_mem_cons.mp hqrest).2
      exact ⟨List.forall_mem_cons.mpr ⟨⟨_, hbegun⟩, List.forall_mem_append.mpr
        ⟨hall, List.forall_mem_cons.mpr ⟨⟨gs, hsettled⟩, hrest⟩⟩⟩, hw'⟩
    · exact ⟨List.forall_mem_cons.mpr ⟨⟨_, hbegun⟩, List.forall_mem_append.mpr
        ⟨hall, List.forall_mem_singleton.mpr ⟨gs, hsettled⟩⟩⟩, hsettled⟩

end

/-- A session begins with no attempt under way. -/
theorem Kept.throughout (h : Kept α P Q) (as : List (Action Command α)) {w : Roster σ}
    (hw : P [] w) (hq : ∀ v ∈ Roster.visitedAll as w, Q v) :
    Throughout P (Roster.visitedAll as w) :=
  (h.visitedAll as hw hq).1

end

end Roster

end AsyncClose
