import AsyncClose.Proofs.Registry.Steps

/-!
The attempts of a call, one by one.

A call goes on for as long as its attempts are merely interrupted. The last attempt is the one that
was not, and its ending is the ending of the call, unless its guard was marked by then.
-/

namespace AsyncClose

/-- One attempt of a call: the guard it was made under, and how things stood when the operation was
called and when it came back. -/
structure Invocation (σ ω α : Type) where
  guard : Guard
  before : Registry σ × ω
  ending : Ending α
  after : Registry σ × ω

namespace Invocation

variable {σ ω α : Type}

def verdict (a : Invocation σ ω α) : Verdict α :=
  a.ending.verdict (a.after.1.signaled a.guard.id)

end Invocation

namespace Registry

variable {σ ω α : Type} [Mechanism σ] (t : Thread) (fd : Descriptor)

def invocation (op : Op σ ω α) (s : Registry σ × ω) : Invocation σ ω α :=
  let g := (s.1.acquire t fd true).1
  let r := (s.1.acquire t fd true).2
  ⟨g, (r, s.2), (op g (r, s.2)).1, (op g (r, s.2)).2⟩

def invocations : List (Op σ ω α) → Registry σ × ω → List (Invocation σ ω α)
  | [], _ => []
  | op :: rest, s =>
    invocation t fd op s ::
      match attempt t fd op s with
      | (.retry, s) => invocations rest s
      | (.finished _, _) => []

def settled (a : Invocation σ ω α) : Registry σ := (a.after.1.settle a.guard a.ending).2

/-- An attempt that is going to be made again is reported, and the guard is released in any case. -/
lemma settled_eq (a : Invocation σ ω α) :
    settled a =
      (match a.verdict with
        | .retry => a.after.1.note [.retrying a.guard.fd]
        | .finished _ => a.after.1).release a.guard := by
  unfold settled settle Invocation.verdict
  cases a.ending.verdict (a.after.1.signaled a.guard.id) <;> rfl

lemma slab_settled (a : Invocation σ ω α) :
    (settled a).slab = (a.after.1.slab.remove a.guard.id).2 := by
  rw [settled_eq]
  cases a.verdict <;> rfl

lemma attempt_eq_invocation (op : Op σ ω α) (s : Registry σ × ω) :
    attempt t fd op s =
      ((invocation t fd op s).verdict, settled (invocation t fd op s),
        (invocation t fd op s).after.2) := by
  have hfst : ∀ (r : Registry σ) (g : Guard) (e : Ending α),
      (r.settle g e).1 = e.verdict (r.signaled g.id) := by
    intro r g e
    unfold settle
    cases e.verdict (r.signaled g.id) <;> rfl
  rw [Invocation.verdict, ← hfst]
  rfl

lemma invocations_cons_eq (op : Op σ ω α) (rest : List (Op σ ω α)) (s : Registry σ × ω) :
    invocations t fd (op :: rest) s =
      invocation t fd op s ::
        (match (invocation t fd op s).verdict with
          | .retry =>
            invocations t fd rest (settled (invocation t fd op s), (invocation t fd op s).after.2)
          | .finished _ => []) := by
  rw [invocations, attempt_eq_invocation]
  cases (invocation t fd op s).verdict <;> rfl

lemma exists_of_mem_invocations {ops : List (Op σ ω α)} {s : Registry σ × ω} {a : Invocation σ ω α}
    (h : a ∈ invocations t fd ops s) : ∃ op ∈ ops, ∃ s', a = invocation t fd op s' := by
  induction ops generalizing s with
  | nil => simp [invocations] at h
  | cons op rest ih =>
    rw [invocations_cons_eq] at h
    rcases List.mem_cons.mp h with rfl | h
    · exact ⟨op, List.mem_cons_self, s, rfl⟩
    · split at h
      · obtain ⟨op', hop, s', hs⟩ := ih h
        exact ⟨op', List.mem_cons_of_mem _ hop, s', hs⟩
      · simp at h

end Registry

end AsyncClose
