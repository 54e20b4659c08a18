import AsyncClose.Registry.Basic

/-!
Guards: the brackets around a blocking call. A guard is acquired just before the call and
released just after, and its release always takes its entry out of the registry.

The thread enters before its entry can be found and leaves after it is gone, so a wake always
finds the thread between the two.

Running a blocking call so that a close ends it.

Every attempt of the call has a guard of its own. If a close was requested under it, the call
has failed as closed, whatever it says itself. If the call was merely interrupted it is made
again. Anything else is its outcome.
-/

namespace AsyncClose

structure Guard where
  id : GuardId
  fd : Descriptor
  thread : Thread
  deriving DecidableEq

namespace Guard

def shape (g : Guard) : Text.Shape :=
  .record "BlockGuard"
    [("id", .word g.id.text), ("fd", .word g.fd.text),
      ("thread", .tuple "ThreadHandle" [.word g.thread.text])]

end Guard

namespace Registry

variable {σ : Type} [Mechanism σ]

def acquire (t : Thread) (fd : Descriptor) (canOpen : Bool) (r : Registry σ) :
    Guard × Registry σ :=
  let (id, r) := (r.enter t canOpen).register fd t
  (⟨id, fd, t⟩, r)

def release (g : Guard) (r : Registry σ) : Registry σ := (r.unregister g.id).2.leave g.thread

end Registry

/-! ### Calls that a close ends -/

/-- How a call comes back: with a result, or by unwinding. -/
inductive Ending (α : Type) where
  | returned (result : Except CallError α)
  | panicked (text : String)

inductive Verdict (α : Type) where
  | retry
  | finished (ending : Ending α)

def closedUnder : CallError := CloseError.closed.toCall

def Ending.verdict {α : Type} (signaled : Bool) : Ending α → Verdict α
  | .panicked s => .finished (.panicked s)
  | .returned r =>
    if signaled then .finished (.returned (.error closedUnder))
    else
      match r with
      | .ok x => .finished (.returned (.ok x))
      | .error e => if e.isInterrupted then .retry else .finished (.returned (.error e))

/-- A call that is made under a guard. It may do anything with the registry, and with whatever
else there is. -/
abbrev Op (σ ω α : Type) := Guard → Registry σ × ω → Ending α × Registry σ × ω

namespace Registry

variable {σ ω α : Type} [Mechanism σ]

def settle (g : Guard) (e : Ending α) (r : Registry σ) : Verdict α × Registry σ :=
  match e.verdict (r.signaled g.id) with
  | .retry => (.retry, (r.note [.retrying g.fd]).release g)
  | .finished e => (.finished e, r.release g)

def attempt (t : Thread) (fd : Descriptor) (op : Op σ ω α) (s : Registry σ × ω) :
    Verdict α × Registry σ × ω :=
  let (g, r) := s.1.acquire t fd true
  let (e, r, w) := op g (r, s.2)
  let (v, r) := r.settle g e
  (v, r, w)

/-- Makes attempts until one is final, the n-th with the n-th operation. There is no ending if
all of them ask for another attempt. -/
def run (t : Thread) (fd : Descriptor) :
    List (Op σ ω α) → Registry σ × ω → Option (Ending α) × Registry σ × ω
  | [], s => (none, s)
  | op :: rest, s =>
    match attempt t fd op s with
    | (.retry, s) => run t fd rest s
    | (.finished e, s) => (some e, s)

@[simp] theorem run_nil (t : Thread) (fd : Descriptor) (s : Registry σ × ω) :
    run (α := α) t fd [] s = (none, s) := rfl

theorem run_cons (t : Thread) (fd : Descriptor) (op : Op σ ω α) (rest : List (Op σ ω α))
    (s : Registry σ × ω) :
    run t fd (op :: rest) s =
      (match attempt t fd op s with
        | (.retry, s) => run t fd rest s
        | (.finished e, s) => (some e, s)) := rfl

end Registry

end AsyncClose
