import Mathlib.Algebra.Group.Nat.Even
import Mathlib.Logic.Function.Conjugate
import AsyncClose.Proofs.Failure.Layers
import AsyncClose.Registry.Guard

/-!
Chains of conversions.

A failure becomes the error of a call and that error a failure again, any number of times. Only the
first conversion of a failure of this library can put it into a box. From then on the chain goes
back and forth between the same two errors.
-/

namespace AsyncClose

/-- The error as a failure of this library, and as the error of a call again. -/
def CallError.rewrapped (e : CallError) : CallError := (CloseError.call e).toCall

lemma CallError.rewrapped_eq (e : CallError) : e.rewrapped = e := CloseError.toCall_call e

/-- Only the direct payload of a box counts, so a failure that is boxed has to be the close. -/
lemma CloseError.isClosed_toCall (e : CloseError) :
    e.toCall.isClosed = true ↔ e = .closed ∨ ∃ x, e = .call x ∧ x.isClosed = true := by
  cases e with
  | alreadySetUp => simp [toCall, CallError.isClosed]
  | setupFailed x => simp [toCall, CallError.isClosed]
  | call x => simp [toCall]
  | closed => simp [toCall, CallError.isClosed]

namespace Failure

def convert : Failure → Failure
  | call e => close (.call e)
  | close e => call e.toCall

/-- Whether a close is reported. A failure of this library is asked as the error of a call. -/
def reportsClose : Failure → Bool
  | call e => e.isClosed
  | close e => e.toCall.isClosed

lemma reportsClose_convert (f : Failure) : f.convert.reportsClose = f.reportsClose := by
  cases f with
  | call e => rw [convert, reportsClose, reportsClose, CloseError.toCall_call]
  | close e => rfl

lemma reportsClose_iterate_convert (f : Failure) (n : ℕ) :
    (convert^[n] f).reportsClose = f.reportsClose := by
  have hstep : Function.Semiconj reportsClose convert id := reportsClose_convert
  have hrun := (hstep.iterate_right n).eq f
  rwa [Function.iterate_id] at hrun

lemma alike_convert (f : Failure) : f.convert.Alike f := by
  cases f with
  | call e => exact alike_wrapped e
  | close e => exact alike_toCall e

lemma alike_iterate_convert (f : Failure) (n : ℕ) : (convert^[n] f).Alike f := by
  induction n with
  | zero => exact alike_of_cause? rfl rfl
  | succ n ih =>
    rw [Function.iterate_succ_apply']
    exact (alike_convert _).trans ih

/-- The error of a call never meets a box: it is wrapped and unwrapped in turn. -/
lemma iterate_convert_call (e : CallError) (n : ℕ) :
    convert^[n] (call e) = if Even n then call e else close (.call e) := by
  induction n with
  | zero => rfl
  | succ n ih =>
    rw [Function.iterate_succ_apply', ih]
    by_cases hn : Even n
    · rw [if_pos hn, if_neg (by rwa [Nat.even_add_one, not_not])]
      rfl
    · rw [if_neg hn, if_pos (Nat.even_add_one.mpr hn)]
      rfl

/-- **Conversions lose nothing.** A failure as the error of a call says what it said and has the
causes it had. That error, wrapped and unwrapped any number of times, is itself again, and so is
every other error of a call: a chain of conversions alternates between the error and its wrapped
form. A failure becomes a report of a close only if it is the close, or wraps such a report. A chain
of any length, from either form, changes neither what is said, nor the causes, nor whether a close
is reported, so the report a guarded call ends with stays one. -/
theorem conversions_lose_nothing (e : CloseError) :
    (call e.toCall).Alike (close e) ∧
      (∀ n, CallError.rewrapped^[n] e.toCall = e.toCall) ∧
      (∀ (x : CallError) (n : ℕ), CallError.rewrapped^[n] x = x ∧
        convert^[n] (call x) = if Even n then call x else close (.call x)) ∧
      (e.toCall.isClosed = true ↔ e = .closed ∨ ∃ x, e = .call x ∧ x.isClosed = true) ∧
      (∀ f n, (convert^[n] f).Alike f ∧ (convert^[n] f).reportsClose = f.reportsClose) ∧
      ∀ n, (convert^[n] (call closedUnder)).reportsClose = true := by
  have hrewrapped (x : CallError) (n : ℕ) : CallError.rewrapped^[n] x = x :=
    Function.iterate_fixed x.rewrapped_eq n
  refine ⟨alike_toCall e, hrewrapped _, fun x n => ⟨hrewrapped x n, iterate_convert_call x n⟩,
    e.isClosed_toCall, fun f n => ⟨alike_iterate_convert f n, reportsClose_iterate_convert f n⟩,
    fun n => ?_⟩
  rw [reportsClose_iterate_convert]
  rfl

end Failure

end AsyncClose
