import Mathlib.Data.List.Nodup
import AsyncClose.Failure.Text

/-!
Errors layer by layer.

The error of a call and a failure of this library hold each other, to any depth. Under all layers
there is one innermost error, the leaf. A failed setup adds its text to what is shown and itself to
the chain of causes; a wrapped call error and a box add nothing.
-/

namespace AsyncClose

/-- The innermost error, which holds no other. -/
inductive Leaf where
  | os (errno : Errno)
  | plain (kind : ErrorKind)
  | message (kind : ErrorKind) (text : String)
  | alreadySetUp
  | closed
  deriving DecidableEq

/-- What an error is to the error it holds. -/
inductive Layer where
  /-- A setup that failed with it. -/
  | setup
  /-- A guarded call that failed with it. -/
  | call
  /-- A box with it as payload. -/
  | box (kind : ErrorKind)
  deriving DecidableEq

mutual

/-- The layers around the leaf, the outermost first. -/
def CallError.layers : CallError → List Layer
  | .os _ => []
  | .plain _ => []
  | .message _ _ => []
  | .boxed k e => .box k :: e.layers

/-- The layers around the leaf, the outermost first. -/
def CloseError.layers : CloseError → List Layer
  | .alreadySetUp => []
  | .setupFailed e => .setup :: e.layers
  | .call e => .call :: e.layers
  | .closed => []

end

mutual

def CallError.leaf : CallError → Leaf
  | .os n => .os n
  | .plain k => .plain k
  | .message k s => .message k s
  | .boxed _ e => e.leaf

def CloseError.leaf : CloseError → Leaf
  | .alreadySetUp => .alreadySetUp
  | .setupFailed e => e.leaf
  | .call e => e.leaf
  | .closed => .closed

end

namespace Leaf

def display : Leaf → String
  | os n => n.text ++ " (os error " ++ toString n.code ++ ")"
  | plain k => k.description
  | message _ s => s
  | alreadySetUp => "closewake is already initialized"
  | closed => "descriptor closed while blocked on it"

/-- The text of a failed setup, so many times, and then the leaf. -/
def under (l : Leaf) (setups : ℕ) : String :=
  String.join (List.replicate setups setupFailedText) ++ l.display

@[simp] lemma under_zero (l : Leaf) : l.under 0 = l.display := by simp [under]

lemma under_succ (l : Leaf) (k : ℕ) : l.under (k + 1) = setupFailedText ++ l.under k := by
  rw [under, List.replicate_succ, String.join_cons, String.append_assoc, under]

end Leaf

inductive Failure where
  | call (e : CallError)
  | close (e : CloseError)

namespace Failure

def display : Failure → String
  | call e => e.display
  | close e => e.display

def cause? : Failure → Option CallError
  | call e => e.cause?
  | close e => e.cause?

def causes : Failure → List CallError
  | call e => e.causes
  | close e => e.causes

def layers : Failure → List Layer
  | call e => e.layers
  | close e => e.layers

def leaf : Failure → Leaf
  | call e => e.leaf
  | close e => e.leaf

def setups (f : Failure) : ℕ := f.layers.count .setup

/-- The `i`-th cause, counted from zero, found by asking for a cause time and again. -/
def causeAt? (f : Failure) : ℕ → Option CallError
  | 0 => f.cause?
  | i + 1 => f.cause?.bind fun c => (call c).causeAt? i

/-- Both forms at once, layer by layer. -/
@[elab_as_elim, induction_eliminator]
theorem induction {P : Failure → Prop} (os : ∀ n, P (call (.os n)))
    (plain : ∀ k, P (call (.plain k))) (message : ∀ k s, P (call (.message k s)))
    (boxed : ∀ k e, P (close e) → P (call (.boxed k e)))
    (alreadySetUp : P (close .alreadySetUp))
    (setupFailed : ∀ e, P (call e) → P (close (.setupFailed e)))
    (wrapped : ∀ e, P (call e) → P (close (.call e))) (closed : P (close .closed)) :
    ∀ f, P f
  | call (.os n) => os n
  | call (.plain k) => plain k
  | call (.message k s) => message k s
  | call (.boxed k e) => boxed k e (induction os plain message boxed alreadySetUp setupFailed
    wrapped closed (close e))
  | close .alreadySetUp => alreadySetUp
  | close (.setupFailed e) => setupFailed e (induction os plain message boxed alreadySetUp
    setupFailed wrapped closed (call e))
  | close (.call e) => wrapped e (induction os plain message boxed alreadySetUp setupFailed
    wrapped closed (call e))
  | close .closed => closed

/-! ### Layers that do not show -/

/-- Both say the same, and both have the same causes one by one. -/
def Alike (f g : Failure) : Prop := f.display = g.display ∧ ∀ i, f.causeAt? i = g.causeAt? i

lemma alike_of_cause? {f g : Failure} (hd : f.display = g.display) (hc : f.cause? = g.cause?) :
    f.Alike g := by
  refine ⟨hd, fun i => ?_⟩
  cases i with
  | zero => exact hc
  | succ i => rw [causeAt?, causeAt?, hc]

lemma Alike.trans {f g h : Failure} (hfg : f.Alike g) (hgh : g.Alike h) : f.Alike h :=
  ⟨hfg.1.trans hgh.1, fun i => (hfg.2 i).trans (hgh.2 i)⟩

lemma alike_wrapped (e : CallError) : (close (.call e)).Alike (call e) := alike_of_cause? rfl rfl

lemma alike_boxed (k : ErrorKind) (e : CloseError) : (call (.boxed k e)).Alike (close e) :=
  alike_of_cause? rfl rfl

/-- A failure as the error of a call: it is unwrapped, or it is boxed. -/
lemma alike_toCall (e : CloseError) : (call e.toCall).Alike (close e) := by
  cases e with
  | call e => exact ⟨rfl, fun i => ((alike_wrapped e).2 i).symm⟩
  | alreadySetUp => exact alike_boxed _ _
  | setupFailed e => exact alike_boxed _ _
  | closed => exact alike_boxed _ _

/-! ### What shows -/

lemma display_eq (f : Failure) : f.display = f.leaf.under f.setups := by
  induction f with
  | os n => exact (Leaf.under_zero (.os n)).symm
  | plain k => exact (Leaf.under_zero (.plain k)).symm
  | message k s => exact (Leaf.under_zero (.message k s)).symm
  | boxed k e ih => exact ih
  | alreadySetUp => exact (Leaf.under_zero .alreadySetUp).symm
  | setupFailed e ih =>
    have hsetups : (close (.setupFailed e)).setups = (call e).setups + 1 := List.count_cons_self
    have hleaf : (close (.setupFailed e)).leaf = (call e).leaf := rfl
    rw [hsetups, hleaf, Leaf.under_succ, ← ih]
    rfl
  | wrapped e ih => exact ih
  | closed => exact (Leaf.under_zero .closed).symm

lemma causes_eq (f : Failure) : f.causes = f.cause?.elim [] fun c => c :: (call c).causes := by
  cases f with
  | call e =>
    rw [causes, e.causes_eq, cause?]
    cases e.cause? <;> rfl
  | close e =>
    rw [causes, e.causes_eq, cause?]
    cases e.cause? <;> rfl

/-- Asking for causes time and again gives the list of all causes. -/
lemma causeAt?_eq (f : Failure) (i : ℕ) : f.causeAt? i = f.causes[i]? := by
  induction i generalizing f with
  | zero =>
    rw [causes_eq, causeAt?]
    cases f.cause? <;> rfl
  | succ i ih =>
    rw [causes_eq, causeAt?]
    cases f.cause? with
    | none => rfl
    | some c => exact ih (call c)

/-- Each cause has one failed setup less around its leaf than what it is the cause of. -/
lemma setups_causes (f : Failure) :
    f.causes.map (fun c => (call c).setups) = (List.range f.setups).reverse := by
  induction f with
  | os n => rfl
  | plain k => rfl
  | message k s => rfl
  | boxed k e ih => exact ih
  | alreadySetUp => rfl
  | setupFailed e ih =>
    have hsetups : (close (.setupFailed e)).setups = (call e).setups + 1 := List.count_cons_self
    have hcauses : (close (.setupFailed e)).causes = e :: (call e).causes := rfl
    rw [hsetups, hcauses, List.map_cons, ih, List.range_succ, List.reverse_append]
    rfl
  | wrapped e ih => exact ih
  | closed => rfl

/-- All causes have the same leaf. -/
lemma leaf_of_mem_causes (f : Failure) : ∀ c ∈ f.causes, (call c).leaf = f.leaf := by
  induction f with
  | os n => exact fun c hc => absurd hc List.not_mem_nil
  | plain k => exact fun c hc => absurd hc List.not_mem_nil
  | message k s => exact fun c hc => absurd hc List.not_mem_nil
  | boxed k e ih => exact ih
  | alreadySetUp => exact fun c hc => absurd hc List.not_mem_nil
  | setupFailed e ih =>
    intro c hc
    rcases List.mem_cons.mp hc with rfl | hc
    · rfl
    · exact ih c hc
  | wrapped e ih => exact ih
  | closed => exact fun c hc => absurd hc List.not_mem_nil

lemma length_causes (f : Failure) : f.causes.length = f.setups := by
  have hlen := congrArg List.length (setups_causes f)
  rwa [List.length_map, List.length_reverse, List.length_range] at hlen

/-- No error is its own cause, however far down the chain. -/
lemma nodup_causes (f : Failure) : f.causes.Nodup := by
  refine List.Nodup.of_map (fun c => (call c).setups) ?_
  rw [setups_causes]
  exact List.nodup_reverse.mpr List.nodup_range

/-- The `i`-th cause shows the leaf under the failed setups that are left. -/
lemma display_getElem_causes (f : Failure) {i : ℕ} {c : CallError} (hc : f.causes[i]? = some c) :
    c.display = f.leaf.under (f.setups - 1 - i) := by
  obtain ⟨hi, rfl⟩ := List.getElem?_eq_some_iff.mp hc
  have hleaf := leaf_of_mem_causes f _ (List.getElem_mem hi)
  have hsetups : (call f.causes[i]).setups = f.setups - 1 - i := by
    have hmap : (f.causes.map fun c => (call c).setups)[i]? = some (call f.causes[i]).setups := by
      rw [List.getElem?_map, hc, Option.map_some]
    rw [length_causes] at hi
    rw [setups_causes, List.getElem?_reverse (by rwa [List.length_range]), List.length_range,
      List.getElem?_range (by omega)] at hmap
    exact (Option.some.inj hmap).symm
  rw [← hleaf, ← hsetups]
  exact display_eq (call f.causes[i])

/-- **Only failed setups show.** An error, in either form and however it is nested, with `k` failed
setups around its leaf: it shows the text of a failed setup `k` times and then the leaf, and it has
`k` causes, all different, of which the `i`-th shows that text `k - 1 - i` times and then the leaf.
A failed setup is the only layer that adds a cause, the error it holds. A wrapped call error, a box
and a conversion show as what they hold and have the very causes it has. -/
theorem only_setups_show (f : Failure) :
    f.display = f.leaf.under f.setups ∧
      (∀ i < f.setups, ∃ c, f.causeAt? i = some c ∧
        c.display = f.leaf.under (f.setups - 1 - i)) ∧
      (∀ i, f.setups ≤ i → f.causeAt? i = none) ∧
      (∀ i, f.causeAt? i = f.causes[i]?) ∧
      f.causes.Nodup ∧
      (∀ e i, (close (.setupFailed e)).causeAt? 0 = some e ∧
        (close (.setupFailed e)).causeAt? (i + 1) = (call e).causeAt? i) ∧
      (∀ e, (close (.call e)).Alike (call e)) ∧
      (∀ k e, (call (.boxed k e)).Alike (close e)) ∧
      ∀ e, (call (CloseError.toCall e)).Alike (close e) := by
  refine ⟨display_eq f, fun i hi => ?_, fun i hi => ?_, causeAt?_eq f, nodup_causes f,
    fun e i => ⟨rfl, rfl⟩, alike_wrapped, alike_boxed, alike_toCall⟩
  · have hlt : i < f.causes.length := by rwa [length_causes]
    have hc : f.causes[i]? = some f.causes[i] := List.getElem?_eq_getElem hlt
    exact ⟨f.causes[i], by rw [causeAt?_eq, hc], display_getElem_causes f hc⟩
  · rw [causeAt?_eq, List.getElem?_eq_none (by rwa [length_causes])]

/-- A setup fails because a setup failed, in a box and behind two wrappers. -/
example :
    let refused : CallError := .os .noSuchProcess
    let f := close (.call (.boxed .other (.setupFailed (.boxed .other (.setupFailed refused)))))
    f.setups = 2 ∧ f.causes.length = 2 ∧ f.causeAt? 1 = some refused := by
  decide

end Failure

end AsyncClose
