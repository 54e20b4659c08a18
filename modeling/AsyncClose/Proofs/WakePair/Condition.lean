import Mathlib
import AsyncClose.WakePair

/-!
Where the wake byte of a pair is.

Whatever is done to a pair, by its users or by outsiders, its byte is in one of three places: it
was not written, it is queued, or an outsider has read it. In the last case the flag says that a
byte is under way, so nobody writes another, and there is none to take back.
-/

namespace AsyncClose

namespace WakePair

/-- Where the wake byte is. -/
inductive Condition
  | unwritten
  | queued
  /-- An outsider has read it. -/
  | lost
  deriving DecidableEq

def standing (shut : Bool) : Condition → WakePair
  | .unwritten => ⟨false, 0, shut⟩
  | .queued => ⟨true, 1, shut⟩
  | .lost => ⟨true, 0, shut⟩

def Condition.next (shut : Bool) : Condition → PairAction → Condition
  | .unwritten, .push (_ + 1) => if shut then .unwritten else .queued
  | .queued, .pop => .unwritten
  | .queued, .drain => .lost
  | c, _ => c

variable {shut : Bool} {c : Condition}

/-! ### One action -/

lemma push_standing (shut : Bool) (c : Condition) :
    ((standing shut c).push).1 = standing shut (c.next shut (.push 1)) := by
  cases c <;> cases shut <;> rfl

lemma next_push_next (shut : Bool) (c : Condition) (m n : ℕ) :
    (c.next shut (.push (m + 1))).next shut (.push n) = c.next shut (.push (m + 1)) := by
  cases c <;> cases shut <;> cases n <;> rfl

/-- Only the first of several pushes does anything. -/
lemma pushes_standing (shut : Bool) (c : Condition) (n : ℕ) :
    ((standing shut c).pushes n).1 = standing shut (c.next shut (.push n)) := by
  induction n generalizing c with
  | zero => cases c <;> rfl
  | succ n ih =>
    have hone : ((standing shut c).pushes (n + 1)).1 = (((standing shut c).push).1.pushes n).1 := rfl
    rw [hone, push_standing, ih, next_push_next]
    cases c <;> rfl

lemma perform_standing (shut : Bool) (c : Condition) (a : PairAction) :
    ((standing shut c).perform a).2.1 = standing (shut || a = .shutdown) (c.next shut a) := by
  cases a with
  | push n => simpa [perform] using pushes_standing shut c n
  | pop => cases c <;> cases shut <;> rfl
  | readable => cases c <;> cases shut <;> rfl
  | drain => cases c <;> cases shut <;> rfl
  | shutdown => cases c <;> cases shut <;> rfl

/-- The byte is lost to a drain that reads it, and stays lost. -/
lemma next_eq_lost {a : PairAction} :
    c.next shut a = .lost ↔ c = .lost ∨ c = .queued ∧ a = .drain := by
  cases a with
  | push n => cases c <;> cases n <;> cases shut <;> simp [Condition.next]
  | pop => cases c <;> simp [Condition.next]
  | readable => cases c <;> simp [Condition.next]
  | drain => cases c <;> simp [Condition.next]
  | shutdown => cases c <;> simp [Condition.next]

lemma drain_standing : ((standing shut c).perform .drain).1 = .transfer (.ok 1) ↔ c = .queued := by
  cases c <;> cases shut <;> simp [perform, drain, read, standing]

/-! ### Any number of actions -/

def after (as : List PairAction) : WakePair := as.foldl (fun p a => (p.perform a).2.1) fresh

lemma after_snoc (as : List PairAction) (a : PairAction) :
    after (as ++ [a]) = ((after as).perform a).2.1 := by
  rw [after, List.foldl_append]
  rfl

/-- The flag is up, and there is no byte that it could tell of. -/
def Stranded (p : WakePair) : Prop := p.pushed = true ∧ p.queued = 0

lemma stranded_standing : Stranded (standing shut c) ↔ c = .lost := by
  cases c <;> simp [Stranded, standing]

lemma exists_standing (as : List PairAction) : ∃ shut c, after as = standing shut c := by
  induction as using List.reverseRecOn with
  | nil => exact ⟨false, .unwritten, rfl⟩
  | append_singleton as a ih =>
    obtain ⟨shut, c, h⟩ := ih
    exact ⟨_, _, by rw [after_snoc, h, perform_standing]⟩

lemma stranded_snoc (as : List PairAction) (a : PairAction) :
    Stranded (after (as ++ [a])) ↔
      Stranded (after as) ∨ a = .drain ∧ (after as).pushed = true ∧ (after as).queued = 1 := by
  obtain ⟨shut, c, h⟩ := exists_standing as
  rw [after_snoc, h, perform_standing, stranded_standing, stranded_standing, next_eq_lost]
  cases c <;> simp [standing]

/-- Nothing brings a lost byte back. -/
lemma stranded_append {as : List PairAction} (h : Stranded (after as)) (bs : List PairAction) :
    Stranded (after (as ++ bs)) := by
  induction bs using List.reverseRecOn with
  | nil => rwa [List.append_nil]
  | append_singleton bs b ih =>
    rw [← List.append_assoc]
    exact (stranded_snoc _ _).mpr (.inl ih)

/-- The byte is lost exactly if a drain was answered with a byte. -/
lemma stranded_iff (as : List PairAction) :
    Stranded (after as) ↔ ∃ pre post, as = pre ++ PairAction.drain :: post ∧
      ((after pre).perform .drain).1 = .transfer (.ok 1) := by
  constructor
  · induction as using List.reverseRecOn with
    | nil => exact fun h => absurd h.1 (by simp [after, fresh])
    | append_singleton as a ih =>
      intro h
      rcases (stranded_snoc as a).mp h with h | ⟨rfl, hp, hq⟩
      · obtain ⟨pre, post, rfl, hr⟩ := ih h
        exact ⟨pre, post ++ [a], by simp, hr⟩
      · obtain ⟨shut, c, hc⟩ := exists_standing as
        refine ⟨as, [], rfl, ?_⟩
        rw [hc, drain_standing]
        rw [hc] at hq
        cases c <;> simp [standing] at hq ⊢
  · rintro ⟨pre, post, rfl, hr⟩
    obtain ⟨shut, c, hc⟩ := exists_standing pre
    rw [hc, drain_standing] at hr
    have hsplit : pre ++ .drain :: post = pre ++ [.drain] ++ post := by simp
    rw [hsplit]
    refine stranded_append ((stranded_snoc pre .drain).mpr (.inr ⟨rfl, ?_⟩)) post
    rw [hc, hr]
    exact ⟨rfl, rfl⟩

/-- Without a drain the byte is not lost. -/
lemma exists_standing_of_not_mem {as : List PairAction} (h : .drain ∉ as) :
    ∃ shut c, after as = standing shut c ∧ c ≠ .lost := by
  obtain ⟨shut, c, hc⟩ := exists_standing as
  refine ⟨shut, c, hc, fun hl => ?_⟩
  obtain ⟨pre, post, rfl, -⟩ := (stranded_iff as).mp (by rw [hc, stranded_standing, hl])
  simp at h

/-- **Two records of one byte**: what pushes, pops, drains and shutdowns make of a new pair, in
whatever order they come. -/
theorem flag_and_queue (as : List PairAction) :
    -- there is one byte at most, and the flag tells of it
    ((after as).queued ≤ 1 ∧ (0 < (after as).queued → (after as).pushed = true)) ∧
    -- as long as nobody else reads, the flag is up exactly if the byte is queued
    (PairAction.drain ∉ as →
      ((after as).pushed = true ↔ (after as).queued = 1) ∧
      ((after as).pushed = true → (after as).read.1 = .ok 1) ∧
      ((after (as ++ [PairAction.pop])).pushed = false ∧
        (after (as ++ [PairAction.pop])).queued = 0) ∧
      ∀ n, (after as).shut = false → (after (as ++ [PairAction.push (n + 1)])).readable = true) ∧
    -- a write fails on a pair that is shut, and leaves it alone
    ((∀ e, (after as).push.2 = some (.pushFailed e) →
        (after as).shut = true ∧ (after as).push.1 = after as) ∧
      ((after as).shut = true → (after as).pushed = false →
        (after as).push = (after as, some (.pushFailed .brokenPipe)))) ∧
    -- the byte is lost to a drain that reads it, and to nothing else
    ((Stranded (after as) ↔ ∃ pre post, as = pre ++ PairAction.drain :: post ∧
        ((after pre).perform .drain).1 = .transfer (.ok 1)) ∧
      ∀ a, Stranded (after (as ++ [a])) → ¬Stranded (after as) →
        a = .drain ∧ (after as).pushed = true ∧ (after as).queued = 1) ∧
    -- and then nothing moves any more
    ∀ bs, Stranded (after as) →
      (after (as ++ bs)).pushed = (after as).pushed ∧
        (after (as ++ bs)).queued = (after as).queued := by
  obtain ⟨shut, c, hc⟩ := exists_standing as
  refine ⟨?_, ?_, ⟨?_, ?_⟩, ⟨stranded_iff as, ?_⟩, ?_⟩
  · rw [hc]
    cases c <;> simp [standing]
  · intro hd
    obtain ⟨shut, c, hc, hl⟩ := exists_standing_of_not_mem hd
    refine ⟨?_, ?_, ?_, fun n => ?_⟩
    · rw [hc]
      cases c <;> simp [standing] at hl ⊢
    · rw [hc]
      cases c <;> simp [standing, read] at hl ⊢
    · rw [after_snoc, hc, perform_standing]
      cases c <;> simp [standing, Condition.next] at hl ⊢
    · rw [after_snoc, hc, perform_standing]
      cases c <;> cases shut <;> simp [standing, Condition.next, readable] at hl ⊢
  · rw [hc]
    cases c <;> cases shut <;> simp [standing, push, write]
  · rw [hc]
    cases c <;> cases shut <;> simp [standing, push, write]
  · intro a ha hn
    exact ((stranded_snoc as a).mp ha).resolve_left hn
  · intro bs h
    obtain ⟨hp, hq⟩ := stranded_append h bs
    exact ⟨hp.trans h.1.symm, hq.trans h.2.symm⟩

/-- An outsider reads the wake byte, and the pair stays as it is for good. -/
theorem flag_and_queue_drained :
    after [.push 2, .drain] = ⟨true, 0, false⟩ ∧
      ∀ bs, (after ([PairAction.push 2, PairAction.drain] ++ bs)).pushed = true ∧
        (after ([PairAction.push 2, PairAction.drain] ++ bs)).queued = 0 := by
  refine ⟨by decide, fun bs => ?_⟩
  exact (flag_and_queue [.push 2, .drain]).2.2.2.2 bs ⟨by decide, by decide⟩

end WakePair

end AsyncClose
