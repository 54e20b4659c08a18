import Mathlib
import AsyncClose.Mechanism.Basic

/-!
The calls that guards and wakes make on a mechanism, as data.

A mechanism changes only by being called, so its state is what the calls so far have made of the
first one. A sequence of calls is bracketed if every wake of a thread, and every leave, finds
the thread inside: it has entered more often than it has left.
-/

namespace AsyncClose

/-- A call that a guard or a wake makes on a mechanism. -/
inductive Contact
  | enter (t : Thread) (canOpen : Bool)
  | wake (t : Thread) (fd : Descriptor)
  | leave (t : Thread)
  deriving DecidableEq

namespace Contact

section

variable {σ : Type} [Mechanism σ]

def apply : Contact → σ → σ
  | enter t canOpen, m => (Mechanism.enter t canOpen m).1
  | wake t fd, m => (Mechanism.wake t fd m).2.1
  | leave t, m => (Mechanism.leave t m).1

def replay (cs : List Contact) (m : σ) : σ := cs.foldl (fun m c => c.apply m) m

@[simp] lemma replay_nil (m : σ) : replay [] m = m := rfl

@[simp] lemma replay_cons (c : Contact) (cs : List Contact) (m : σ) :
    replay (c :: cs) m = replay cs (c.apply m) := rfl

@[simp] lemma replay_append (cs ds : List Contact) (m : σ) :
    replay (cs ++ ds) m = replay ds (replay cs m) := by
  simp [replay, List.foldl_append]

end

/-! ### Counting -/

def isEnter (t : Thread) : Contact → Bool
  | enter u _ => u = t
  | _ => false

def entered (t : Thread) (cs : List Contact) : ℕ := cs.countP (isEnter t)

def left (t : Thread) (cs : List Contact) : ℕ := cs.count (leave t)

variable (t : Thread)

@[simp] lemma entered_nil : entered t [] = 0 := rfl

@[simp] lemma left_nil : left t [] = 0 := rfl

@[simp] lemma entered_append (cs ds : List Contact) :
    entered t (cs ++ ds) = entered t cs + entered t ds := List.countP_append

@[simp] lemma left_append (cs ds : List Contact) : left t (cs ++ ds) = left t cs + left t ds :=
  List.count_append

@[simp] lemma entered_enter (u : Thread) (canOpen : Bool) :
    entered t [enter u canOpen] = if u = t then 1 else 0 := by
  simp [entered, isEnter, List.countP_singleton]

@[simp] lemma entered_wake (u : Thread) (fd : Descriptor) : entered t [wake u fd] = 0 := rfl

@[simp] lemma entered_leave (u : Thread) : entered t [leave u] = 0 := rfl

@[simp] lemma left_enter (u : Thread) (canOpen : Bool) : left t [enter u canOpen] = 0 := rfl

@[simp] lemma left_wake (u : Thread) (fd : Descriptor) : left t [wake u fd] = 0 := rfl

@[simp] lemma left_leave (u : Thread) : left t [leave u] = if u = t then 1 else 0 := by
  by_cases h : u = t <;> simp [left, h]

lemma count_of_wakes {cs : List Contact} (h : ∀ c ∈ cs, ∃ u fd, c = wake u fd) :
    entered t cs = 0 ∧ left t cs = 0 := by
  refine ⟨List.countP_eq_zero.mpr ?_, List.count_eq_zero.mpr ?_⟩
  · intro c hc
    obtain ⟨u, fd, rfl⟩ := h c hc
    simp [isEnter]
  · intro hc
    obtain ⟨u, fd, hu⟩ := h _ hc
    simp at hu

/-! ### Brackets -/

/-- After the calls `pre` the call finds its thread where it should be: inside, unless it is an
enter. -/
def Allowed (pre : List Contact) : Contact → Prop
  | enter _ _ => True
  | wake t _ => left t pre < entered t pre
  | leave t => left t pre < entered t pre

/-- Every call is allowed when it is made. -/
def Bracketed (cs : List Contact) : Prop :=
  ∀ pre c post, cs = pre ++ c :: post → Allowed pre c

lemma bracketed_nil : Bracketed [] := by
  intro pre c post h
  simp at h

lemma Bracketed.of_append {cs ds : List Contact} (h : Bracketed (cs ++ ds)) : Bracketed cs := by
  rintro pre c post rfl
  exact h pre c (post ++ ds) (by simp)

lemma Bracketed.append {cs ds : List Contact} (h : Bracketed cs)
    (hd : ∀ pre c post, ds = pre ++ c :: post → Allowed (cs ++ pre) c) :
    Bracketed (cs ++ ds) := by
  intro pre c post heq
  rcases List.append_eq_append_iff.mp heq with ⟨as, rfl, has⟩ | ⟨bs, rfl, hbs⟩
  · exact hd as c post has
  · rcases bs with _ | ⟨b, bs⟩
    · rw [List.nil_append] at hbs
      rw [List.append_nil] at h hd
      simpa using hd [] c post hbs.symm
    · obtain ⟨rfl, rfl⟩ := List.cons.inj (hbs.trans rfl)
      exact h pre c bs rfl

lemma bracketed_snoc {cs : List Contact} {c : Contact} :
    Bracketed (cs ++ [c]) ↔ Bracketed cs ∧ Allowed cs c := by
  constructor
  · intro h
    exact ⟨h.of_append, h cs c [] rfl⟩
  · rintro ⟨h, hc⟩
    refine h.append fun pre d post heq => ?_
    rcases pre with _ | ⟨a, pre⟩
    · obtain ⟨rfl, -⟩ := List.cons.inj heq
      simpa using hc
    · simp at heq

lemma Bracketed.left_le {cs : List Contact} (h : Bracketed cs) : left t cs ≤ entered t cs := by
  induction cs using List.reverseRecOn with
  | nil => simp
  | append_singleton cs c ih =>
    obtain ⟨hcs, hc⟩ := bracketed_snoc.mp h
    have ih := ih hcs
    cases c with
    | enter u canOpen => simp; omega
    | wake u fd => simp; omega
    | leave u =>
      by_cases hu : u = t
      · subst hu
        simp only [Allowed] at hc
        simp; omega
      · simp [hu]; omega

/-! ### Wakes that no leave has followed -/

/-- Some wake of the thread that came when `P` held of the calls before it was followed by no
leave of the thread. -/
def Unanswered (P : List Contact → Prop) (t : Thread) (cs : List Contact) : Prop :=
  ∃ pre fd post, cs = pre ++ wake t fd :: post ∧ P pre ∧ leave t ∉ post

variable {P : List Contact → Prop} {t}

lemma not_unanswered_nil : ¬Unanswered P t [] := by
  rintro ⟨pre, fd, post, h, -⟩
  simp at h

lemma unanswered_snoc {cs : List Contact} {c : Contact} :
    Unanswered P t (cs ++ [c]) ↔
      (∃ fd, c = wake t fd ∧ P cs) ∨ (c ≠ leave t ∧ Unanswered P t cs) := by
  constructor
  · rintro ⟨pre, fd, post, heq, hP, hpost⟩
    rcases List.eq_nil_or_concat post with rfl | ⟨post, b, rfl⟩
    · obtain ⟨rfl, rfl⟩ := List.append_singleton_inj.mp heq
      exact .inl ⟨fd, rfl, hP⟩
    · rw [List.concat_eq_append, ← List.cons_append, ← List.append_assoc] at heq
      obtain ⟨rfl, rfl⟩ := List.append_singleton_inj.mp heq
      simp only [List.concat_eq_append, List.mem_append, List.mem_singleton, not_or] at hpost
      exact .inr ⟨Ne.symm hpost.2, pre, fd, post, rfl, hP, hpost.1⟩
  · rintro (⟨fd, rfl, hP⟩ | ⟨hc, pre, fd, post, rfl, hP, hpost⟩)
    · exact ⟨cs, fd, [], rfl, hP, List.not_mem_nil⟩
    · refine ⟨pre, fd, post ++ [c], by simp, hP, ?_⟩
      simp only [List.mem_append, List.mem_singleton, not_or]
      exact ⟨hpost, Ne.symm hc⟩

@[simp] lemma unanswered_enter {cs : List Contact} {u : Thread} {canOpen : Bool} :
    Unanswered P t (cs ++ [enter u canOpen]) ↔ Unanswered P t cs := by
  simp [unanswered_snoc]

lemma unanswered_wake {cs : List Contact} {u : Thread} {fd : Descriptor} :
    Unanswered P t (cs ++ [wake u fd]) ↔ (u = t ∧ P cs) ∨ Unanswered P t cs := by
  simp [unanswered_snoc]

lemma unanswered_leave {cs : List Contact} {u : Thread} :
    Unanswered P t (cs ++ [leave u]) ↔ u ≠ t ∧ Unanswered P t cs := by
  simp [unanswered_snoc]

/-- Of all wakes the last one decides. -/
lemma unanswered_of_last {pre post : List Contact} {fd : Descriptor} (hP : P pre)
    (hlast : ∀ d, wake t d ∉ post) :
    Unanswered P t (pre ++ wake t fd :: post) ↔ leave t ∉ post := by
  constructor
  · rintro ⟨pre', d, post', heq, -, hpost⟩
    rcases List.append_eq_append_iff.mp heq with ⟨as, rfl, has⟩ | ⟨bs, rfl, hbs⟩
    · rcases as with _ | ⟨a, as⟩
      · obtain ⟨-, rfl⟩ := List.cons.inj has
        exact hpost
      · obtain ⟨-, rfl⟩ := List.cons.inj has
        exact absurd (by simp) (hlast d)
    · rcases bs with _ | ⟨b, bs⟩
      · obtain ⟨-, rfl⟩ := List.cons.inj hbs
        exact hpost
      · obtain ⟨-, rfl⟩ := List.cons.inj hbs
        exact fun hc => hpost (by simp [hc])
  · exact fun hpost => ⟨pre, fd, post, rfl, hP, hpost⟩

lemma exists_last_wake {cs : List Contact} (h : ∃ fd, wake t fd ∈ cs) :
    ∃ pre fd post, cs = pre ++ wake t fd :: post ∧ ∀ d, wake t d ∉ post := by
  induction cs with
  | nil => simp at h
  | cons c cs ih =>
    by_cases hc : ∃ d, wake t d ∈ cs
    · obtain ⟨pre, d, post, rfl, hlast⟩ := ih hc
      exact ⟨c :: pre, d, post, rfl, hlast⟩
    · obtain ⟨fd, hfd⟩ := h
      rcases List.mem_cons.mp hfd with rfl | hfd
      · exact ⟨[], fd, cs, rfl, fun d hd => hc ⟨d, hd⟩⟩
      · exact absurd ⟨fd, hfd⟩ hc

lemma unanswered_congr {Q : List Contact → Prop} {cs : List Contact}
    (h : ∀ pre fd post, cs = pre ++ wake t fd :: post → (P pre ↔ Q pre)) :
    Unanswered P t cs ↔ Unanswered Q t cs := by
  constructor
  · rintro ⟨pre, fd, post, heq, hP, hpost⟩
    exact ⟨pre, fd, post, heq, (h pre fd post heq).mp hP, hpost⟩
  · rintro ⟨pre, fd, post, heq, hQ, hpost⟩
    exact ⟨pre, fd, post, heq, (h pre fd post heq).mpr hQ, hpost⟩

end Contact

end AsyncClose
