import Mathlib
import AsyncClose.Process.Setup

/-!
Setups that race for the registry of a process.

A setup looks for a registry, installs its handler and publishes its registry, and others may take
any steps in between. Whoever publishes first has won. Nobody publishes without a handler, and
nobody takes a published registry back.
-/

namespace AsyncClose

/-- A step of one of several setups. Setups go by number. -/
structure Advance where
  caller : ℕ
  /-- What the kernel answers if the step asks it to install a handler. -/
  answer : Except CallError Unit

namespace Process

/-- From the first process to the second nothing was taken back. -/
structure Grown (p q : Process) : Prop where
  registry : ∀ r, p.registry? = some r → q.registry? = some r
  handled : p.handled <:+ q.handled

lemma Grown.rfl {p : Process} : p.Grown p := ⟨fun _ h => h, List.suffix_rfl⟩

lemma Grown.trans {p q s : Process} (h : p.Grown q) (h' : q.Grown s) : p.Grown s :=
  ⟨fun r hr => h'.registry r (h.registry r hr), h.handled.trans h'.handled⟩

lemma Grown.isSome {p q : Process} (h : p.Grown q) (hp : p.registry?.isSome) :
    q.registry?.isSome := by
  obtain ⟨r, hr⟩ := Option.isSome_iff_exists.mp hp
  rw [h.registry r hr]
  rfl

end Process

namespace Setup

def left : Setup → ℕ
  | checking _ => 3
  | installing _ => 2
  | publishing _ _ => 1
  | done _ => 0

/-- Where a setup with settings `x` can stand in a process. -/
def Fits (x : Settings) (p : Process) : Setup → Prop
  | checking y => y = x
  | installing y => y = x
  | publishing y m => y = x ∧ m = ⟨x.signal, true, []⟩ ∧ x.signal ∈ p.handled
  | done (.ok ()) =>
    p.registry? = some (.ofCapacity x.capacity ⟨x.signal, true, []⟩) ∧ x.signal ∈ p.handled
  | done (.error .alreadySetUp) => p.registry?.isSome
  | done (.error _) => True

lemma Fits.grown {x : Settings} {p q : Process} {s : Setup} (h : s.Fits x p) (hpq : p.Grown q) :
    s.Fits x q := by
  match s with
  | checking y => exact h
  | installing y => exact h
  | publishing y m => exact ⟨h.1, h.2.1, hpq.handled.subset h.2.2⟩
  | done (.ok ()) => exact ⟨hpq.registry _ h.1, hpq.handled.subset h.2⟩
  | done (.error .alreadySetUp) => exact hpq.isSome h
  | done (.error (.setupFailed e)) => trivial
  | done (.error (.call e)) => trivial
  | done (.error .closed) => trivial

end Setup

structure Startup where
  process : Process
  setups : List Setup

namespace Startup

def start (xs : List Settings) : Startup := ⟨.fresh, xs.map .checking⟩

def step (w : Startup) (a : Advance) : Startup :=
  match w.setups[a.caller]? with
  | none => w
  | some s =>
    let (s, p) := s.stepAnswered a.answer w.process
    ⟨p, w.setups.set a.caller s⟩

def run (w : Startup) (as : List Advance) : Startup := as.foldl step w

@[simp] lemma run_nil (w : Startup) : w.run [] = w := rfl

@[simp] lemma run_append (w : Startup) (as bs : List Advance) :
    w.run (as ++ bs) = (w.run as).run bs := List.foldl_append

@[simp] lemma run_singleton (w : Startup) (a : Advance) : w.run [a] = w.step a := rfl

/-! ### Everything a step can do -/

inductive Stepped (w : Startup) (a : Advance) : Startup → Prop
  /-- The setup is over, or there is none of that number. -/
  | idle (h : ∀ s, w.setups[a.caller]? = some s → ∃ r, s = .done r) : Stepped w a w
  | passed (x : Settings) (hs : w.setups[a.caller]? = some (.checking x))
    (hr : w.process.registry? = none) :
    Stepped w a ⟨w.process, w.setups.set a.caller (.installing x)⟩
  | refused (x : Settings) (hs : w.setups[a.caller]? = some (.checking x))
    (hr : w.process.registry?.isSome) :
    Stepped w a ⟨w.process, w.setups.set a.caller (.done (.error .alreadySetUp))⟩
  | installed (x : Settings) (hs : w.setups[a.caller]? = some (.installing x))
    (ha : a.answer = .ok ()) :
    Stepped w a
      ⟨{ w.process with handled := x.signal :: w.process.handled }.note
          [.handlerInstalled x.signal],
        w.setups.set a.caller (.publishing x ⟨x.signal, true, []⟩)⟩
  | failed (x : Settings) (e : CallError) (hs : w.setups[a.caller]? = some (.installing x))
    (ha : a.answer = .error e) :
    Stepped w a ⟨w.process.note [], w.setups.set a.caller (.done (.error (.setupFailed e)))⟩
  | published (x : Settings) (m : SignalMechanism)
    (hs : w.setups[a.caller]? = some (.publishing x m)) (hr : w.process.registry? = none) :
    Stepped w a
      ⟨{ w.process with registry? := some (.ofCapacity x.capacity m) }.note
          [.registryReady x.capacity],
        w.setups.set a.caller (.done (.ok ()))⟩
  /-- Somebody else has published in the meantime. -/
  | lost (x : Settings) (m : SignalMechanism)
    (hs : w.setups[a.caller]? = some (.publishing x m)) (hr : w.process.registry?.isSome) :
    Stepped w a ⟨w.process, w.setups.set a.caller (.done (.error .alreadySetUp))⟩

lemma stepped (w : Startup) (a : Advance) : Stepped w a (w.step a) := by
  unfold step
  cases hs : w.setups[a.caller]? with
  | none =>
    refine .idle fun s h => ?_
    rw [hs] at h
    simp at h
  | some s =>
    cases s with
    | checking x =>
      simp only [Setup.stepAnswered, Process.check]
      by_cases hr : w.process.registry?.isSome
      · rw [if_pos hr]
        exact .refused x hs hr
      · rw [if_neg hr]
        exact .passed x hs (by simpa using hr)
    | installing x =>
      simp only [Setup.stepAnswered, Process.installAnswered, SignalMechanism.installAnswered]
      cases ha : a.answer with
      | ok u => exact .installed x hs ha
      | error e => exact .failed x e hs ha
    | publishing x m =>
      simp only [Setup.stepAnswered, Process.publish]
      by_cases hr : w.process.registry?.isSome
      · rw [if_pos hr]
        exact .lost x m hs hr
      · rw [if_neg hr]
        exact .published x m hs (by simpa using hr)
    | done r =>
      have hset : w.setups.set a.caller (.done r) = w.setups := by
        obtain ⟨hlt, hget⟩ := List.getElem?_eq_some_iff.mp hs
        rw [← hget, List.set_getElem_self]
      simp only [Setup.stepAnswered, hset]
      refine .idle fun s h => ⟨r, ?_⟩
      exact Option.some.inj (h.symm.trans hs)

variable {w w' : Startup} {a : Advance}

/-- Every step moves one setup and leaves the others where they are. -/
lemma getElem?_stepped (h : Stepped w a w') {i : ℕ} (hi : a.caller ≠ i) :
    w'.setups[i]? = w.setups[i]? := by
  cases h with
  | idle _ => rfl
  | _ => exact List.getElem?_set_ne hi

lemma grown_stepped (h : Stepped w a w') : w.process.Grown w'.process := by
  cases h with
  | idle h => exact .rfl
  | passed x hs hr => exact .rfl
  | refused x hs hr => exact .rfl
  | installed x hs ha => exact ⟨fun r hr => hr, List.suffix_cons _ _⟩
  | failed x e hs ha => exact ⟨fun r hr => hr, List.suffix_rfl⟩
  | published x m hs hr =>
    refine ⟨fun r h => ?_, List.suffix_rfl⟩
    rw [hr] at h
    simp at h
  | lost x m hs hr => exact .rfl

lemma grown_run (w : Startup) (as : List Advance) : w.process.Grown (w.run as).process := by
  induction as generalizing w with
  | nil => exact .rfl
  | cons a as ih => exact (grown_stepped (stepped w a)).trans (ih (w.step a))

lemma run_induction {P : Startup → Prop} (h : P w)
    (hstep : ∀ v a v', P v → Stepped v a v' → P v') (as : List Advance) : P (w.run as) := by
  induction as using List.reverseRecOn with
  | nil => exact h
  | append_singleton as a ih =>
    rw [run_append, run_singleton]
    exact hstep _ _ _ ih (stepped _ a)

/-! ### What every step keeps -/

/-- What was written to a list is read there. -/
lemma eq_of_getElem?_set {α : Type} {l : List α} {n : ℕ} {x y : α}
    (h : (l.set n x)[n]? = some y) : x = y := by
  have hlt : n < l.length := by simpa using (List.getElem?_eq_some_iff.mp h).1
  exact Option.some.inj ((List.getElem?_set_self hlt).symm.trans h)

/-- The setups stand where they can, and there is a winner as soon as there is a registry. -/
structure Sound (xs : List Settings) (w : Startup) : Prop where
  length : w.setups.length = xs.length
  fits : ∀ (i : ℕ) (x : Settings) (s : Setup), xs[i]? = some x → w.setups[i]? = some s →
    s.Fits x w.process
  winner : w.process.registry?.isSome → ∃ i : ℕ, w.setups[i]? = some (.done (.ok ()))
  unique : ∀ i j : ℕ, w.setups[i]? = some (.done (.ok ())) →
    w.setups[j]? = some (.done (.ok ())) → i = j

variable {xs : List Settings}

lemma Sound.exists_settings (h : Sound xs w) {i : ℕ} {s : Setup} (hs : w.setups[i]? = some s) :
    ∃ x, xs[i]? = some x ∧ s.Fits x w.process := by
  have hlt : i < xs.length := h.length ▸ (List.getElem?_eq_some_iff.mp hs).1
  exact ⟨xs[i], List.getElem?_eq_getElem hlt, h.fits i _ s (List.getElem?_eq_getElem hlt) hs⟩

lemma Sound.registry_of_won (h : Sound xs w) {i : ℕ} (hs : w.setups[i]? = some (.done (.ok ()))) :
    ∃ x, xs[i]? = some x ∧
      w.process.registry? = some (.ofCapacity x.capacity ⟨x.signal, true, []⟩) ∧
      x.signal ∈ w.process.handled := by
  obtain ⟨x, hx, hfit⟩ := h.exists_settings hs
  exact ⟨x, hx, hfit.1, hfit.2⟩

lemma sound_start (xs : List Settings) : Sound xs (start xs) := by
  have hset : ∀ (i : ℕ) (s : Setup), (start xs).setups[i]? = some s → ∃ x, xs[i]? = some x ∧
      s = .checking x := by
    intro i s h
    rw [start, List.getElem?_map] at h
    obtain ⟨x, hx, rfl⟩ := Option.map_eq_some_iff.mp h
    exact ⟨x, hx, rfl⟩
  refine ⟨List.length_map _, ?_, ?_, ?_⟩
  · intro i x s hx hs
    obtain ⟨y, hy, rfl⟩ := hset i s hs
    exact Option.some.inj (hy.symm.trans hx)
  · intro h
    simp [start, Process.fresh] at h
  · intro i j hi
    obtain ⟨x, -, hx⟩ := hset i _ hi
    simp at hx

/-- A step that publishes nothing, after which setup `a.caller` stands at `s`. -/
lemma Sound.moved (h : Sound xs w) {s : Setup} {p : Process} (hp : w.process.Grown p)
    (hreg : p.registry? = w.process.registry?) (hs : s ≠ .done (.ok ()))
    (hold : w.setups[a.caller]? ≠ some (.done (.ok ())))
    (hfit : ∀ x, xs[a.caller]? = some x → s.Fits x p) :
    Sound xs ⟨p, w.setups.set a.caller s⟩ := by
  have hwon : ∀ i : ℕ, (w.setups.set a.caller s)[i]? = some (.done (.ok ())) ↔
      w.setups[i]? = some (.done (.ok ())) := by
    intro i
    by_cases hi : a.caller = i
    · subst hi
      rw [List.getElem?_set_self']
      cases hget : w.setups[a.caller]? with
      | none => simp
      | some s' => simpa [hs] using fun hc => hold (by rw [hget, hc])
    · rw [List.getElem?_set_ne hi]
  refine ⟨by rw [List.length_set, h.length], ?_, ?_, ?_⟩
  · intro i x s' hx hs'
    by_cases hi : a.caller = i
    · subst hi
      exact eq_of_getElem?_set hs' ▸ hfit x hx
    · simp only [List.getElem?_set_ne hi] at hs'
      exact (h.fits i x s' hx hs').grown hp
  · intro hr
    rw [hreg] at hr
    obtain ⟨i, hi⟩ := h.winner hr
    exact ⟨i, (hwon i).mpr hi⟩
  · intro i j hi hj
    exact h.unique i j ((hwon i).mp hi) ((hwon j).mp hj)

lemma sound_stepped (h : Sound xs w) (hs : Stepped w a w') : Sound xs w' := by
  have hgrown := grown_stepped hs
  cases hs with
  | idle _ => exact h
  | passed x hs hr =>
    refine h.moved hgrown rfl (by simp) (by simp [hs]) fun y hy => ?_
    exact (show x = y from h.fits a.caller y _ hy hs)
  | refused x hs hr => exact h.moved hgrown rfl (by simp) (by simp [hs]) fun _ _ => hr
  | installed x hs ha =>
    refine h.moved hgrown rfl (by simp) (by simp [hs]) fun y hy => ?_
    obtain rfl : x = y := h.fits a.caller y _ hy hs
    exact ⟨rfl, rfl, List.mem_cons_self⟩
  | failed x e hs ha => exact h.moved hgrown rfl (by simp) (by simp [hs]) fun _ _ => trivial
  | published x m hs hr =>
    obtain ⟨y, hy, rfl, rfl, hmem⟩ := h.exists_settings hs
    have hlt := (List.getElem?_eq_some_iff.mp hs).1
    -- nobody has won before, for there was no registry
    have hnone : ∀ i : ℕ, w.setups[i]? ≠ some (.done (.ok ())) := by
      intro i hi
      obtain ⟨z, -, hz, -⟩ := h.registry_of_won hi
      rw [hr] at hz
      simp at hz
    have hwon : ∀ i : ℕ,
        (w.setups.set a.caller (.done (.ok ())))[i]? = some (.done (.ok ())) → i = a.caller := by
      intro i hi
      by_contra hne
      rw [List.getElem?_set_ne (Ne.symm hne)] at hi
      exact hnone i hi
    refine ⟨by rw [List.length_set, h.length], ?_, ?_, ?_⟩
    · intro i z s hz hs'
      by_cases hi : a.caller = i
      · subst hi
        obtain rfl : x = z := Option.some.inj (hy.symm.trans hz)
        obtain rfl := eq_of_getElem?_set hs'
        exact ⟨rfl, hmem⟩
      · simp only [List.getElem?_set_ne hi] at hs'
        exact (h.fits i z s hz hs').grown hgrown
    · exact fun _ => ⟨a.caller, List.getElem?_set_self hlt⟩
    · intro i j hi hj
      rw [hwon i hi, hwon j hj]
  | lost x m hs hr => exact h.moved hgrown rfl (by simp) (by simp [hs]) fun _ _ => hr

lemma sound_run (xs : List Settings) (as : List Advance) : Sound xs ((start xs).run as) :=
  run_induction (sound_start xs) (fun _ _ _ => sound_stepped) as

/-! ### Setups come to an end -/

lemma left_stepAnswered (answer : Except CallError Unit) (s : Setup) (p : Process) :
    (s.stepAnswered answer p).1.left ≤ s.left - 1 := by
  cases s with
  | checking x =>
    simp only [Setup.stepAnswered]
    cases p.check <;> simp [Setup.left]
  | installing x =>
    simp only [Setup.stepAnswered]
    rcases p.installAnswered answer x with ⟨_ | m, q⟩ <;> simp [Setup.left]
  | publishing x m => exact Nat.zero_le _
  | done r => exact Nat.zero_le _

lemma getElem?_step (w : Startup) (a : Advance) (i : ℕ) :
    (w.step a).setups[i]? = if a.caller = i then
      w.setups[i]?.map fun s => (s.stepAnswered a.answer w.process).1 else w.setups[i]? := by
  unfold step
  by_cases hi : a.caller = i
  · subst hi
    cases hs : w.setups[a.caller]? with
    | none => simp [hs]
    | some s => simp [(List.getElem?_eq_some_iff.mp hs).1]
  · rw [if_neg hi]
    cases hs : w.setups[a.caller]? with
    | none => rfl
    | some s => exact List.getElem?_set_ne hi

/-- Every step that a setup takes brings it closer to its end. -/
lemma left_run {w : Startup} {i : ℕ} {s : Setup} (hs : w.setups[i]? = some s)
    (as : List Advance) :
    ∃ s', (w.run as).setups[i]? = some s' ∧ s'.left ≤ s.left - as.countP (·.caller = i) := by
  induction as using List.reverseRecOn with
  | nil => exact ⟨s, hs, Nat.le_refl _⟩
  | append_singleton as a ih =>
    obtain ⟨s', hs', hleft⟩ := ih
    rw [run_append, run_singleton, getElem?_step, hs', List.countP_append, List.countP_singleton]
    by_cases hi : a.caller = i
    · have hone := left_stepAnswered a.answer s' (w.run as).process
      refine ⟨_, by rw [if_pos hi, Option.map_some], ?_⟩
      simp only [hi, decide_true, if_true]
      omega
    · refine ⟨s', by rw [if_neg hi], ?_⟩
      simpa [hi] using hleft

lemma exists_done {xs : List Settings} {as : List Advance} {i : ℕ} (hi : i < xs.length)
    (h : 3 ≤ as.countP (·.caller = i)) :
    ∃ r, ((start xs).run as).setups[i]? = some (.done r) := by
  have hs : (start xs).setups[i]? = some (.checking xs[i]) := by
    rw [start, List.getElem?_map, List.getElem?_eq_getElem hi, Option.map_some]
  obtain ⟨s, hs, hleft⟩ := left_run hs as
  cases s with
  | done r => exact ⟨r, hs⟩
  | _ => simp only [Setup.left] at hleft; omega

end Startup

end AsyncClose
