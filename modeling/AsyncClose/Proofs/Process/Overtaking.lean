import AsyncClose.Proofs.Process.Startup

/-!
Setups that are overtaken.

A setup whose check has passed may find, when it comes to publish, that another has published in
the meantime. It reports that the registry was set up before, as a setup does that is refused at
once; but its handler is in place by then, and stays there.
-/

namespace AsyncClose

/-- What happened at some step of a longer run happened before its last step, or there. -/
lemma exists_prefix_snoc {α : Type} {P : List α → α → Prop} {l : List α} {x : α} :
    (∃ pre y, pre ++ [y] <+: l ++ [x] ∧ P pre y) ↔
      (∃ pre y, pre ++ [y] <+: l ∧ P pre y) ∨ P l x := by
  constructor
  · rintro ⟨pre, y, hpre, h⟩
    rcases List.prefix_concat_iff.mp hpre with heq | hpre
    · obtain ⟨rfl, rfl⟩ := List.append_singleton_inj.mp heq
      exact .inr h
    · exact .inl ⟨pre, y, hpre, h⟩
  · rintro (⟨pre, y, hpre, h⟩ | h)
    · exact ⟨pre, y, hpre.trans (List.prefix_append l [x]), h⟩
    · exact ⟨l, x, List.prefix_rfl, h⟩

namespace Startup

def installer? (w : Startup) (a : Advance) : Option ℕ :=
  match w.setups[a.caller]?, a.answer with
  | some (.installing _), .ok () => some a.caller
  | _, _ => none

/-- The setups that have had their handlers put in place, in order. -/
def installers : Startup → List Advance → List ℕ
  | _, [] => []
  | w, a :: as => (w.installer? a).toList ++ installers (w.step a) as

lemma installers_snoc (w : Startup) (as : List Advance) (a : Advance) :
    w.installers (as ++ [a]) = w.installers as ++ ((w.run as).installer? a).toList := by
  induction as generalizing w with
  | nil => simp [installers]
  | cons b as ih =>
    rw [List.cons_append, installers, installers, ih, List.append_assoc]
    rfl

/-- The setup is past its check and has not returned. -/
def Underway (w : Startup) (i : ℕ) : Prop :=
  (∃ x, w.setups[i]? = some (.installing x)) ∨ ∃ x m, w.setups[i]? = some (.publishing x m)

/-- In the step another setup than `i` publishes, while `i` is under way. -/
def Overtakes (w : Startup) (a : Advance) (i : ℕ) : Prop :=
  a.caller ≠ i ∧ w.process.registry? = none ∧ (w.step a).process.registry?.isSome ∧ w.Underway i

/-- At some step another setup published while setup `i` was under way. -/
def Overtaken (w : Startup) (as : List Advance) (i : ℕ) : Prop :=
  ∃ pre a, pre ++ [a] <+: as ∧ (w.run pre).Overtakes a i

lemma not_overtaken_nil (w : Startup) (i : ℕ) : ¬w.Overtaken [] i := by
  rintro ⟨pre, a, h, -⟩
  simp at h

lemma overtaken_snoc {w : Startup} {as : List Advance} {a : Advance} {i : ℕ} :
    w.Overtaken (as ++ [a]) i ↔ w.Overtaken as i ∨ (w.run as).Overtakes a i :=
  exists_prefix_snoc (P := fun pre b => (w.run pre).Overtakes b i)

lemma mem_installers {w : Startup} {as : List Advance} {i : ℕ} :
    i ∈ w.installers as ↔ ∃ pre a, pre ++ [a] <+: as ∧ (w.run pre).installer? a = some i := by
  induction as using List.reverseRecOn with
  | nil => simp [installers]
  | append_singleton as a ih =>
    rw [installers_snoc, List.mem_append, ih, Option.mem_toList,
      exists_prefix_snoc (P := fun pre b => (w.run pre).installer? b = some i)]

end Startup

namespace Setup

/-- Where a setup can stand, given whether it has had its handler put in place and whether it was
overtaken. -/
def Tracked (p : Process) (installed overtaken : Prop) : Setup → Prop
  | checking _ => ¬installed ∧ ¬overtaken
  | installing _ => ¬installed ∧ (overtaken ↔ p.registry?.isSome)
  | publishing _ _ => installed ∧ (overtaken ↔ p.registry?.isSome)
  | done (.ok ()) => installed ∧ ¬overtaken
  | done (.error .alreadySetUp) => installed ↔ overtaken
  | done (.error _) => ¬installed

lemma Tracked.congr {p q : Process} {a b a' b' : Prop} {s : Setup} (h : s.Tracked p a b)
    (ha : a' ↔ a) (hb : b' ↔ b) (hr : q.registry?.isSome = p.registry?.isSome) :
    s.Tracked q a' b' := by
  obtain rfl : a' = a := propext ha
  obtain rfl : b' = b := propext hb
  match s with
  | checking x => exact h
  | installing x => exact ⟨h.1, hr ▸ h.2⟩
  | publishing x m => exact ⟨h.1, hr ▸ h.2⟩
  | done (.ok ()) => exact h
  | done (.error .alreadySetUp) => exact h
  | done (.error (.setupFailed e)) => exact h
  | done (.error (.call e)) => exact h
  | done (.error .closed) => exact h

end Setup

namespace Startup

variable {xs : List Settings} {as : List Advance} {i : ℕ}

lemma installer?_of_ne {w : Startup} {a : Advance} (h : a.caller ≠ i) :
    w.installer? a ≠ some i := by
  unfold installer?
  split
  · simpa using h
  · simp

/-- A step of another setup. -/
lemma tracked_other {w : Startup} {a : Advance} {s : Setup} {inst late : Prop}
    (h : s.Tracked w.process inst late) (hs : w.setups[i]? = some s) (hi : a.caller ≠ i) :
    s.Tracked (w.step a).process inst (late ∨ w.Overtakes a i) := by
  have hgrown := grown_stepped (stepped w a)
  by_cases hr : w.process.registry?.isSome
  · -- who is late overtakes nobody
    refine h.congr Iff.rfl (or_iff_left fun ho => ?_) (by rw [hr, hgrown.isSome hr])
    rw [ho.2.1] at hr
    simp at hr
  · by_cases hr' : (w.step a).process.registry?.isSome
    · have hnone : w.process.registry? = none := by simpa using hr
      have hiff : w.Overtakes a i ↔ w.Underway i := by simp [Overtakes, hi, hnone, hr']
      rw [hiff]
      match s with
      | .checking x => exact ⟨h.1, by simpa [Underway, hs] using h.2⟩
      | .installing x => exact ⟨h.1, by simp [Underway, hs, hr']⟩
      | .publishing x m => exact ⟨h.1, by simp [Underway, hs, hr']⟩
      | .done (.ok ()) => exact ⟨h.1, by simpa [Underway, hs] using h.2⟩
      | .done (.error .alreadySetUp) => simpa [Setup.Tracked, Underway, hs] using h
      | .done (.error (.setupFailed e)) => exact h
      | .done (.error (.call e)) => exact h
      | .done (.error .closed) => exact h
    · refine h.congr Iff.rfl (or_iff_left fun ho => hr' ho.2.2.1) ?_
      rw [Bool.eq_false_iff.mpr hr, Bool.eq_false_iff.mpr hr']

/-- A step of the setup itself. -/
lemma tracked_own {w w' : Startup} {a : Advance} {s s' : Setup} {inst late : Prop}
    (h : s.Tracked w.process inst late) (hs : w.setups[a.caller]? = some s)
    (hstep : Stepped w a w') (hs' : w'.setups[a.caller]? = some s') :
    s'.Tracked w'.process (inst ∨ w.installer? a = some a.caller) late := by
  cases hstep with
  | idle hdone =>
    obtain rfl : s = s' := Option.some.inj (hs.symm.trans hs')
    obtain ⟨r, rfl⟩ := hdone s hs
    exact h.congr (or_iff_left (by simp [installer?, hs])) Iff.rfl rfl
  | passed x hx hr =>
    obtain rfl := Option.some.inj (hs.symm.trans hx)
    obtain rfl := eq_of_getElem?_set hs'
    exact ⟨by simpa [installer?, hs] using h.1, by simpa [hr] using h.2⟩
  | refused x hx hr =>
    obtain rfl := Option.some.inj (hs.symm.trans hx)
    obtain rfl := eq_of_getElem?_set hs'
    simpa [Setup.Tracked, installer?, hs] using iff_of_false h.1 h.2
  | installed x hx ha =>
    obtain rfl := Option.some.inj (hs.symm.trans hx)
    obtain rfl := eq_of_getElem?_set hs'
    exact ⟨.inr (by simp [installer?, hs, ha]), h.2⟩
  | failed x e hx ha =>
    obtain rfl := Option.some.inj (hs.symm.trans hx)
    obtain rfl := eq_of_getElem?_set hs'
    simpa [Setup.Tracked, installer?, hs, ha] using h.1
  | published x m hx hr =>
    obtain rfl := Option.some.inj (hs.symm.trans hx)
    obtain rfl := eq_of_getElem?_set hs'
    exact ⟨.inl h.1, by simpa [hr] using h.2⟩
  | lost x m hx hr =>
    obtain rfl := Option.some.inj (hs.symm.trans hx)
    obtain rfl := eq_of_getElem?_set hs'
    exact iff_of_true (.inl h.1) (h.2.mpr hr)

/-- At any time it is clear from where a setup stands whether it has installed its handler, and
whether it was overtaken. -/
lemma tracked_run {s : Setup} (hs : ((start xs).run as).setups[i]? = some s) :
    s.Tracked ((start xs).run as).process (i ∈ (start xs).installers as)
      ((start xs).Overtaken as i) := by
  induction as using List.reverseRecOn generalizing s with
  | nil =>
    rw [run_nil, start, List.getElem?_map] at hs
    obtain ⟨x, -, rfl⟩ := Option.map_eq_some_iff.mp hs
    exact ⟨by simp [installers], not_overtaken_nil _ i⟩
  | append_singleton as a ih =>
    rw [run_append, run_singleton] at hs
    simp only [run_append, run_singleton, installers_snoc, overtaken_snoc, List.mem_append,
      Option.mem_toList]
    generalize (start xs).run as = w at *
    by_cases hi : a.caller = i
    · subst hi
      obtain ⟨s₀, hs₀⟩ : ∃ s₀, w.setups[a.caller]? = some s₀ := by
        rw [getElem?_step, if_pos rfl, Option.map_eq_some_iff] at hs
        obtain ⟨s₀, hs₀, -⟩ := hs
        exact ⟨s₀, hs₀⟩
      exact (tracked_own (ih hs₀) hs₀ (stepped w a) hs).congr Iff.rfl
        (or_iff_left fun ho => ho.1 rfl) rfl
    · have hs₀ : w.setups[i]? = some s := by rwa [getElem?_stepped (stepped w a) hi] at hs
      exact (tracked_other (ih hs₀) hs₀ hi).congr (or_iff_left (installer?_of_ne hi)) Iff.rfl rfl

/-! ### Handlers -/

/-- A step either installs a handler, and its signal is noted, or it does not. -/
lemma handled_stepped {w w' : Startup} {a : Advance} (h : Stepped w a w') :
    (∃ x, w.setups[a.caller]? = some (.installing x) ∧ w.installer? a = some a.caller ∧
        w'.process.handled = x.signal :: w.process.handled) ∨
      w.installer? a = none ∧ w'.process.handled = w.process.handled := by
  cases h with
  | idle hdone =>
    refine .inr ⟨?_, rfl⟩
    cases hs : w.setups[a.caller]? with
    | none => simp [installer?, hs]
    | some s =>
      obtain ⟨r, rfl⟩ := hdone s hs
      simp [installer?, hs]
  | passed x hs hr => exact .inr ⟨by simp [installer?, hs], rfl⟩
  | refused x hs hr => exact .inr ⟨by simp [installer?, hs], rfl⟩
  | installed x hs ha => exact .inl ⟨x, hs, by simp [installer?, hs, ha], rfl⟩
  | failed x e hs ha => exact .inr ⟨by simp [installer?, hs, ha], rfl⟩
  | published x m hs hr => exact .inr ⟨by simp [installer?, hs], rfl⟩
  | lost x m hs hr => exact .inr ⟨by simp [installer?, hs], rfl⟩

lemma handled_step_ne_iff (w : Startup) (a : Advance) :
    (w.step a).process.handled ≠ w.process.handled ↔ w.installer? a = some a.caller := by
  rcases handled_stepped (stepped w a) with ⟨x, -, hinst, hh⟩ | ⟨hinst, hh⟩
  · simp [hh, hinst]
  · simp [hh, hinst]

/-- The installs are those of the setups that have installed their handlers, one for each. -/
lemma handled_run (xs : List Settings) (as : List Advance) :
    ((start xs).run as).process.handled =
      (((start xs).installers as).filterMap fun i => xs[i]?.map Settings.signal).reverse := by
  induction as using List.reverseRecOn with
  | nil => rfl
  | append_singleton as a ih =>
    rw [run_append, run_singleton, installers_snoc, List.filterMap_append, List.reverse_append,
      ← ih]
    rcases handled_stepped (stepped ((start xs).run as) a) with ⟨x, hs, hinst, hh⟩ | ⟨hinst, hh⟩
    · obtain ⟨y, hy, hfit⟩ := (sound_run xs as).exists_settings hs
      obtain rfl : x = y := hfit
      simp [hh, hinst, hy]
    · simp [hh, hinst]

lemma nodup_installers (xs : List Settings) (as : List Advance) :
    ((start xs).installers as).Nodup := by
  induction as using List.reverseRecOn with
  | nil => exact List.nodup_nil
  | append_singleton as a ih =>
    rw [installers_snoc]
    rcases handled_stepped (stepped ((start xs).run as) a) with ⟨x, hs, hinst, -⟩ | ⟨hinst, -⟩
    · -- a setup that is about to install has not done so before
      have hnew : a.caller ∉ (start xs).installers as := (tracked_run hs).1
      rw [hinst, Option.toList_some, ← List.concat_eq_append]
      exact ih.concat hnew
    · simpa [hinst] using ih

lemma mem_installers_of_won (h : ((start xs).run as).setups[i]? = some (.done (.ok ()))) :
    i ∈ (start xs).installers as := (tracked_run h).1

/-- Whoever has installed a handler and returned leaves a registry behind, its own or another's. -/
lemma isSome_of_installer {r : Except CloseError Unit}
    (h : ((start xs).run as).setups[i]? = some (.done r)) (hi : i ∈ (start xs).installers as) :
    ((start xs).run as).process.registry?.isSome := by
  have htracked := tracked_run h
  obtain ⟨x, -, hfit⟩ := (sound_run xs as).exists_settings h
  match r with
  | .ok () => exact hfit.1 ▸ rfl
  | .error .alreadySetUp => exact hfit
  | .error (.setupFailed e) => exact absurd hi htracked
  | .error (.call e) => exact absurd hi htracked
  | .error .closed => exact absurd hi htracked

/-! ### Safety -/

/-- Where a registry appears, a setup has published it and is done. -/
lemma exists_publishing {w : Startup} {a : Advance} {r : Registry SignalMechanism}
    (hnone : w.process.registry? = none) (hr : (w.step a).process.registry? = some r) :
    ∃ x m, w.setups[a.caller]? = some (.publishing x m) ∧ r = .ofCapacity x.capacity m ∧
      (w.step a).setups[a.caller]? = some (.done (.ok ())) := by
  have hstep := stepped w a
  generalize w.step a = w' at hr hstep ⊢
  cases hstep with
  | published x m hs _ =>
    have hlt := (List.getElem?_eq_some_iff.mp hs).1
    exact ⟨x, m, hs, (Option.some.inj hr).symm, List.getElem?_set_self hlt⟩
  | idle _ | passed _ _ _ | refused _ _ _ | installed _ _ _ | failed _ _ _ _ | lost _ _ _ _ =>
    exact absurd (hnone.symm.trans hr) (by simp)

/-- **Racing setups are safe.** Whatever the settings, whatever the kernel answers and in whatever
order the steps are taken: at most one setup succeeds. A registry that is there stays as it is; it
was made with the capacity and the signal of the setup that succeeds, and the handler for that
signal was in place before. A setup says that the registry was set up before only if it was. As
long as no handler could be installed there is no registry and nobody to wake. Every setup returns
after three steps of its own, and one that has installed its handler leaves a registry behind,
which is its own if nobody else has installed one. -/
theorem racing_setups_safe (xs : List Settings) (as : List Advance) :
    (∀ i j : ℕ, ((start xs).run as).setups[i]? = some (.done (.ok ())) →
        ((start xs).run as).setups[j]? = some (.done (.ok ())) → i = j) ∧
      (∀ pre r, pre <+: as → ((start xs).run pre).process.registry? = some r →
        ((start xs).run as).process.registry? = some r) ∧
      (∀ r, ((start xs).run as).process.registry? = some r ↔
        ∃ (i : ℕ) (x : Settings), xs[i]? = some x ∧
          ((start xs).run as).setups[i]? = some (.done (.ok ())) ∧
          r = .ofCapacity x.capacity ⟨x.signal, true, []⟩) ∧
      (∀ pre a r, pre ++ [a] <+: as → ((start xs).run pre).process.registry? = none →
        ((start xs).run (pre ++ [a])).process.registry? = some r →
          ((start xs).run (pre ++ [a])).setups[a.caller]? = some (.done (.ok ())) ∧
            a.caller ∈ (start xs).installers pre ∧
            r.mechanism.signal ∈ ((start xs).run pre).process.handled) ∧
      (∀ i : ℕ, ((start xs).run as).setups[i]? = some (.done (.error .alreadySetUp)) →
        ((start xs).run as).process.registry?.isSome) ∧
      ((start xs).installers as = [] →
        ((start xs).run as).process.registry? = none ∧
          ∀ fd, ((start xs).run as).process.wakeBlocked fd = (0, ((start xs).run as).process)) ∧
      ∀ i < xs.length, 3 ≤ as.countP (·.caller = i) →
        (∃ r, ((start xs).run as).setups[i]? = some (.done r)) ∧
          (i ∈ (start xs).installers as →
            ((start xs).run as).process.registry?.isSome ∧
              ((∀ j ∈ (start xs).installers as, j = i) →
                ((start xs).run as).setups[i]? = some (.done (.ok ())))) := by
  have hsound := sound_run xs as
  refine ⟨hsound.unique, ?_, fun r => ⟨fun hr => ?_, ?_⟩, ?_, ?_, fun hnone => ?_,
    fun i hi hsteps => ?_⟩
  · rintro pre r ⟨post, rfl⟩ hr
    rw [run_append]
    exact (grown_run _ post).registry r hr
  · obtain ⟨i, hi⟩ := hsound.winner (by rw [hr]; rfl)
    obtain ⟨x, hx, hreg, -⟩ := hsound.registry_of_won hi
    exact ⟨i, x, hx, hi, Option.some.inj (hr.symm.trans hreg)⟩
  · rintro ⟨i, x, hx, hi, rfl⟩
    obtain ⟨y, hy, hreg, -⟩ := hsound.registry_of_won hi
    obtain rfl := Option.some.inj (hx.symm.trans hy)
    exact hreg
  · rintro pre a r - hnone hr
    rw [run_append, run_singleton] at hr ⊢
    obtain ⟨x, m, hs, rfl, hdone⟩ := exists_publishing hnone hr
    obtain ⟨y, -, -, rfl, hmem⟩ := (sound_run xs pre).exists_settings hs
    exact ⟨hdone, (tracked_run hs).1, hmem⟩
  · intro i hi
    obtain ⟨x, -, hfit⟩ := hsound.exists_settings hi
    exact hfit
  · have hr : ((start xs).run as).process.registry? = none := by
      by_contra hsome
      obtain ⟨i, hi⟩ := hsound.winner (Option.isSome_iff_ne_none.mpr hsome)
      simpa [hnone] using mem_installers_of_won hi
    exact ⟨hr, fun fd => by simp [Process.wakeBlocked, hr]⟩
  · obtain ⟨r, hr⟩ := exists_done hi hsteps
    refine ⟨⟨r, hr⟩, fun hinst => ?_⟩
    have hsome := isSome_of_installer hr hinst
    refine ⟨hsome, fun honly => ?_⟩
    obtain ⟨k, hk⟩ := hsound.winner hsome
    exact honly k (mem_installers_of_won hk) ▸ hk

/-- Three setups. The kernel refuses the last its handler; the second overtakes the first. -/
def race : List Settings × List Advance :=
  ([.standard, ⟨8, some 10⟩, ⟨1, some 9⟩],
    [⟨2, .ok ()⟩, ⟨2, .error (.os .invalidArgument)⟩, ⟨0, .ok ()⟩, ⟨1, .ok ()⟩, ⟨1, .ok ()⟩,
      ⟨0, .ok ()⟩, ⟨1, .ok ()⟩, ⟨0, .ok ()⟩])

/-- Only the second setup succeeds, and the registry is its own. -/
theorem racing_setups_safe_three :
    ((start race.1).run race.2).setups =
        [.done (.error .alreadySetUp), .done (.ok ()),
          .done (.error (.setupFailed (.os .invalidArgument)))] ∧
      ((start race.1).run race.2).process.registry? = some (.ofCapacity 8 ⟨10, true, []⟩) := by
  refine ⟨rfl, ?_⟩
  obtain ⟨-, -, hregistry, -⟩ := racing_setups_safe race.1 race.2
  exact (hregistry _).mpr ⟨1, ⟨8, some 10⟩, rfl, rfl, rfl⟩

/-! ### What a setup that fails leaves behind -/

/-- A setup that has returned stays as it is. -/
lemma done_run {w : Startup} {r : Except CloseError Unit} (h : w.setups[i]? = some (.done r))
    (as : List Advance) : (w.run as).setups[i]? = some (.done r) := by
  induction as generalizing w with
  | nil => exact h
  | cons a as ih =>
    refine ih (w := w.step a) ?_
    rw [getElem?_step, h]
    split <;> rfl

lemma lt_of_mem_installers (h : i ∈ (start xs).installers as) : i < xs.length := by
  obtain ⟨pre, a, -, ha⟩ := mem_installers.mp h
  rcases handled_stepped (stepped ((start xs).run pre) a) with ⟨x, hs, hinst, -⟩ | ⟨hnone, -⟩
  · obtain rfl : a.caller = i := Option.some.inj (hinst.symm.trans ha)
    rw [← (sound_run xs pre).length]
    exact (List.getElem?_eq_some_iff.mp hs).1
  · rw [hnone] at ha
    simp at ha

lemma length_handled (xs : List Settings) (as : List Advance) :
    ((start xs).run as).process.handled.length = ((start xs).installers as).length := by
  rw [handled_run, List.length_reverse, List.filterMap_length_eq_length]
  intro i hi
  simp [lt_of_mem_installers hi]

lemma exists_done_of_installer (hover : ∀ s ∈ ((start xs).run as).setups, ∃ r, s = .done r)
    (hi : i ∈ (start xs).installers as) :
    ∃ r, ((start xs).run as).setups[i]? = some (.done r) := by
  have hlt : i < ((start xs).run as).setups.length := by
    rw [(sound_run xs as).length]
    exact lt_of_mem_installers hi
  obtain ⟨r, hr⟩ := hover _ (List.getElem_mem hlt)
  exact ⟨r, by rw [List.getElem?_eq_getElem hlt, hr]⟩

/-- When all is over, the winner alone has installed its handler if nobody was overtaken. -/
lemma installers_eq_iff (hover : ∀ s ∈ ((start xs).run as).setups, ∃ r, s = .done r) {k : ℕ}
    (hk : ((start xs).run as).setups[k]? = some (.done (.ok ()))) :
    (start xs).installers as = [k] ↔
      ∀ i : ℕ, ((start xs).run as).setups[i]? = some (.done (.error .alreadySetUp)) →
        ¬(start xs).Overtaken as i := by
  constructor
  · intro honly i hi hlate
    have hmem : i ∈ (start xs).installers as := (tracked_run hi).mpr hlate
    obtain rfl : i = k := by simpa [honly] using hmem
    rw [hk] at hi
    simp at hi
  · intro hnone
    have hall : ∀ j ∈ (start xs).installers as, j = k := by
      intro j hj
      obtain ⟨r, hr⟩ := exists_done_of_installer hover hj
      have htracked := tracked_run hr
      match r with
      | .ok () => exact (sound_run xs as).unique j k hr hk
      | .error .alreadySetUp => exact absurd (htracked.mp hj) (hnone j hr)
      | .error (.setupFailed e) => exact absurd hj htracked
      | .error (.call e) => exact absurd hj htracked
      | .error .closed => exact absurd hj htracked
    have hrep := List.eq_replicate_of_mem hall
    have hnodup := nodup_installers xs as
    have hpos := List.length_pos_of_mem (mem_installers_of_won hk)
    rw [hrep, List.nodup_replicate] at hnodup
    rw [hrep, show ((start xs).installers as).length = 1 by omega]
    rfl

/-- No setup has installed its handler when all is over without a registry. -/
lemma installers_eq_nil (hover : ∀ s ∈ ((start xs).run as).setups, ∃ r, s = .done r)
    (hnone : ((start xs).run as).process.registry? = none) : (start xs).installers as = [] := by
  refine List.eq_nil_iff_forall_not_mem.mpr fun i hi => ?_
  obtain ⟨r, hdone⟩ := exists_done_of_installer hover hi
  simpa [hnone] using isSome_of_installer hdone hi

/-- A handler was installed for the registry's signal, once, and for no other if and only if the
winner alone has installed. -/
lemma handled_eq_iff {k : ℕ} (hk : ((start xs).run as).setups[k]? = some (.done (.ok ()))) :
    ((start xs).run as).process.handled =
        ((start xs).run as).process.registry?.toList.map (·.mechanism.signal) ↔
      (start xs).installers as = [k] := by
  obtain ⟨x, hx, hreg, -⟩ := (sound_run xs as).registry_of_won hk
  rw [hreg]
  constructor
  · intro hhandled
    have hlen := length_handled xs as
    rw [hhandled] at hlen
    obtain ⟨j, hj⟩ := List.length_eq_one_iff.mp hlen.symm
    have hmem := mem_installers_of_won hk
    rw [hj, List.mem_singleton] at hmem
    rw [hj, hmem]
  · intro honly
    rw [handled_run, honly]
    simp [hx, Registry.ofCapacity]

/-- The setups that have installed a handler are those one of whose steps is an install. -/
lemma mem_installers_iff_handled_ne :
    i ∈ (start xs).installers as ↔ ∃ pre a, pre ++ [a] <+: as ∧ a.caller = i ∧
      ((start xs).run (pre ++ [a])).process.handled ≠ ((start xs).run pre).process.handled := by
  simp only [run_append, run_singleton, handled_step_ne_iff, mem_installers]
  constructor
  · rintro ⟨pre, a, hpre, h⟩
    by_cases ha : a.caller = i
    · exact ⟨pre, a, hpre, ha, ha ▸ h⟩
    · exact absurd h (installer?_of_ne ha)
  · rintro ⟨pre, a, hpre, rfl, h⟩
    exact ⟨pre, a, hpre, h⟩

/-- The only step of a setup that changes the registry is its success. -/
lemma registry_step_of_not_won {w : Startup} {a : Advance}
    (h : (w.step a).setups[a.caller]? ≠ some (.done (.ok ()))) :
    (w.step a).process.registry? = w.process.registry? := by
  have hstep := stepped w a
  generalize w.step a = w' at h hstep ⊢
  cases hstep with
  | published x m hs _ =>
    exact absurd (List.getElem?_set_self (List.getElem?_eq_some_iff.mp hs).1) h
  | idle _ | passed _ _ _ | refused _ _ _ | installed _ _ _ | failed _ _ _ _ | lost _ _ _ _ => rfl

end Startup

namespace Process

/-- Without anyone in between, a setup that fails has installed nothing. -/
lemma handled_setUp_of_failed {x : Settings} {p : Process} {e : CloseError}
    (h : (p.setUp x).1 = .error e) : (p.setUp x).2.handled = p.handled := by
  by_cases hr : p.registry?.isSome
  · simp [setUp, check, hr]
  · cases ha : SignalMechanism.kernelAnswer x.signal with
    | error e' => simp [setUp, check, hr, install, installAnswered,
        SignalMechanism.installAnswered, ha, note]
    | ok =>
      -- past its check the setup publishes, and does not fail
      simp [setUp, check, hr, install, installAnswered, SignalMechanism.installAnswered, ha,
        publish, note] at h

end Process

namespace Setup

/-- From its check a setup goes on with its own settings. -/
lemma installing_of_step {x : Settings} {p : Process} (y : Settings)
    (h : ((checking x).step p).1 = .installing y) : y = x := by
  simp only [step, stepAnswered] at h
  cases hp : p.check with
  | error e => simp [hp] at h
  | ok => exact (by simpa [hp] using h : x = y).symm

end Setup

namespace Startup

/-! ### A setup left alone -/

/-- The steps of one setup in a row, in which the kernel answers as it does. -/
def inOnePiece (i : ℕ) (x : Settings) : List Advance :=
  [⟨i, .ok ()⟩, ⟨i, SignalMechanism.kernelAnswer x.signal⟩, ⟨i, .ok ()⟩]

/-- The answer of a step matters only if the step asks the kernel. -/
lemma step_eq_step {w : Startup} {s : Setup} (hs : w.setups[i]? = some s)
    (answer : Except CallError Unit)
    (h : ∀ x, s = .installing x → answer = SignalMechanism.kernelAnswer x.signal) :
    w.step ⟨i, answer⟩ = ⟨(s.step w.process).2, w.setups.set i (s.step w.process).1⟩ := by
  rw [step, hs]
  cases s with
  | installing x =>
    obtain rfl := h x rfl
    rfl
  | checking x => rfl
  | publishing x m => rfl
  | done r => rfl

/-- A setup whose steps are taken in a row is the setup that nobody comes between. -/
lemma run_inOnePiece {w : Startup} {x : Settings} (hs : w.setups[i]? = some (.checking x)) :
    w.run (inOnePiece i x) =
      ⟨(w.process.setUp x).2, w.setups.set i (.done (w.process.setUp x).1)⟩ := by
  obtain ⟨hlt, -⟩ := List.getElem?_eq_some_iff.mp hs
  have hset : ∀ s : Setup, (w.setups.set i s)[i]? = some s := fun s => List.getElem?_set_self hlt
  obtain ⟨q, hq⟩ : ∃ q, q = (Setup.checking x).step w.process := ⟨_, rfl⟩
  obtain ⟨q', hq'⟩ : ∃ q', q' = q.1.step q.2 := ⟨_, rfl⟩
  have hthird : q'.1.step q'.2 = (.done (w.process.setUp x).1, (w.process.setUp x).2) := by
    rw [← Setup.step_step_step x w.process, hq', hq]
  -- no more than one step is left before the third, and that is not the installation
  have hleft : q'.1.left ≤ 1 := by
    have hone : q.1.left ≤ 2 := by rw [hq]; exact left_stepAnswered _ _ _
    have htwo : q'.1.left ≤ q.1.left - 1 := by rw [hq']; exact left_stepAnswered _ _ _
    omega
  have hown : ∀ y, q.1 = .installing y → y = x := fun y hy =>
    Setup.installing_of_step (p := w.process) y (hq ▸ hy)
  have hasked : ∀ y, q'.1 ≠ .installing y := fun y hy => by simp [hy, Setup.left] at hleft
  have hfirst : w.step ⟨i, .ok ()⟩ = ⟨q.2, w.setups.set i q.1⟩ := by
    rw [hq]
    exact step_eq_step hs _ fun y hy => absurd hy (by simp)
  have hsecond : (⟨q.2, w.setups.set i q.1⟩ : Startup).step
      ⟨i, SignalMechanism.kernelAnswer x.signal⟩ = ⟨q'.2, w.setups.set i q'.1⟩ := by
    rw [step_eq_step (w := ⟨q.2, w.setups.set i q.1⟩) (hset q.1) _ fun y hy => by rw [hown y hy],
      ← hq', List.set_set]
  calc w.run (inOnePiece i x)
      = ((w.step ⟨i, .ok ()⟩).step ⟨i, SignalMechanism.kernelAnswer x.signal⟩).step
          ⟨i, .ok ()⟩ := rfl
    _ = (⟨q'.2, w.setups.set i q'.1⟩ : Startup).step ⟨i, .ok ()⟩ := by rw [hfirst, hsecond]
    _ = ⟨(w.process.setUp x).2, w.setups.set i (.done (w.process.setUp x).1)⟩ := by
        rw [step_eq_step (hset q'.1) _ fun y hy => absurd hy (hasked y), hthird, List.set_set]

/-- **What a failed setup leaves behind.** A setup that fails never changes the registry. It
installs a handler if and only if it reports that the registry was set up before and was overtaken:
past its check when another setup published. Once all setups have returned, the winner's handler has
been installed and no other, and that once, if and only if there was no such setup. A setup that
takes its steps in a row is the setup that nobody comes between, and installs no handler if it
fails. -/
theorem failed_setup_changes_iff (xs : List Settings) (as : List Advance) :
    (∀ (i : ℕ) (e : CloseError), ((start xs).run as).setups[i]? = some (.done (.error e)) →
      (∀ pre a, pre ++ [a] <+: as → a.caller = i →
        ((start xs).run (pre ++ [a])).process.registry? =
          ((start xs).run pre).process.registry?) ∧
      ((∃ pre a, pre ++ [a] <+: as ∧ a.caller = i ∧
          ((start xs).run (pre ++ [a])).process.handled ≠
            ((start xs).run pre).process.handled) ↔
        e = .alreadySetUp ∧ (start xs).Overtaken as i)) ∧
    ((∀ s ∈ ((start xs).run as).setups, ∃ r, s = .done r) →
      (((start xs).run as).process.handled =
          ((start xs).run as).process.registry?.toList.map (·.mechanism.signal) ↔
        ∀ i : ℕ, ((start xs).run as).setups[i]? = some (.done (.error .alreadySetUp)) →
          ¬(start xs).Overtaken as i)) ∧
    ∀ (i : ℕ) (x : Settings), ((start xs).run as).setups[i]? = some (.checking x) →
      (start xs).run (as ++ inOnePiece i x) =
          ⟨(((start xs).run as).process.setUp x).2,
            ((start xs).run as).setups.set i (.done (((start xs).run as).process.setUp x).1)⟩ ∧
        ∀ e, (((start xs).run as).process.setUp x).1 = .error e →
          (((start xs).run as).process.setUp x).2.handled = ((start xs).run as).process.handled := by
  have hsound := sound_run xs as
  refine ⟨fun i e hi => ⟨?_, ?_⟩, fun hover => ?_, fun i x hi => ⟨?_, fun e he => ?_⟩⟩
  · rintro pre a ⟨post, rfl⟩ rfl
    rw [run_append, run_singleton]
    refine registry_step_of_not_won fun hwon => ?_
    rw [run_append, run_append, run_singleton, done_run hwon] at hi
    simp at hi
  · rw [← mem_installers_iff_handled_ne]
    have htracked := tracked_run hi
    match e with
    | .alreadySetUp => simpa [Setup.Tracked] using htracked
    | .setupFailed c => simpa [Setup.Tracked] using htracked
    | .call c => simpa [Setup.Tracked] using htracked
    | .closed => simpa [Setup.Tracked] using htracked
  · cases hr : ((start xs).run as).process.registry? with
    | none =>
      refine iff_of_true ?_ fun i hi => ?_
      · rw [handled_run, installers_eq_nil hover hr]
        rfl
      · obtain ⟨x, -, hfit⟩ := hsound.exists_settings hi
        have hsome : ((start xs).run as).process.registry?.isSome := hfit
        simp [hr] at hsome
    | some r =>
      obtain ⟨k, hk⟩ := hsound.winner (by rw [hr]; rfl)
      rw [← installers_eq_iff hover hk, ← handled_eq_iff hk, hr]
  · rw [run_append, run_inOnePiece hi]
  · exact Process.handled_setUp_of_failed he

/-- The sixth step of the race is the first setup's installation, so it was overtaken. -/
theorem failed_setup_changes_iff_race :
    ((start race.1).run race.2).setups[0]? = some (.done (.error .alreadySetUp)) ∧
      (start race.1).Overtaken race.2 0 := by
  refine ⟨rfl, ?_⟩
  obtain ⟨hfailed, -⟩ := failed_setup_changes_iff race.1 race.2
  obtain ⟨-, hiff⟩ := hfailed 0 .alreadySetUp rfl
  exact (hiff.mp ⟨race.2.take 5, ⟨0, .ok ()⟩, ⟨race.2.drop 6, rfl⟩, rfl, by decide +kernel⟩).2

/-- The first setup of the race reports that the registry was set up before, but signal 36, which
it had chosen, is handled now, although the registry uses 10. -/
theorem overtaken_setup_leaves_handler :
    ((start race.1).run race.2).setups[0]? = some (.done (.error .alreadySetUp)) ∧
      36 ∉ ((start race.1).run (race.2.take 5)).process.handled ∧
      36 ∈ ((start race.1).run race.2).process.handled ∧
      ((start race.1).run race.2).process.registry?.map (·.mechanism.signal) = some 10 ∧
      ((start race.1).run race.2).process.handled.length = 2 :=
  ⟨rfl, by decide +kernel, by decide +kernel, by decide +kernel, by decide +kernel⟩

end Startup

end AsyncClose
