import AsyncClose.Proofs.History.Snapshot
import AsyncClose.Proofs.Mechanism.Ownership

/-!
How long a guard has something to wait on.

A channel counts the guards of its thread that were acquired since it was made, less all that were
released since. Guards for which no pair could be made are not counted, but their release is. So
the channel goes when as many guards are left as there were when it was made: none, unless a pair
was refused before.
-/

namespace AsyncClose

namespace Roster

section

variable {σ : Type}

def present (t : Thread) (w : Roster σ) : ℕ :=
  w.guards.countP fun x => x.1.thread = t ∧ x.2 ≠ .dropped

lemma present_pos {w : Roster σ} {n : ℕ} {g : Guard} {f : Fate} (hn : w.guards[n]? = some (g, f))
    (hf : f ≠ .dropped) : 0 < w.present g.thread :=
  List.countP_pos_iff.mpr ⟨_, List.mem_of_getElem? hn, by simp [hf]⟩

def contacts (w : Roster σ) : Command → List Contact
  | .acquire t _ canOpen => [.enter t canOpen]
  | .release n =>
    match w.guards[n]? with
    | some (g, .held) => [.leave g.thread]
    | _ => []
  | .forget _ => []
  | .wake fd => (w.registry.targets fd).map fun x => .wake x.2.thread fd

lemma contacts_release {w : Roster σ} {n : ℕ} {g : Guard} (hn : w.guards[n]? = some (g, .held)) :
    w.contacts (.release n) = [.leave g.thread] := by
  simp only [contacts, hn]

lemma wakes_of_mem_contacts (w : Roster σ) (fd : Descriptor) :
    ∀ c ∈ w.contacts (.wake fd), ∃ u d, c = .wake u d := by
  intro c hc
  obtain ⟨x, -, rfl⟩ := List.mem_map.mp hc
  exact ⟨_, _, rfl⟩

variable [Mechanism σ]

lemma tidy_perform {w : Roster σ} (h : w.registry.slab.Tidy) (a : Command) :
    (w.perform a).registry.slab.Tidy := by
  cases a with
  | acquire t fd canOpen => exact Slab.tidy_insert h _
  | release n =>
    simp only [perform]
    split
    · exact Slab.tidy_remove h _
    · exact h
  | forget n =>
    simp only [perform]
    split <;> exact h
  | wake fd =>
    rw [perform, Registry.slab_wakeBlocked fd _ h]
    exact Slab.tidy_onClose fd h

lemma tidy_ofHistory (capacity : ℕ) (m : σ) (cs : List Command) :
    (ofHistory capacity m cs).registry.slab.Tidy := by
  induction cs using List.reverseRecOn with
  | nil => exact Slab.tidy_ofCapacity capacity
  | append_singleton cs a ih => rw [ofHistory, run_snoc]; exact tidy_perform ih a

/-- A guard is held, so that it can be released or forgotten, or commands pass it over. -/
lemma held_or_idle (w : Roster σ) (n : ℕ) :
    (∃ g, w.guards[n]? = some (g, .held)) ∨
      w.perform (.release n) = w ∧ w.contacts (.release n) = [] ∧ w.perform (.forget n) = w := by
  by_cases h : ∃ g, w.guards[n]? = some (g, .held)
  · exact .inl h
  · refine .inr ⟨?_, ?_, ?_⟩
    · simp only [perform]
      split
      · next g hn => exact absurd ⟨g, hn⟩ h
      · rfl
    · simp only [contacts]
      split
      · next g hn => exact absurd ⟨g, hn⟩ h
      · rfl
    · simp only [perform]
      split
      · next g hn => exact absurd ⟨g, hn⟩ h
      · rfl

lemma perform_release {w : Roster σ} {n : ℕ} {g : Guard} (hn : w.guards[n]? = some (g, .held)) :
    w.perform (.release n) = ⟨w.registry.release g, w.guards.set n (g, .dropped)⟩ := by
  simp only [perform, hn]

lemma perform_forget {w : Roster σ} {n : ℕ} {g : Guard} (hn : w.guards[n]? = some (g, .held)) :
    w.perform (.forget n) = ⟨w.registry, w.guards.set n (g, .forgotten)⟩ := by
  simp only [perform, hn]

lemma mechanism_perform {w : Roster σ} (h : w.registry.slab.Tidy) (a : Command) :
    (w.perform a).registry.mechanism = Contact.replay (w.contacts a) w.registry.mechanism := by
  cases a with
  | acquire t fd canOpen => rfl
  | release n =>
    rcases w.held_or_idle n with ⟨g, hn⟩ | ⟨hp, hc, -⟩
    · rw [perform_release hn, contacts_release hn]; rfl
    · rw [hp, hc]; rfl
  | forget n =>
    rcases w.held_or_idle n with ⟨g, hn⟩ | ⟨-, -, hp⟩
    · rw [perform_forget hn]; rfl
    · rw [hp]; rfl
  | wake fd =>
    rw [perform, Registry.mechanism_wakeBlocked fd _ h, contacts, Contact.replay, List.foldl_map]
    rfl

/-- The guards of a thread are counted by its enters and leaves. -/
lemma present_perform (w : Roster σ) (a : Command) (t : Thread) :
    (w.perform a).present t + Contact.left t (w.contacts a) =
      w.present t + Contact.entered t (w.contacts a) := by
  cases a with
  | acquire u fd canOpen => simp [perform, contacts, present, List.countP_append]
  | release n =>
    rcases w.held_or_idle n with ⟨g, hn⟩ | ⟨hp, hc, -⟩
    · have hset := Slab.countP_set_add
        (fun x : Guard × Fate => decide (x.1.thread = t ∧ x.2 ≠ .dropped)) hn (g, .dropped)
      rw [perform_release hn, contacts_release hn]
      simpa [present] using hset
    · rw [hp, hc]; rfl
  | forget n =>
    rcases w.held_or_idle n with ⟨g, hn⟩ | ⟨-, -, hp⟩
    · have hset := Slab.countP_set_add
        (fun x : Guard × Fate => decide (x.1.thread = t ∧ x.2 ≠ .dropped)) hn (g, .forgotten)
      rw [perform_forget hn]
      simpa [present, contacts] using hset
    · rw [hp]; rfl
  | wake fd =>
    obtain ⟨hent, hleft⟩ := Contact.count_of_wakes t (w.wakes_of_mem_contacts fd)
    rw [hent, hleft]
    rfl

end

/-! ### The channel of a thread, command by command -/

section

variable {κ : Type}

def channel? (w : Roster (WakeChannels κ)) (t : Thread) : Option Channel :=
  w.registry.mechanism.channels.get? t

lemma source?_eq_map (w : Roster (WakeChannels κ)) [ForcedClose κ] (t : Thread) :
    w.registry.source? t = (w.channel? t).map (·.pair) := rfl

/-- What command `a` makes of the channel of a thread, and of the number of its guards. -/
inductive Turned (t : Thread) (a : Command) (w w' : Roster (WakeChannels κ)) : Prop
  | without (h : w.channel? t = none) (h' : w'.channel? t = none)
    (hp : w'.present t ≤ w.present t ∨ ∃ fd, a = .acquire t fd false)
  | made (fd : Descriptor) (ha : a = .acquire t fd true) (h : w.channel? t = none)
    (h' : w'.channel? t = some ⟨⟨w.registry.mechanism.pairs.length⟩, 1⟩)
    (hp : w'.present t = w.present t + 1)
  | kept (x : Channel) (d : ℕ) (h : w.channel? t = some x)
    (h' : w'.channel? t = some { x with depth := d }) (hd : 0 < d)
    (hp : d + w.present t = x.depth + w'.present t)
  | lost (x : Channel) (h : w.channel? t = some x) (h' : w'.channel? t = none)
    (hp : x.depth + w'.present t = w.present t)

variable {t : Thread} {a : Command} {w w' : Roster (WakeChannels κ)}

lemma turned_of_eq (hw : w.registry.mechanism.InOrder) (hc : w'.channel? t = w.channel? t)
    (hp : w'.present t = w.present t) : Turned t a w w' := by
  cases hx : w.channel? t with
  | none => exact .without hx (hc.trans hx) (.inl hp.le)
  | some x => exact .kept x x.depth hx (hc.trans hx) (hw.depth_pos t x hx) (by omega)

lemma turned_of_shifted {c : Contact} (hw : w.registry.mechanism.InOrder)
    (hs : WakeChannels.Shifted t w.registry.mechanism.pairs.length c (w.channel? t) (w'.channel? t))
    (hp : w'.present t + Contact.left t [c] = w.present t + Contact.entered t [c])
    (ha : ∀ canOpen, c = .enter t canOpen → ∃ fd, a = .acquire t fd canOpen) :
    Turned t a w w' := by
  have hpos := hw.depth_pos t
  generalize hx : w.channel? t = x at hs
  generalize hy : w'.channel? t = y at hs
  cases hs with
  | aside hc =>
    obtain ⟨hent, hleft⟩ := WakeChannels.count_of_not_concerns ‹_›
    exact turned_of_eq hw (hy.trans hx.symm) (by rwa [hent, hleft] at hp)
  | again canOpen x => exact .kept x _ hx hy (Nat.succ_pos _) (by simp at hp ⊢; omega)
  | created =>
    obtain ⟨fd, hfd⟩ := ha true rfl
    exact .made fd hfd hx hy (by simpa using hp)
  | refused => exact .without hx hy (.inr (ha false rfl))
  | left x hd => exact .kept x _ hx hy (Nat.pos_of_ne_zero hd) (by simp at hp ⊢; omega)
  | destroyed x hd =>
    have := hpos x hx
    exact .lost x hx hy (by simp at hp; omega)
  | strayed => exact .without hx hy (.inl (by simp at hp; omega))

variable [ForcedClose κ]

lemma get?_replay_of_aside {s : WakeChannels κ} {cs : List Contact}
    (h : ∀ c ∈ cs, ¬WakeChannels.Concerns t c) :
    (Contact.replay cs s).channels.get? t = s.channels.get? t := by
  induction cs generalizing s with
  | nil => rfl
  | cons c cs ih =>
    rw [Contact.replay_cons, ih fun d hd => h d (List.mem_cons_of_mem c hd)]
    exact (WakeChannels.shifted_called (WakeChannels.called s c) t).eq_of_aside
      (h c List.mem_cons_self)

lemma turned_perform (hw : w.registry.mechanism.InOrder) (ht : w.registry.slab.Tidy)
    (a : Command) (t : Thread) : Turned t a w (w.perform a) := by
  have hp := w.present_perform a t
  have hm := mechanism_perform ht a
  cases a with
  | acquire u fd canOpen =>
    refine turned_of_shifted hw ?_ hp ?_
    · exact WakeChannels.shifted_called (WakeChannels.called _ _) t
    · rintro b hb
      obtain ⟨rfl, rfl⟩ := Contact.enter.inj hb
      exact ⟨fd, rfl⟩
  | release n =>
    rcases w.held_or_idle n with ⟨g, hn⟩ | ⟨hidle, -, -⟩
    · rw [contacts_release hn] at hp hm
      refine turned_of_shifted (c := .leave g.thread) hw ?_ hp ?_
      · rw [channel?, channel?, hm]
        exact WakeChannels.shifted_called (WakeChannels.called _ _) t
      · intro b hb
        simp at hb
    · rw [hidle]
      exact turned_of_eq hw rfl rfl
  | forget n =>
    refine turned_of_eq hw ?_ (by simpa [contacts] using hp)
    rw [channel?, channel?, hm]
    rfl
  | wake fd =>
    obtain ⟨hent, hleft⟩ := Contact.count_of_wakes t (w.wakes_of_mem_contacts fd)
    refine turned_of_eq hw ?_ (by rwa [hent, hleft] at hp)
    rw [channel?, channel?, hm]
    refine get?_replay_of_aside fun c hc => ?_
    obtain ⟨u, d, rfl⟩ := w.wakes_of_mem_contacts fd c hc
    exact WakeChannels.not_concerns_wake

/-! ### Whole histories -/

variable (closer : κ) (capacity : ℕ)

/-- The registry over channels that nobody owned, and its guards, after a history. -/
def overChannels (cs : List Command) : Roster (WakeChannels κ) :=
  ofHistory capacity (.ofCloser closer) cs

lemma overChannels_snoc (cs : List Command) (a : Command) :
    overChannels closer capacity (cs ++ [a]) = (overChannels closer capacity cs).perform a := by
  rw [overChannels, ofHistory, run_snoc]
  rfl

lemma tidy_overChannels (cs : List Command) :
    (overChannels closer capacity cs).registry.slab.Tidy := tidy_ofHistory capacity _ cs

variable {closer capacity} in
/-- What every call keeps, every history keeps. -/
lemma mechanism_induction {P : WakeChannels κ → Prop} (h : P (.ofCloser closer))
    (hstep : ∀ s c s', P s → WakeChannels.Called s c s' → P s') (cs : List Command) :
    P (overChannels closer capacity cs).registry.mechanism := by
  have hreplay : ∀ (ds : List Contact) s, P s → P (Contact.replay ds s) := by
    intro ds
    induction ds with
    | nil => exact fun _ hs => hs
    | cons c ds ih => exact fun s hs => ih _ (hstep s c _ hs (WakeChannels.called s c))
  induction cs using List.reverseRecOn with
  | nil => exact h
  | append_singleton cs a ih =>
    rw [overChannels_snoc, mechanism_perform (tidy_overChannels closer capacity cs)]
    exact hreplay _ _ ih

lemma inOrder_overChannels (cs : List Command) :
    (overChannels closer capacity cs).registry.mechanism.InOrder :=
  mechanism_induction (WakeChannels.inOrder_ofCloser closer)
    (fun _ _ _ => WakeChannels.inOrder_called) cs

lemma turned_snoc (cs : List Command) (a : Command) (t : Thread) :
    Turned t a (overChannels closer capacity cs) (overChannels closer capacity (cs ++ [a])) := by
  rw [overChannels_snoc]
  exact turned_perform (inOrder_overChannels closer capacity cs)
    (tidy_overChannels closer capacity cs) a t

/-! ### What a channel counts -/

variable {closer capacity}

/-- The thread has a channel with pair `q`, which counts all but `k` of the thread's guards. -/
def Counts (t : Thread) (q : PairId) (k : ℕ) (w : Roster (WakeChannels κ)) : Prop :=
  ∃ d, 0 < d ∧ w.channel? t = some ⟨q, d⟩ ∧ d + k = w.present t

variable {q : PairId} {k : ℕ}

lemma Counts.source (h : Counts t q k w) : w.registry.source? t = some q := by
  obtain ⟨d, -, hd, -⟩ := h
  rw [source?_eq_map, hd, Option.map_some]

omit [ForcedClose κ] in
lemma Counts.lt (h : Counts t q k w) : k < w.present t := by
  obtain ⟨d, hpos, -, hd⟩ := h
  omega

omit [ForcedClose κ] in
/-- A channel goes on counting until it is left with the guards that it does not count. -/
lemma Counts.turned (h : Counts t q k w) (hs : Turned t a w w') :
    Counts t q k w' ∨ w'.channel? t = none ∧ w'.present t = k := by
  obtain ⟨d, hpos, hd, hk⟩ := h
  cases hs with
  | without hx => rw [hd] at hx; simp at hx
  | made fd ha hx => rw [hd] at hx; simp at hx
  | kept x d' hx hx' hd' hp =>
    obtain rfl : x = ⟨q, d⟩ := Option.some.inj (hx.symm.trans hd)
    dsimp only at hp
    exact .inl ⟨d', hd', hx', by omega⟩
  | lost x hx hx' hp =>
    obtain rfl : x = ⟨q, d⟩ := Option.some.inj (hx.symm.trans hd)
    dsimp only at hp
    exact .inr ⟨hx', by omega⟩

/-- The pair of a thread was made when the thread had none, and its channel has counted the guards
of the thread ever since, but for those there were before. -/
lemma exists_made {cs : List Command} {x : Channel}
    (hx : (overChannels closer capacity cs).channel? t = some x) :
    ∃ pre fd post, cs = pre ++ .acquire t fd true :: post ∧
      (overChannels closer capacity pre).channel? t = none ∧
      x.pair = ⟨(overChannels closer capacity pre).registry.mechanism.pairs.length⟩ ∧
      ∀ p, p <+: post →
        Counts t x.pair ((overChannels closer capacity pre).present t)
          (overChannels closer capacity (pre ++ .acquire t fd true :: p)) := by
  induction cs using List.reverseRecOn generalizing x with
  | nil =>
    have hnone : none = some x := hx
    simp at hnone
  | append_singleton cs a ih =>
    have hs := turned_snoc closer capacity cs a t
    cases hs with
    | without h h' => rw [hx] at h'; simp at h'
    | lost y h h' => rw [hx] at h'; simp at h'
    | made fd ha h h' hp =>
      obtain rfl := Option.some.inj (hx.symm.trans h')
      obtain rfl := ha
      refine ⟨cs, fd, [], rfl, h, rfl, fun p hp' => ?_⟩
      obtain rfl := List.prefix_nil.mp hp'
      exact ⟨1, Nat.one_pos, hx, by omega⟩
    | kept y d h h' hd hp =>
      obtain ⟨pre, fd, post, rfl, hnone, hpair, hcounts⟩ := ih h
      obtain rfl := Option.some.inj (hx.symm.trans h')
      refine ⟨pre, fd, post ++ [a], by simp, hnone, hpair, fun p hp' => ?_⟩
      rcases List.prefix_concat_iff.mp hp' with rfl | hp'
      · have hstep := turned_snoc closer capacity (pre ++ .acquire t fd true :: post) a t
        rcases (hcounts post List.prefix_rfl).turned hstep with hc | ⟨hc, -⟩
        · simpa using hc
        · rw [hx] at hc; simp at hc
      · exact hcounts p hp'

/-- A pair stays the source of a thread as long as the thread has more guards than its channel does
not count. -/
lemma Counts.source_iff {cs : List Command}
    (h : Counts t q k (overChannels closer capacity cs)) (ds : List Command) :
    (∀ p, p <+: ds → (overChannels closer capacity (cs ++ p)).registry.source? t = some q) ↔
      ∀ p, p <+: ds → k < (overChannels closer capacity (cs ++ p)).present t := by
  -- as long as either side holds, the channel counts
  have hcounts : ∀ p, (∀ p', p' <+: p →
      (overChannels closer capacity (cs ++ p')).registry.source? t = some q ∨
        k < (overChannels closer capacity (cs ++ p')).present t) →
      Counts t q k (overChannels closer capacity (cs ++ p)) := by
    intro p
    induction p using List.reverseRecOn with
    | nil => intro _; rwa [List.append_nil]
    | append_singleton p a ih =>
      intro hp
      have hbefore := ih fun p' hp' => hp p' (hp'.trans (List.prefix_append p [a]))
      have hnow := hp _ List.prefix_rfl
      rw [← List.append_assoc] at hnow ⊢
      rcases hbefore.turned (turned_snoc closer capacity (cs ++ p) a t) with hc | ⟨hnone, hleft⟩
      · exact hc
      · rcases hnow with hsource | hlt
        · rw [source?_eq_map, hnone] at hsource
          simp at hsource
        · omega
  constructor
  · exact fun hall p hp => (hcounts p fun p' hp' => .inl (hall p' (hp'.trans hp))).lt
  · exact fun hall p hp => (hcounts p fun p' hp' => .inr (hall p' (hp'.trans hp))).source

variable (closer capacity)

/-- Whenever the thread acquires a guard and has no channel, a pair can be made for it. -/
def Granted (t : Thread) (cs : List Command) : Prop :=
  ∀ p fd, p ++ [Command.acquire t fd false] <+: cs →
    (overChannels closer capacity p).channel? t ≠ none

variable {closer capacity}

lemma Granted.of_append {cs ds : List Command} (h : Granted closer capacity t (cs ++ ds)) :
    Granted closer capacity t cs :=
  fun p fd hp => h p fd (hp.trans (List.prefix_append cs ds))

/-- If no pair is refused to a thread, its channel counts all its guards. -/
lemma depth_eq_present {cs : List Command} (h : Granted closer capacity t cs) :
    (overChannels closer capacity cs).registry.mechanism.depth t =
      (overChannels closer capacity cs).present t := by
  induction cs using List.reverseRecOn with
  | nil => rfl
  | append_singleton cs a ih =>
    have ih := ih h.of_append
    cases turned_snoc closer capacity cs a t with
    | without hx hx' hp =>
      rw [WakeChannels.depth_of_none hx] at ih
      rw [WakeChannels.depth_of_none hx']
      rcases hp with hp | ⟨fd, rfl⟩
      · omega
      · exact absurd hx (h cs fd List.prefix_rfl)
    | made fd ha hx hx' hp =>
      rw [WakeChannels.depth_of_none hx] at ih
      rw [WakeChannels.depth_of_some hx', hp, ← ih]
    | kept x d hx hx' hd hp =>
      rw [WakeChannels.depth_of_some hx] at ih
      rw [WakeChannels.depth_of_some hx']
      dsimp only
      omega
    | lost x hx hx' hp =>
      rw [WakeChannels.depth_of_some hx] at ih
      rw [WakeChannels.depth_of_none hx']
      omega

lemma present_eq_zero {cs : List Command} (h : Granted closer capacity t cs)
    (hx : (overChannels closer capacity cs).channel? t = none) :
    (overChannels closer capacity cs).present t = 0 := by
  rw [← depth_eq_present h, WakeChannels.depth_of_none hx]

/-- **A wake source lasts while more guards are left than there were before its pair.** Let a thread
have a wake source, whatever pairs were refused. The pair was made when the thread had no channel,
for a guard of that thread; let `k` be the number of guards the thread had before. From then on
the source stays the same as long as the thread has more than `k` guards, and no longer. So every
guard of the thread keeps the source until it is released itself if `k` is zero, and `k` is zero if
no pair was refused to the thread. -/
theorem source_lasts_iff (closer : κ) (capacity : ℕ) (cs : List Command) (t : Thread) (q : PairId)
    (hq : (overChannels closer capacity cs).registry.source? t = some q) :
    ∃ pre fd post, cs = pre ++ Command.acquire t fd true :: post ∧
      (overChannels closer capacity pre).registry.source? t = none ∧
      q = ⟨(overChannels closer capacity pre).registry.mechanism.pairs.length⟩ ∧
      (∀ ds,
        (∀ p, p <+: ds →
            (overChannels closer capacity (cs ++ p)).registry.source? t = some q) ↔
          ∀ p, p <+: ds →
            (overChannels closer capacity pre).present t <
              (overChannels closer capacity (cs ++ p)).present t) ∧
      ((overChannels closer capacity pre).present t = 0 → ∀ (n : ℕ) (g : Guard), g.thread = t →
        ∀ ds, (∀ p, p <+: ds → ∃ f, f ≠ Fate.dropped ∧
            (overChannels closer capacity (cs ++ p)).guards[n]? = some (g, f)) →
          (overChannels closer capacity (cs ++ ds)).registry.source? t = some q) ∧
      (Granted closer capacity t cs → (overChannels closer capacity pre).present t = 0) := by
  rw [source?_eq_map] at hq
  obtain ⟨x, hx, rfl⟩ := Option.map_eq_some_iff.mp hq
  obtain ⟨pre, fd, post, rfl, hnone, hpair, hcounts⟩ := exists_made hx
  have hiff := (hcounts post List.prefix_rfl).source_iff
  refine ⟨pre, fd, post, rfl, by rw [source?_eq_map, hnone]; rfl, hpair, hiff, ?_, ?_⟩
  · rintro hzero n g rfl ds halive
    refine (hiff ds).mpr (fun p hp => ?_) ds List.prefix_rfl
    obtain ⟨f, hf, hn⟩ := halive p hp
    rw [hzero]
    exact present_pos hn hf
  · exact fun hgranted => present_eq_zero hgranted.of_append hnone

def watched (cs : List Command) : Roster (WakeChannels CloseRecorder) :=
  overChannels (CloseRecorder.mk [] (.ofOutcomes [])) 1 cs

/-- Two guards of one thread, for the first of which no pair can be made. -/
def refusedFirst : List Command :=
  [.acquire ⟨0⟩ (.raw 5) false, .acquire ⟨0⟩ (.raw 6) true]

/-- The source is there, and lasts while the thread has more than one guard. -/
theorem source_lasts_iff_refused :
    (watched refusedFirst).registry.source? ⟨0⟩ = some ⟨0⟩ ∧
      ∃ pre fd post, refusedFirst = pre ++ Command.acquire ⟨0⟩ fd true :: post ∧
        (watched pre).registry.source? ⟨0⟩ = none ∧
        ∀ ds, (∀ p, p <+: ds → (watched (refusedFirst ++ p)).registry.source? ⟨0⟩ = some ⟨0⟩) ↔
          ∀ p, p <+: ds → (watched pre).present ⟨0⟩ < (watched (refusedFirst ++ p)).present ⟨0⟩ := by
  have hq : (watched refusedFirst).registry.source? ⟨0⟩ = some ⟨0⟩ := by decide +kernel
  obtain ⟨pre, fd, post, hsplit, hnone, -, hiff, -⟩ := source_lasts_iff _ _ _ _ _ hq
  exact ⟨hq, pre, fd, post, hsplit, hnone, hiff⟩

/-- When the first guard is released the second has no source any more, though it is still held. -/
theorem refused_release_takes_source :
    (watched refusedFirst).guards[1]? = some (⟨.pack 1 0, .raw 6, ⟨0⟩⟩, .held) ∧
      (watched refusedFirst).registry.source? ⟨0⟩ = some ⟨0⟩ ∧
      (watched (refusedFirst ++ [.release 0])).guards[1]? =
        some (⟨.pack 1 0, .raw 6, ⟨0⟩⟩, .held) ∧
      (watched (refusedFirst ++ [.release 0])).registry.blocked =
        [(.pack 1 0, ⟨.raw 6, ⟨0⟩, false⟩)] ∧
      (watched (refusedFirst ++ [.release 0])).registry.source? ⟨0⟩ = none := by
  decide +kernel

end

end Roster

end AsyncClose
