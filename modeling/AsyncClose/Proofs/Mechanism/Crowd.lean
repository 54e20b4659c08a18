import AsyncClose.Mechanism.Recorder
import AsyncClose.Proofs.Mechanism.Sections

/-!
Many callers at the same wake channels.

Nobody has to keep to any order: a thread may be left that never entered, or entered by several
callers at once, and the sections of all calls may come between one another. The channels stay in
use for as long as they exist, and no caller touches the channel of a thread it does not name. Only
the depths ask for something: that no two callers enter for one thread at once.
-/

namespace AsyncClose

namespace WakeChannels

variable {κ : Type}

/-- Nothing has changed for the thread: it has the channel it had, and in its pair is what was. -/
def Spares (s : WakeChannels κ) (t : Thread) (s' : WakeChannels κ) : Prop :=
  s'.channels.get? t = s.channels.get? t ∧ s'.pairOf? t = s.pairOf? t

lemma pairOf?_congr {s s' : WakeChannels κ} {t : Thread}
    (hc : s'.channels.get? t = s.channels.get? t)
    (hp : ∀ c, s.channels.get? t = some c → s'.pair? c.pair = s.pair? c.pair) :
    s'.pairOf? t = s.pairOf? t := by
  cases h : s.channels.get? t with
  | none => rw [pairOf?_of_none h, pairOf?_of_none (hc.trans h)]
  | some c => rw [pairOf?_of_some h, pairOf?_of_some (hc.trans h), hp c h]

end WakeChannels

/-- An enter was told that no pair can be made. -/
def Event.isRefusal : Event → Bool
  | channelRefused _ _ => true
  | _ => false

namespace Demand

variable {κ : Type} [ForcedClose κ]

def performAll (closer : κ) (ds : List Demand) : WakeChannels κ × List Event :=
  ds.foldl (fun (s, log) d =>
    let (_, s, events) := d.perform s
    (s, log ++ events)) (.ofCloser closer, [])

lemma performAll_snoc (closer : κ) (ds : List Demand) (d : Demand) :
    performAll closer (ds ++ [d]) =
      ((d.perform (performAll closer ds).1).2.1,
        (performAll closer ds).2 ++ (d.perform (performAll closer ds).1).2.2) :=
  List.foldl_concat ..

end Demand

/-- A demand on its way. -/
structure Errand where
  demand : Demand
  next : Section

structure Crowd (κ : Type) where
  channels : WakeChannels κ
  errands : List Errand
  log : List Event
  /-- The demands that are done, in the order in which they came to an end. -/
  ended : List Demand

namespace Crowd

variable {κ : Type}

def start (closer : κ) (ds : List Demand) : Crowd κ :=
  ⟨.ofCloser closer, ds.map (⟨·, .first⟩), [], []⟩

def finish (w : Crowd κ) (i : ℕ) (d : Demand) (o : Outcome) : Crowd κ :=
  { w with errands := w.errands.set i ⟨d, .done o⟩, ended := w.ended ++ [d] }

/-! ### Everything a step can do -/

/-- Errand `i` goes through a section, which takes the first crowd to the second. -/
inductive Stepped (w : Crowd κ) (i : ℕ) : Crowd κ → Prop
  | absent (h : w.errands[i]? = none) : Stepped w i w
  | advanced (d : Demand) (x y : Section) (s : WakeChannels κ) (events : List Event)
    (hx : w.errands[i]? = some ⟨d, x⟩) (h : Demand.Advanced w.channels d x y s)
    (hrefused : ∀ t, d = .call (.enter t false) → x = .make →
      ∃ e ∈ events, e.isRefusal) :
    Stepped w i ⟨s, w.errands.set i ⟨d, y⟩, w.log ++ events, w.ended ++ d.ended x y⟩

variable {w w' : Crowd κ} {i : ℕ}

lemma depth_pos_stepped (h : Stepped w i w')
    (hpos : ∀ t c, w.channels.channels.get? t = some c → 0 < c.depth) :
    ∀ t c, w'.channels.channels.get? t = some c → 0 < c.depth := by
  cases h with
  | absent h => exact hpos
  | advanced d x y s events hx h _ => exact Demand.depth_pos_advanced h hpos

/-- What is asked never changes on the way. -/
lemma demands_stepped (h : Stepped w i w') :
    w'.errands.map (·.demand) = w.errands.map (·.demand) := by
  cases h with
  | absent h => rfl
  | advanced d x y s events hx h _ =>
    obtain ⟨hlt, hget⟩ := List.getElem?_eq_some_iff.mp hx
    have hlt : i < (w.errands.map (·.demand)).length := by simpa using hlt
    have hd : (w.errands.map (·.demand))[i] = d := by simp [hget]
    rw [List.map_set, ← hd, List.set_getElem_self]

lemma log_stepped (h : Stepped w i w') : w.log <+: w'.log := by
  cases h with
  | absent h => exact List.prefix_rfl
  | advanced d x y s events hx h _ => exact List.prefix_append _ _

/-! ### Pairs are held for one thread -/

/-- The thread has the pair, or an errand for the thread goes by it. -/
def Holds (w : Crowd κ) (t : Thread) (p : PairId) : Prop :=
  (∃ c, w.channels.channels.get? t = some c ∧ c.pair = p) ∨
    ∃ e ∈ w.errands, e.demand.thread = t ∧ e.next.pair? = some p

/-- Every pair that is held was made, and is held for one thread. -/
structure Separate (w : Crowd κ) : Prop where
  in_range : ∀ t p, w.Holds t p → p.index < w.channels.pairs.length
  apart : ∀ t u p, w.Holds t p → w.Holds u p → t = u

lemma separate_start (closer : κ) (ds : List Demand) : (start closer ds).Separate := by
  have hnone : ∀ t p, ¬(start closer ds).Holds t p := by
    rintro t p (⟨c, hc, -⟩ | ⟨e, he, -, hp⟩)
    · simp [start, WakeChannels.ofCloser] at hc
    · obtain ⟨d, -, rfl⟩ := List.mem_map.mp he
      simp [Section.pair?] at hp
  exact ⟨fun t p h => absurd h (hnone t p), fun t u p h => absurd h (hnone t p)⟩

lemma holds_of_held {d : Demand} {x : Section} (hx : w.errands[i]? = some ⟨d, x⟩) {t : Thread}
    {p : PairId} (h : Demand.Held w.channels d x t p) : w.Holds t p := by
  rcases h with hc | ⟨ht, hp⟩
  · exact .inl hc
  · exact .inr ⟨_, List.mem_of_getElem? hx, ht, hp⟩

lemma separate_stepped (h : Stepped w i w') (hw : w.Separate) : w'.Separate := by
  cases h with
  | absent h => exact hw
  | advanced d x y s events hx h _ =>
    have hle := Demand.length_pairs_advanced h
    -- what is held now was held before, or it is the pair that was made for the thread of `d`
    have hold : ∀ t p,
        Holds ⟨s, w.errands.set i ⟨d, y⟩, w.log ++ events, w.ended ++ d.ended x y⟩ t p →
        w.Holds t p ∨ (d.thread = t ∧ p.index = w.channels.pairs.length ∧
          w.channels.pairs.length < s.pairs.length) := by
      rintro t p (hc | ⟨e, he, ht, hp⟩)
      · exact (Demand.held_advanced h (.inl hc)).imp_left (holds_of_held hx)
      · rcases List.mem_or_eq_of_mem_set he with he | rfl
        · exact .inl (.inr ⟨e, he, ht, hp⟩)
        · exact (Demand.held_advanced h (.inr ⟨ht, hp⟩)).imp_left (holds_of_held hx)
    refine ⟨fun t p hp => ?_, fun t u p hp hq => ?_⟩
    · rcases hold t p hp with hp | ⟨-, hp, hlt⟩
      · exact (hw.in_range t p hp).trans_le hle
      · dsimp only
        omega
    · rcases hold t p hp with hp | ⟨rfl, hp, -⟩ <;> rcases hold u p hq with hq | ⟨rfl, hq, -⟩
      · exact hw.apart t u p hp hq
      · have := hw.in_range t p hp
        omega
      · have := hw.in_range u p hq
        omega
      · rfl

lemma spares_stepped (h : Stepped w i w') (hw : w.Separate) {t : Thread}
    (ht : ∀ e, w.errands[i]? = some e → e.demand.thread ≠ t) :
    w.channels.Spares t w'.channels := by
  cases h with
  | absent h => exact ⟨rfl, rfl⟩
  | advanced d x y s events hx h _ =>
    have hne : t ≠ d.thread := Ne.symm (ht _ hx)
    have hget := Demand.get?_advanced_of_ne h hne
    refine ⟨hget, WakeChannels.pairOf?_congr hget fun c hc => ?_⟩
    have hc : w.Holds t c.pair := .inl ⟨c, hc, rfl⟩
    refine Demand.getElem?_pairs_advanced h (hw.in_range t _ hc) fun p hp hpc => hne ?_
    -- a pair that the section went by would be held for two threads
    obtain rfl := PairId.eq_of_index hpc
    exact hw.apart t d.thread _ hc (holds_of_held hx (.inr ⟨rfl, hp⟩))

/-! ### Depths -/

/-- The threads for which an enter is under way that found no channel. -/
def entering (w : Crowd κ) : List Thread := w.errands.filterMap fun e => e.demand.entering? e.next

/-- An enter that found no channel would find none now. -/
def Vacant (w : Crowd κ) : Prop := ∀ t ∈ w.entering, w.channels.channels.get? t = none

lemma eq_of_nodup_filterMap {α β : Type} {f : α → Option β} {l : List α}
    (h : (l.filterMap f).Nodup) {i j : ℕ} {a b : α} {c : β} (hi : l[i]? = some a)
    (hj : l[j]? = some b) (ha : f a = some c) (hb : f b = some c) : i = j := by
  obtain ⟨hil, rfl⟩ := List.getElem?_eq_some_iff.mp hi
  obtain ⟨hjl, rfl⟩ := List.getElem?_eq_some_iff.mp hj
  rw [List.Nodup, List.pairwise_filterMap, List.pairwise_iff_getElem] at h
  rcases lt_trichotomy i j with hij | hij | hij
  · exact absurd rfl (h i j hil hjl hij c ha c hb)
  · exact hij
  · exact absurd rfl (h j i hjl hil hij c hb c ha)

/-- No errand but `i` is such an enter. -/
def Quiet (w : Crowd κ) (i : ℕ) : Prop :=
  ∀ j, j ≠ i → ∀ e, w.errands[j]? = some e → e.demand.entering? e.next = none

lemma quiet_stepped (h : Stepped w i w') (hw : w.Quiet i) : w'.Quiet i := by
  cases h with
  | absent h => exact hw
  | advanced d x y s events hx h _ =>
    intro j hj e he
    rw [List.getElem?_set_ne hj.symm] at he
    exact hw j hj e he

lemma nodup_entering (h : w.Quiet i) : w.entering.Nodup := by
  rw [entering, List.Nodup, List.pairwise_filterMap, List.pairwise_iff_getElem]
  intro j k hj hk hjk t ht u hu
  by_cases hji : j = i
  · rw [h k (by omega) _ (List.getElem?_eq_getElem hk)] at hu
    cases hu
  · rw [h j hji _ (List.getElem?_eq_getElem hj)] at ht
    cases ht

lemma vacant_start (closer : κ) (ds : List Demand) : (start closer ds).Vacant := fun _ _ => rfl

lemma vacant_stepped (h : Stepped w i w') (hw : w.Vacant) (hn : w.entering.Nodup) :
    w'.Vacant := by
  cases h with
  | absent h => exact hw
  | advanced d x y s events hx h _ =>
    intro t ht
    by_contra hc
    obtain ⟨e, he, ht⟩ := List.mem_filterMap.mp ht
    obtain ⟨j, hj⟩ := List.mem_iff_getElem?.mp he
    by_cases hij : i = j
    · -- the errand itself: it had found no channel, or does so now
      subst hij
      obtain rfl : ⟨d, y⟩ = e := by
        rw [List.getElem?_set_self (List.getElem?_eq_some_iff.mp hx).1] at hj
        exact Option.some.inj hj
      rcases Demand.entering?_advanced h ht with hold | hnone
      · have hs := hw t (List.mem_filterMap.mpr ⟨_, List.mem_of_getElem? hx, hold⟩)
        have hy := (Demand.exists_channel_advanced h hs hc).2
        rw [hy] at ht
        simp at ht
      · exact hc hnone
    · -- another errand, which would enter together with this one
      rw [List.getElem?_set_ne hij] at hj
      have hs := hw t (List.mem_filterMap.mpr ⟨e, List.mem_of_getElem? hj, ht⟩)
      have hold := (Demand.exists_channel_advanced h hs hc).1
      exact hij (eq_of_nodup_filterMap hn hx hj hold ht)

lemma depth_stepped (h : Stepped w i w') (hw : w.Vacant)
    (hopen : ∀ e ∈ w'.log, ¬e.isRefusal) {t : Thread}
    (hd : w.channels.depth t = w.ended.foldl (Demand.count t) 0) :
    w'.channels.depth t = w'.ended.foldl (Demand.count t) 0 := by
  cases h with
  | absent h => exact hd
  | advanced d x y s events hx h hrefused =>
    rw [List.foldl_append, ← hd]
    refine Demand.depth_advanced h (fun u hu hmake => ?_) (fun u hu => ?_) t
    · obtain ⟨e, he, href⟩ := hrefused u hu hmake
      exact hopen e (List.mem_append_right _ he) href
    · exact hw u (List.mem_filterMap.mpr ⟨_, List.mem_of_getElem? hx, hu⟩)

/-! ### Whole runs -/

section

variable [ForcedClose κ]

def step (w : Crowd κ) (i : ℕ) : Crowd κ :=
  match w.errands[i]? with
  | none => w
  | some ⟨d, x⟩ =>
    let (y, s, events) := d.advance x w.channels
    ⟨s, w.errands.set i ⟨d, y⟩, w.log ++ events, w.ended ++ d.ended x y⟩

def run (w : Crowd κ) (is : List ℕ) : Crowd κ := is.foldl step w

@[simp] lemma run_nil (w : Crowd κ) : w.run [] = w := rfl

@[simp] lemma run_append (w : Crowd κ) (is js : List ℕ) : w.run (is ++ js) = (w.run is).run js :=
  List.foldl_append

@[simp] lemma run_cons (w : Crowd κ) (i : ℕ) (is : List ℕ) : w.run (i :: is) = (w.step i).run is :=
  rfl

lemma step_of_none (h : w.errands[i]? = none) : w.step i = w := by
  simp only [step, h]

lemma step_of_advance {d : Demand} {x y : Section} {s : WakeChannels κ} {events : List Event}
    (h : w.errands[i]? = some ⟨d, x⟩) (ha : d.advance x w.channels = (y, s, events)) :
    w.step i = ⟨s, w.errands.set i ⟨d, y⟩, w.log ++ events, w.ended ++ d.ended x y⟩ := by
  simp only [step, h, ha]

lemma stepped (w : Crowd κ) (i : ℕ) : Stepped w i (w.step i) := by
  cases hx : w.errands[i]? with
  | none =>
    rw [step_of_none hx]
    exact .absent hx
  | some e =>
    rw [step_of_advance hx rfl]
    refine .advanced e.demand e.next _ _ _ hx (Demand.advanced _ _ _) fun t hd hmake => ?_
    rw [hd, hmake]
    exact ⟨_, List.mem_singleton_self _, rfl⟩

/-- A leave that looks for a channel and finds none is done, and that is all. -/
lemma step_leave_of_none {t : Thread} {x : Section} (hx : x = .first ∨ x = .drop)
    (hi : w.errands[i]? = some ⟨.call (.leave t), x⟩)
    (hc : w.channels.channels.get? t = none) :
    w.step i = w.finish i (.call (.leave t)) .nothing := by
  have ha : (Demand.call (.leave t)).advance x w.channels = (.done .nothing, w.channels, []) := by
    rcases hx with rfl | rfl <;> simp only [Demand.advance, hc]
  have hended : (Demand.call (.leave t)).ended x (.done .nothing) = [.call (.leave t)] := by
    rcases hx with rfl | rfl <;> rfl
  rw [step_of_advance hi ha, hended, List.append_nil, finish]

def after (closer : κ) (ds : List Demand) (is : List ℕ) : Crowd κ := (start closer ds).run is

variable (closer : κ) (ds : List Demand)

lemma after_snoc (is : List ℕ) (i : ℕ) :
    after closer ds (is ++ [i]) = (after closer ds is).step i := by
  simp [after]

lemma run_induction {P : Crowd κ → Prop} (h : P (start closer ds))
    (hstep : ∀ v i v', P v → Stepped v i v' → P v') (is : List ℕ) : P (after closer ds is) := by
  induction is using List.reverseRecOn with
  | nil => exact h
  | append_singleton is i ih =>
    rw [after_snoc]
    exact hstep _ _ _ ih (stepped _ i)

lemma depth_pos_after (is : List ℕ) :
    ∀ t c, (after closer ds is).channels.channels.get? t = some c → 0 < c.depth :=
  run_induction closer ds (by simp [start, WakeChannels.ofCloser])
    (fun _ _ _ hpos h => depth_pos_stepped h hpos) is

lemma separate_after (is : List ℕ) : (after closer ds is).Separate :=
  run_induction closer ds (separate_start closer ds) (fun _ _ _ hw h => separate_stepped h hw) is

lemma demands_after (is : List ℕ) : (after closer ds is).errands.map (·.demand) = ds :=
  run_induction closer ds (by simp [start, Function.comp_def])
    (fun _ _ _ hw h => (demands_stepped h).trans hw) is

/-- No two enters of one thread are under way at once, of those that found no channel. A thread that
is alone in entering for itself sees to that. -/
def EntersApart (is : List ℕ) : Prop := ∀ js, js <+: is → (after closer ds js).entering.Nodup

variable {closer ds}

lemma EntersApart.of_append {is js : List ℕ} (h : EntersApart closer ds (is ++ js)) :
    EntersApart closer ds is := fun ks hks => h ks (hks.trans (List.prefix_append is js))

lemma entersApart_snoc {is : List ℕ} {i : ℕ} (h : EntersApart closer ds is)
    (hi : (after closer ds (is ++ [i])).entering.Nodup) : EntersApart closer ds (is ++ [i]) := by
  intro js hjs
  rcases List.prefix_concat_iff.mp hjs with rfl | hjs
  · exact hi
  · exact h js hjs

lemma vacant_after {is : List ℕ} (h : EntersApart closer ds is) : (after closer ds is).Vacant := by
  induction is using List.reverseRecOn with
  | nil => exact vacant_start closer ds
  | append_singleton is i ih =>
    rw [after_snoc]
    exact vacant_stepped (stepped _ i) (ih h.of_append) (h is (List.prefix_append is [i]))

lemma depth_after {is : List ℕ} (hopen : ∀ e ∈ (after closer ds is).log, ¬e.isRefusal)
    (h : EntersApart closer ds is) (t : Thread) :
    (after closer ds is).channels.depth t =
      (after closer ds is).ended.foldl (Demand.count t) 0 := by
  induction is using List.reverseRecOn with
  | nil => rfl
  | append_singleton is i ih =>
    rw [after_snoc] at hopen ⊢
    have hstep := stepped (after closer ds is) i
    have hd := ih (fun e he => hopen e ((log_stepped hstep).subset he)) h.of_append
    exact depth_stepped hstep (vacant_after h.of_append) hopen hd

/-! ### One demand after another -/

lemma run_thrice {n : ℕ} {d : Demand} (h : w.errands[n]? = some ⟨d, .first⟩) :
    w.run [n, n, n] =
      ⟨(d.perform w.channels).2.1, w.errands.set n ⟨d, .done (d.perform w.channels).1⟩,
        w.log ++ (d.perform w.channels).2.2, w.ended ++ [d]⟩ := by
  have hlt := (List.getElem?_eq_some_iff.mp h).1
  have hsame := d.advance_advance_advance w.channels
  have h₁ := d.advanced .first w.channels
  rcases hr₁ : d.advance .first w.channels with ⟨x₁, s₁, events₁⟩
  have h₂ := d.advanced x₁ s₁
  rcases hr₂ : d.advance x₁ s₁ with ⟨x₂, s₂, events₂⟩
  have h₃ := d.advanced x₂ s₂
  rcases hr₃ : d.advance x₂ s₂ with ⟨x₃, s₃, events₃⟩
  simp only [hr₁, hr₂, hr₃, Prod.mk.injEq] at hsame h₁ h₂ h₃
  obtain ⟨rfl, rfl, hevents⟩ := hsame
  have hended : d.ended .first x₁ ++
      (d.ended x₁ x₂ ++ d.ended x₂ (.done (d.perform w.channels).1)) = [d] := by
    rw [d.ended_append (Demand.isDone_advanced h₂) (Demand.isDone_advanced h₃),
      d.ended_append (Demand.isDone_advanced h₁) fun _ => rfl]
    rfl
  rw [run_cons, step_of_advance h hr₁, run_cons,
    step_of_advance (w := ⟨s₁, _, _, _⟩) (List.getElem?_set_self hlt) hr₂, run_cons,
    step_of_advance (w := ⟨s₂, _, _, _⟩) (List.getElem?_set_self (by simpa using hlt)) hr₃,
    run_nil]
  simp only [List.set_set, List.append_assoc, hended, ← hevents]

/-- Three sections of each of the first `n` demands, which is all they have. -/
def inTurn (n : ℕ) : List ℕ := (List.range n).flatMap fun i => [i, i, i]

lemma inTurn_succ (n : ℕ) : inTurn (n + 1) = inTurn n ++ [n] ++ [n] ++ [n] := by
  simp [inTurn, List.range_succ]

/-- The first `n` demands are done, as they would be with nobody in between, and the others have
not begun. -/
structure Served (closer : κ) (ds : List Demand) (n : ℕ) (w : Crowd κ) : Prop where
  behind : ∀ i < n, ∀ e, w.errands[i]? = some e → e.next.isDone
  ahead : ∀ i, n ≤ i → w.errands[i]? = ds[i]?.map (⟨·, .first⟩)
  same : (w.channels, w.log) = Demand.performAll closer (ds.take n)
  ended : w.ended = ds.take n

lemma Served.next {n : ℕ} {d : Demand} (h : Served closer ds n w) (hd : ds[n]? = some d) :
    Served closer ds (n + 1) (w.run [n, n, n]) := by
  have hfirst := h.ahead n le_rfl
  rw [hd, Option.map_some] at hfirst
  have htake : ds.take (n + 1) = ds.take n ++ [d] := by
    rw [List.take_add_one, hd, Option.toList_some]
  rw [run_thrice hfirst]
  refine ⟨fun i hi e he => ?_, fun i hi => ?_, ?_, ?_⟩
  · by_cases hin : n = i
    · subst hin
      rw [List.getElem?_set_self (List.getElem?_eq_some_iff.mp hfirst).1] at he
      rw [← Option.some.inj he]
      rfl
    · rw [List.getElem?_set_ne hin] at he
      exact h.behind i (by omega) e he
  · rw [List.getElem?_set_ne (by omega)]
    exact h.ahead i (by omega)
  · rw [htake, Demand.performAll_snoc, ← h.same]
  · rw [htake, h.ended]

lemma served_inTurn {n : ℕ} (hn : n ≤ ds.length) :
    Served closer ds n (after closer ds (inTurn n)) := by
  induction n with
  | zero => exact ⟨by simp, by simp [inTurn, after, start], rfl, rfl⟩
  | succ n ih =>
    have hrun : after closer ds (inTurn (n + 1)) = (after closer ds (inTurn n)).run [n, n, n] := by
      simp [after, inTurn_succ]
    rw [hrun]
    exact (ih (by omega)).next (List.getElem?_eq_getElem hn)

lemma Served.quiet {n : ℕ} (h : Served closer ds n w) : w.Quiet n := by
  intro j _ e he
  by_cases hjn : j < n
  · exact Demand.entering?_of_isDone (h.behind j hjn e he)
  · rw [h.ahead j (by omega)] at he
    obtain ⟨d, -, rfl⟩ := Option.map_eq_some_iff.mp he
    exact d.entering?_first

lemma entersApart_inTurn {n : ℕ} (hn : n ≤ ds.length) : EntersApart closer ds (inTurn n) := by
  induction n with
  | zero =>
    intro js hjs
    obtain rfl := List.prefix_nil.mp hjs
    exact nodup_entering (served_inTurn (Nat.zero_le _)).quiet
  | succ n ih =>
    have h : (after closer ds (inTurn n)).Quiet n := (served_inTurn (by omega)).quiet
    have h₁ := quiet_stepped (stepped _ n) h
    have h₂ := quiet_stepped (stepped _ n) h₁
    have h₃ := quiet_stepped (stepped _ n) h₂
    rw [inTurn_succ]
    simp only [← after_snoc] at h₁ h₂ h₃
    refine entersApart_snoc (entersApart_snoc (entersApart_snoc (ih (by omega)) ?_) ?_) ?_
    · exact nodup_entering h₁
    · exact nodup_entering h₂
    · exact nodup_entering h₃

/-- **The channels survive whatever is asked of them.** With the sections of all calls in any order,
and pairs that cannot be made: every channel there is has an episode left to count down; a section
leaves threads alone that its call does not name; a leave that finds no channel is over and nothing
else has happened; and if no pair was refused and no two enters of a thread met, then a thread is
as deep as the calls on it say in the order in which they ended. With one call after another, which
is the calls themselves, no two enters can meet. -/
theorem channels_survive (closer : κ) (ds : List Demand) (is : List ℕ) :
    let w := after closer ds is
    let u := after closer ds (inTurn ds.length)
    (∀ t c, w.channels.channels.get? t = some c → 0 < c.depth) ∧
      (∀ i t, (∀ d, ds[i]? = some d → d.thread ≠ t) →
        w.channels.Spares t (w.step i).channels) ∧
      (∀ i t x, w.errands[i]? = some ⟨.call (.leave t), x⟩ → x = .first ∨ x = .drop →
        w.channels.channels.get? t = none →
        w.step i = w.finish i (.call (.leave t)) .nothing) ∧
      ((∀ e ∈ w.log, ¬e.isRefusal) → EntersApart closer ds is →
        ∀ t, w.channels.depth t = w.ended.foldl (Demand.count t) 0) ∧
      (u.channels, u.log) = Demand.performAll closer ds ∧ u.ended = ds ∧
      ((∀ e ∈ u.log, ¬e.isRefusal) →
        ∀ t, u.channels.depth t = ds.foldl (Demand.count t) 0) := by
  intro w u
  have h : Served closer ds ds.length u := served_inTurn le_rfl
  have hended := h.ended
  have hsame := h.same
  rw [List.take_length] at hended hsame
  refine ⟨depth_pos_after closer ds is, fun i t ht => ?_, fun i t x hi hx hc => ?_,
    fun hopen h t => depth_after hopen h t, hsame, hended, fun hopen t => ?_⟩
  · refine spares_stepped (stepped w i) (separate_after closer ds is) fun e he => ht _ ?_
    rw [← demands_after closer ds is, List.getElem?_map, he, Option.map_some]
  · exact step_leave_of_none hx hi hc
  · have hdepth := depth_after hopen (entersApart_inTurn le_rfl) t
    rwa [hended] at hdepth

end

def calm : CloseRecorder := ⟨[], .ofOutcomes []⟩

-- two enters of one thread that meet count for one
example : (after calm [.call (.enter ⟨0⟩ true), .call (.enter ⟨0⟩ true)]
    [0, 1, 0, 1, 0, 1]).channels.depth ⟨0⟩ = 1 := by decide +kernel

/-- A leave that finds no channel, two threads that enter at once, a wake for the first of them, and
two leaves of it that overlap. -/
def overlapping : List Demand :=
  [.call (.leave ⟨0⟩), .call (.enter ⟨0⟩ true), .call (.enter ⟨1⟩ true),
    .call (.wake ⟨0⟩ (.raw 5)), .call (.leave ⟨0⟩), .call (.leave ⟨0⟩), .source ⟨1⟩]

/-- All but the last section of the second leave. -/
def overlaps : List ℕ := [0, 1, 2, 1, 2, 2, 1, 3, 3, 3, 6, 4, 5, 4, 5, 4]

lemma entersApart_overlaps : EntersApart calm overlapping (overlaps ++ [5]) := by
  have hall : ∀ js ∈ (overlaps ++ [5]).inits, (after calm overlapping js).entering.Nodup := by
    decide +kernel
  exact fun js hjs => hall js ((List.mem_inits js _).mpr hjs)

/-- The second leave comes back to no channel, and nobody minds. With the calls in order it finds
none from the beginning. -/
theorem channels_survive_overlapping :
    let w := after calm overlapping overlaps
    let u := after calm overlapping (inTurn overlapping.length)
    w.step 5 = w.finish 5 (.call (.leave ⟨0⟩)) .nothing ∧
      w.channels.Spares ⟨1⟩ (w.step 5).channels ∧
      (∃ c, w.channels.channels.get? ⟨1⟩ = some c ∧ 0 < c.depth) ∧
      (w.step 5).channels.depth ⟨1⟩ = (w.step 5).ended.foldl (Demand.count ⟨1⟩) 0 ∧
      u.channels.depth ⟨1⟩ = overlapping.foldl (Demand.count ⟨1⟩) 0 ∧
      overlapping.foldl (Demand.count ⟨1⟩) 0 = 1 := by
  intro w u
  obtain ⟨hpos, hspares, hlate, -, -, -, hinTurn⟩ := channels_survive calm overlapping overlaps
  obtain ⟨-, -, -, hdepth, -⟩ := channels_survive calm overlapping (overlaps ++ [5])
  rw [after_snoc] at hdepth
  have hc : w.channels.channels.get? ⟨1⟩ = some ⟨⟨1⟩, 1⟩ := by decide +kernel
  exact ⟨hlate 5 ⟨0⟩ .drop rfl (.inr rfl) rfl, hspares 5 ⟨1⟩ (by decide), ⟨_, hc, hpos _ _ hc⟩,
    hdepth (by decide +kernel) entersApart_overlaps ⟨1⟩, hinTurn (by decide +kernel) ⟨1⟩, by decide⟩

end Crowd

end AsyncClose
