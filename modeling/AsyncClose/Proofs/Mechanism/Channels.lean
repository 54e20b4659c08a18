import AsyncClose.Mechanism.WakeChannel
import AsyncClose.Proofs.Mechanism.Contact

/-!
Wake channels, call by call.

The pair of a channel is written to by wakes of its thread and read by the leaves of its thread,
and no two threads share one. So a byte is under way exactly if the thread was woken, while it
had a channel, and has not left since.
-/

namespace AsyncClose

lemma PairId.eq_of_index {p q : PairId} (h : p.index = q.index) : p = q := by
  cases p
  cases q
  exact congrArg PairId.mk h

namespace WakePair

def ringing : WakePair := ⟨true, 1, false⟩

/-- The flag tells what the stream holds, and nothing is shut. -/
def InStep (p : WakePair) : Prop := p = fresh ∨ p = ringing

lemma InStep.push {p : WakePair} (h : p.InStep) : p.push.1 = ringing := by
  rcases h with rfl | rfl <;> rfl

lemma InStep.pop {p : WakePair} (h : p.InStep) : p.pop.1 = fresh := by
  rcases h with rfl | rfl <;> rfl

end WakePair

namespace WakeChannels

variable {κ : Type}

def pairOf? (s : WakeChannels κ) (t : Thread) : Option WakePair :=
  (s.channels.get? t).bind fun c => s.pair? c.pair

/-- The number of episodes that a thread's channel counts, none if it has no channel. -/
def depth (s : WakeChannels κ) (t : Thread) : ℕ := ((s.channels.get? t).map (·.depth)).getD 0

/-- Every channel is in use, and its pair was made for it alone. -/
structure InOrder (s : WakeChannels κ) : Prop where
  depth_pos : ∀ t c, s.channels.get? t = some c → 0 < c.depth
  in_range : ∀ t c, s.channels.get? t = some c → c.pair.index < s.pairs.length
  apart : ∀ t u c d, s.channels.get? t = some c → s.channels.get? u = some d →
    c.pair = d.pair → t = u
  in_step : ∀ p ∈ s.pairs, p.InStep

variable {s : WakeChannels κ}

lemma inOrder_ofCloser (closer : κ) : (ofCloser closer).InOrder := by
  refine ⟨?_, ?_, ?_, ?_⟩ <;> simp [ofCloser]

lemma InOrder.exists_pair (h : s.InOrder) {t : Thread} {c : Channel}
    (hc : s.channels.get? t = some c) : ∃ p, s.pair? c.pair = some p ∧ p.InStep := by
  have hlt := h.in_range t c hc
  exact ⟨s.pairs[c.pair.index], List.getElem?_eq_getElem hlt, h.in_step _ (List.getElem_mem hlt)⟩

lemma pairOf?_of_some {t : Thread} {c : Channel} (hc : s.channels.get? t = some c) :
    s.pairOf? t = s.pair? c.pair := by
  rw [pairOf?, hc, Option.bind_some]

lemma pairOf?_of_none {t : Thread} (hc : s.channels.get? t = none) : s.pairOf? t = none := by
  rw [pairOf?, hc, Option.bind_none]

lemma depth_of_some {t : Thread} {c : Channel} (hc : s.channels.get? t = some c) :
    s.depth t = c.depth := by
  rw [depth, hc]; rfl

lemma depth_of_none {t : Thread} (hc : s.channels.get? t = none) : s.depth t = 0 := by
  rw [depth, hc]; rfl

lemma InOrder.depth_pos_iff (h : s.InOrder) {t : Thread} :
    0 < s.depth t ↔ ∃ c, s.channels.get? t = some c := by
  constructor
  · intro hpos
    cases hc : s.channels.get? t with
    | none => rw [depth_of_none hc] at hpos; omega
    | some c => exact ⟨c, rfl⟩
  · rintro ⟨c, hc⟩
    rw [depth_of_some hc]
    exact h.depth_pos t c hc

/-! ### Everything a call can do -/

lemma onPair_fst (s : WakeChannels κ) (p : PairId)
    (act : WakePair → WakePair × Option PairEvent) :
    (s.onPair p act).1 = { s with pairs := s.pairs.modify p.index fun w => (act w).1 } := by
  unfold onPair pair?
  cases hp : s.pairs[p.index]? with
  | none =>
    rw [List.modify_eq_self (List.getElem?_eq_none_iff.mp hp)]
  | some w =>
    have hset : s.pairs.set p.index (act w).1 =
        s.pairs.modify p.index fun w => (act w).1 := by
      refine List.ext_getElem? fun i => ?_
      rw [List.getElem?_modify, List.getElem?_set']
      by_cases hi : p.index = i
      · subst hi; simp [hp]
      · simp [hi]
    simp only [hset]

inductive Called (s : WakeChannels κ) : Contact → WakeChannels κ → Prop
  /-- The thread enters once more. -/
  | again (t : Thread) (canOpen : Bool) (c : Channel) (hc : s.channels.get? t = some c) :
    Called s (.enter t canOpen)
      { s with channels := s.channels.set t { c with depth := c.depth + 1 } }
  /-- The thread enters and gets a channel. -/
  | created (t : Thread) (hc : s.channels.get? t = none) :
    Called s (.enter t true)
      { s with
        pairs := s.pairs ++ [.fresh]
        channels := s.channels.set t ⟨⟨s.pairs.length⟩, 1⟩ }
  /-- The thread enters and gets none. -/
  | refused (t : Thread) (hc : s.channels.get? t = none) : Called s (.enter t false) s
  | rung (t : Thread) (fd : Descriptor) (c : Channel) (closer : κ)
    (hc : s.channels.get? t = some c) :
    Called s (.wake t fd)
      ⟨s.pairs.modify c.pair.index fun w => w.push.1, s.channels, closer⟩
  /-- There is no channel to wake the thread through. -/
  | missed (t : Thread) (fd : Descriptor) (closer : κ) (hc : s.channels.get? t = none) :
    Called s (.wake t fd) ⟨s.pairs, s.channels, closer⟩
  | left (t : Thread) (c : Channel) (hc : s.channels.get? t = some c) (hd : c.depth - 1 ≠ 0) :
    Called s (.leave t)
      ⟨s.pairs.modify c.pair.index fun w => w.pop.1,
        s.channels.set t { c with depth := c.depth - 1 }, s.closer⟩
  /-- The thread leaves for the last time. -/
  | destroyed (t : Thread) (c : Channel) (hc : s.channels.get? t = some c)
    (hd : c.depth - 1 = 0) :
    Called s (.leave t)
      ⟨s.pairs.modify c.pair.index fun w => w.pop.1, s.channels.erase t, s.closer⟩
  /-- There is no channel to leave. -/
  | strayed (t : Thread) (hc : s.channels.get? t = none) : Called s (.leave t) s

lemma called [ForcedClose κ] (s : WakeChannels κ) (c : Contact) : Called s c (c.apply s) := by
  cases c with
  | enter t canOpen =>
    change Called s _ (s.enter t canOpen).1
    unfold enter
    cases hc : s.channels.get? t with
    | some c => exact .again t canOpen c hc
    | none =>
      cases canOpen with
      | true => exact .created t hc
      | false => exact .refused t hc
  | wake t fd =>
    change Called s _ (s.wake t fd).2.1
    unfold wake ring
    cases hc : s.channels.get? t with
    | none => exact .missed t fd _ hc
    | some c =>
      dsimp only
      rw [onPair_fst]
      exact .rung t fd c _ hc
  | leave t =>
    change Called s _ (s.leave t).1
    unfold leave
    cases hc : s.channels.get? t with
    | none => exact .strayed t hc
    | some c =>
      dsimp only
      rw [onPair_fst]
      unfold drop
      split
      · next hd => exact .destroyed t c hc hd
      · next hd => exact .left t c hc hd

lemma pairs_wake_of_some [ForcedClose κ] {t : Thread} {c : Channel} {p : WakePair}
    (hc : s.channels.get? t = some c) (hp : s.pair? c.pair = some p) (fd : Descriptor) :
    (s.wake t fd).2.1.pairs = s.pairs.set c.pair.index p.push.1 := by
  simp only [wake, ring, hc, onPair, hp]

/-! ### What the calls keep -/

lemma in_step_modify (h : s.InOrder) (i : ℕ) {f : WakePair → WakePair}
    (hf : ∀ p : WakePair, p.InStep → (f p).InStep) : ∀ p ∈ s.pairs.modify i f, p.InStep := by
  intro p hp
  obtain ⟨j, hj⟩ := List.mem_iff_getElem?.mp hp
  rw [List.getElem?_modify] at hj
  obtain ⟨q, hq, rfl⟩ := Option.map_eq_some_iff.mp hj
  have hin := h.in_step q (List.mem_of_getElem? hq)
  split
  · exact hf q hin
  · exact hin

lemma in_step_push (p : WakePair) (h : p.InStep) : p.push.1.InStep := .inr h.push

lemma in_step_pop (p : WakePair) (h : p.InStep) : p.pop.1.InStep := .inl h.pop

lemma inOrder_called {c : Contact} {s' : WakeChannels κ} (h : s.InOrder) (hs : Called s c s') :
    s'.InOrder := by
  obtain ⟨hpos, hrange, hapart, hstep⟩ := h
  cases hs with
  | again t canOpen c hc =>
    refine ⟨?_, ?_, ?_, hstep⟩ <;> simp only [ThreadMap.get?_set] <;> grind
  | created t hc =>
    refine ⟨?_, ?_, ?_, ?_⟩ <;>
      simp only [ThreadMap.get?_set, List.length_append, List.length_singleton, List.mem_append,
        List.mem_singleton]
    · grind
    · grind
    · grind
    · rintro p (hp | rfl)
      · exact hstep p hp
      · exact .inl rfl
  | refused t hc => exact ⟨hpos, hrange, hapart, hstep⟩
  | rung t fd c closer hc =>
    exact ⟨hpos, by simpa using hrange, hapart,
      in_step_modify ⟨hpos, hrange, hapart, hstep⟩ _ in_step_push⟩
  | missed t fd closer hc => exact ⟨hpos, hrange, hapart, hstep⟩
  | left t c hc hd =>
    refine ⟨?_, ?_, ?_, in_step_modify ⟨hpos, hrange, hapart, hstep⟩ _ in_step_pop⟩ <;>
      simp only [ThreadMap.get?_set, List.length_modify] <;> grind
  | destroyed t c hc hd =>
    refine ⟨?_, ?_, ?_, in_step_modify ⟨hpos, hrange, hapart, hstep⟩ _ in_step_pop⟩ <;>
      simp only [ThreadMap.get?_erase, List.length_modify] <;> grind
  | strayed t hc => exact ⟨hpos, hrange, hapart, hstep⟩

/-! ### The pair of a thread, call by call -/

/-- What happens to the pair of one channel happens to no other. -/
lemma pairOf?_modify (h : s.InOrder) {t : Thread} {c : Channel}
    (hc : s.channels.get? t = some c) (f : WakePair → WakePair) (closer : κ) (u : Thread) :
    pairOf? ⟨s.pairs.modify c.pair.index f, s.channels, closer⟩ u =
      if u = t then (s.pairOf? u).map f else s.pairOf? u := by
  simp only [pairOf?, pair?]
  cases hd : s.channels.get? u with
  | none => simp
  | some d =>
    rw [Option.bind_some, Option.bind_some, List.getElem?_modify]
    by_cases hu : u = t
    · subst hu
      obtain rfl : d = c := Option.some.inj (hd.symm.trans hc)
      simp
    · have hne : ¬c.pair.index = d.pair.index := fun hi =>
        hu (h.apart u t d c hd hc (PairId.eq_of_index hi.symm))
      simp [hu, hne]

lemma pairOf?_set {t : Thread} {c : Channel} (hc : s.channels.get? t = some c) (d : ℕ)
    (u : Thread) :
    pairOf? { s with channels := s.channels.set t { c with depth := d } } u = s.pairOf? u := by
  simp only [pairOf?, ThreadMap.get?_set]
  by_cases hu : u = t
  · subst hu
    rw [if_pos rfl, hc]
    rfl
  · rw [if_neg hu]
    rfl

lemma pairOf?_erase (t u : Thread) :
    pairOf? { s with channels := s.channels.erase t } u =
      if u = t then none else s.pairOf? u := by
  simp only [pairOf?, ThreadMap.get?_erase]
  by_cases hu : u = t
  · rw [if_pos hu, if_pos hu, Option.bind_none]
  · rw [if_neg hu, if_neg hu]
    rfl

/-- A new channel has a new pair, and the other channels keep theirs. -/
lemma pairOf?_created (h : s.InOrder) (t u : Thread) :
    pairOf?
        { s with
          pairs := s.pairs ++ [.fresh]
          channels := s.channels.set t ⟨⟨s.pairs.length⟩, 1⟩ } u =
      if u = t then some .fresh else s.pairOf? u := by
  simp only [pairOf?, ThreadMap.get?_set]
  by_cases hu : u = t
  · rw [if_pos hu, if_pos hu]
    simp [pair?]
  · rw [if_neg hu, if_neg hu]
    cases hd : s.channels.get? u with
    | none => rfl
    | some d =>
      simp only [Option.bind_some, pair?]
      rw [List.getElem?_append_left (h.in_range u d hd)]

/-! ### The depth of a thread, call by call -/

lemma depth_enter {s' : WakeChannels κ} {u : Thread} {canOpen : Bool} (h : s.InOrder)
    (hs : Called s (.enter u canOpen) s') (t : Thread) :
    s'.depth t =
      s.depth t + if u = t ∧ (0 < s.depth t ∨ canOpen = true) then 1 else 0 := by
  cases hs with
  | again _ _ c hc =>
    by_cases ht : t = u
    · subst ht
      have hpos := h.depth_pos t c hc
      simp [depth, ThreadMap.get?_set, hc, hpos]
    · simp [depth, ThreadMap.get?_set, ht, Ne.symm ht]
  | created _ hc =>
    by_cases ht : t = u
    · subst ht
      simp [depth, ThreadMap.get?_set, hc]
    · simp [depth, ThreadMap.get?_set, ht, Ne.symm ht]
  | refused _ hc =>
    by_cases ht : t = u
    · subst ht
      simp [depth_of_none hc]
    · simp [Ne.symm ht]

lemma depth_wake {s' : WakeChannels κ} {u : Thread} {fd : Descriptor}
    (hs : Called s (.wake u fd) s') (t : Thread) : s'.depth t = s.depth t := by
  cases hs <;> rfl

lemma depth_leave {s' : WakeChannels κ} {u : Thread} (hs : Called s (.leave u) s') (t : Thread) :
    s'.depth t = s.depth t - if u = t then 1 else 0 := by
  cases hs with
  | left _ c hc hd =>
    by_cases ht : t = u
    · subst ht
      simp [depth, ThreadMap.get?_set, hc]
    · simp [depth, ThreadMap.get?_set, ht, Ne.symm ht]
  | destroyed _ c hc hd =>
    by_cases ht : t = u
    · subst ht
      simp [depth, ThreadMap.get?_erase, hc, hd]
    · simp [depth, ThreadMap.get?_erase, ht, Ne.symm ht]
  | strayed _ hc =>
    by_cases ht : t = u
    · subst ht
      simp [depth_of_none hc]
    · simp [Ne.symm ht]

/-! ### A byte under way -/

/-- Either the thread was woken through its channel since it last left, and a byte is under way;
or it was not, and there is no byte. -/
def Told (P : List Contact → Prop) (s : WakeChannels κ) (cs : List Contact) (t : Thread) : Prop :=
  (s.pairOf? t = some .ringing ∧ Contact.Unanswered P t cs) ∨
    (s.pairOf? t = some .fresh ∧ ¬Contact.Unanswered P t cs) ∨
      (s.pairOf? t = none ∧ ¬Contact.Unanswered P t cs)

lemma told_of_iff {P : List Contact → Prop} {s s' : WakeChannels κ} {cs cs' : List Contact}
    {t : Thread} (h : Told P s cs t) (hp : s'.pairOf? t = s.pairOf? t)
    (hu : Contact.Unanswered P t cs' ↔ Contact.Unanswered P t cs) : Told P s' cs' t := by
  rw [Told, hp, hu]
  exact h

lemma Told.in_step {P : List Contact → Prop} {s : WakeChannels κ} {cs : List Contact} {t : Thread}
    (h : Told P s cs t) {p : WakePair} (hp : s.pairOf? t = some p) :
    p.InStep ∧ (p.pushed = true ↔ Contact.Unanswered P t cs) := by
  rcases h with ⟨hs, hu⟩ | ⟨hs, hu⟩ | ⟨hs, -⟩
  · obtain rfl := Option.some.inj (hp.symm.trans hs)
    exact ⟨.inr rfl, by simp [WakePair.ringing, hu]⟩
  · obtain rfl := Option.some.inj (hp.symm.trans hs)
    exact ⟨.inl rfl, by simp [WakePair.fresh, hu]⟩
  · rw [hp] at hs
    simp at hs

lemma told_called {P : List Contact → Prop} {s s' : WakeChannels κ} {cs : List Contact}
    {c : Contact} {t : Thread} (h : s.InOrder) (hP : P cs ↔ (s.pairOf? t).isSome = true)
    (ht : Told P s cs t) (hs : Called s c s') : Told P s' (cs ++ [c]) t := by
  cases hs with
  | again u canOpen c hc =>
    exact told_of_iff ht (pairOf?_set hc _ t) Contact.unanswered_enter
  | created u hc =>
    by_cases htu : t = u
    · -- without a channel the thread was not told anything
      subst htu
      have hnone := pairOf?_of_none hc
      refine .inr (.inl ⟨by rw [pairOf?_created h, if_pos rfl], ?_⟩)
      rw [Contact.unanswered_enter]
      rcases ht with ⟨hp, -⟩ | ⟨hp, -⟩ | ⟨-, hu⟩
      · simp [hp] at hnone
      · simp [hp] at hnone
      · exact hu
    · exact told_of_iff ht (by rw [pairOf?_created h, if_neg htu]) Contact.unanswered_enter
  | refused u hc => exact told_of_iff ht rfl Contact.unanswered_enter
  | rung u fd c closer hc =>
    have hpair := pairOf?_modify h hc (fun w => w.push.1) closer t
    by_cases htu : t = u
    · subst htu
      obtain ⟨p, hp, hin⟩ := h.exists_pair hc
      have hsome : s.pairOf? t = some p := by rw [pairOf?_of_some hc, hp]
      refine .inl ⟨?_, Contact.unanswered_wake.mpr (.inl ⟨rfl, hP.mpr (by rw [hsome]; rfl)⟩)⟩
      rw [hpair, if_pos rfl, hsome, Option.map_some, hin.push]
    · rw [if_neg htu] at hpair
      exact told_of_iff ht hpair (by simp [Contact.unanswered_wake, Ne.symm htu])
  | missed u fd closer hc =>
    refine told_of_iff ht rfl ?_
    rw [Contact.unanswered_wake]
    by_cases htu : u = t
    · subst htu
      rw [pairOf?_of_none hc] at hP
      simp [hP]
    · simp [htu]
  | left u c hc hd =>
    have hpair := pairOf?_modify h hc (fun w => w.pop.1) s.closer t
    rw [← pairOf?_set (s := ⟨s.pairs.modify c.pair.index fun w => w.pop.1, s.channels, s.closer⟩)
      hc (c.depth - 1) t] at hpair
    by_cases htu : t = u
    · -- whatever was in the pair, the leave has taken it out
      subst htu
      obtain ⟨p, hp, hin⟩ := h.exists_pair hc
      refine .inr (.inl ⟨?_, by simp [Contact.unanswered_leave]⟩)
      rw [hpair, if_pos rfl, pairOf?_of_some hc, hp, Option.map_some, hin.pop]
    · rw [if_neg htu] at hpair
      exact told_of_iff ht hpair (by simp [Contact.unanswered_leave, Ne.symm htu])
  | destroyed u c hc hd =>
    have hpair := pairOf?_modify h hc (fun w => w.pop.1) s.closer t
    have herase := pairOf?_erase
      (s := ⟨s.pairs.modify c.pair.index fun w => w.pop.1, s.channels, s.closer⟩) u t
    by_cases htu : t = u
    · subst htu
      exact .inr (.inr ⟨by rw [herase, if_pos rfl], by simp [Contact.unanswered_leave]⟩)
    · rw [if_neg htu] at hpair herase
      exact told_of_iff ht (herase.trans hpair) (by simp [Contact.unanswered_leave, Ne.symm htu])
  | strayed u hc =>
    by_cases htu : t = u
    · subst htu
      exact .inr (.inr ⟨pairOf?_of_none hc, by simp [Contact.unanswered_leave]⟩)
    · exact told_of_iff ht rfl (by simp [Contact.unanswered_leave, Ne.symm htu])

/-! ### Whole runs -/

section

variable [ForcedClose κ] (closer : κ)

/-- What calls `cs` have made of channels that nobody owned. -/
def after (cs : List Contact) : WakeChannels κ := Contact.replay cs (ofCloser closer)

lemma after_snoc (cs : List Contact) (c : Contact) :
    Called (after closer cs) c (after closer (cs ++ [c])) := by
  rw [after, after, Contact.replay_append]
  exact called _ c

lemma inOrder_after (cs : List Contact) : (after closer cs).InOrder := by
  induction cs using List.reverseRecOn with
  | nil => exact inOrder_ofCloser closer
  | append_singleton cs c ih => exact inOrder_called ih (after_snoc closer cs c)

def Owns (t : Thread) (cs : List Contact) : Prop := ((after closer cs).pairOf? t).isSome = true

lemma told_after (cs : List Contact) (t : Thread) :
    Told (Owns closer t) (after closer cs) cs t := by
  induction cs using List.reverseRecOn with
  | nil =>
    refine .inr (.inr ⟨?_, Contact.not_unanswered_nil⟩)
    exact pairOf?_of_none rfl
  | append_singleton cs c ih =>
    exact told_called (inOrder_after closer cs) Iff.rfl ih (after_snoc closer cs c)

/-! ### No pair is ever refused -/

def Unrefused (cs : List Contact) : Prop := ∀ t, Contact.enter t false ∉ cs

/-- As long as no pair is refused, the channel of a thread counts the episodes it is inside. -/
lemma depth_add_left {cs : List Contact} (hu : Unrefused cs) (hb : Contact.Bracketed cs)
    (t : Thread) : (after closer cs).depth t + Contact.left t cs = Contact.entered t cs := by
  induction cs using List.reverseRecOn with
  | nil => rfl
  | append_singleton cs c ih =>
    have ih := ih (fun u hm => hu u (by simp [hm])) hb.of_append
    have hlast := (Contact.bracketed_snoc.mp hb).2
    have hin := inOrder_after closer cs
    have hs := after_snoc closer cs c
    cases c with
    | enter u canOpen =>
      obtain rfl : canOpen = true := by
        cases canOpen with
        | true => rfl
        | false => exact absurd (by simp) (hu u)
      rw [depth_enter hin hs]
      simp
      omega
    | wake u fd =>
      rw [depth_wake hs]
      simpa using ih
    | leave u =>
      rw [depth_leave hs]
      simp only [Contact.Allowed] at hlast
      by_cases hut : u = t
      · subst hut
        simp
        omega
      · simpa [hut] using ih

/-- A thread that is inside owns a channel. -/
lemma exists_channel {cs : List Contact} (hu : Unrefused cs) (hb : Contact.Bracketed cs)
    {t : Thread} (h : Contact.left t cs < Contact.entered t cs) :
    ∃ c p, (after closer cs).channels.get? t = some c ∧ (after closer cs).pair? c.pair = some p := by
  have hd := depth_add_left closer hu hb t
  have hpos : 0 < (after closer cs).depth t := by omega
  obtain ⟨c, hc⟩ := (inOrder_after closer cs).depth_pos_iff.mp hpos
  obtain ⟨p, hp, -⟩ := (inOrder_after closer cs).exists_pair hc
  exact ⟨c, p, hc, hp⟩

lemma unanswered_owns {cs : List Contact} (hu : Unrefused cs) (hb : Contact.Bracketed cs)
    (t : Thread) :
    Contact.Unanswered (Owns closer t) t cs ↔ Contact.Unanswered (fun _ => True) t cs := by
  refine Contact.unanswered_congr fun pre fd post heq => iff_true_intro ?_
  have hpre : Unrefused pre := fun u hm => hu u (by rw [heq]; simp [hm])
  have hbpre : Contact.Bracketed pre := (heq ▸ hb).of_append
  obtain ⟨c, p, hc, hp⟩ := exists_channel closer hpre hbpre (hb pre _ post heq)
  rw [Owns, pairOf?_of_some hc, hp]
  rfl

end

end WakeChannels

end AsyncClose
