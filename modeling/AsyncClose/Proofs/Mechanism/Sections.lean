import AsyncClose.Proofs.Mechanism.Ownership

/-!
Calls on wake channels, section by section.

A call looks a channel up, lets go of the channels, and may come back to them: an enter makes its
pair in between, a leave takes the wake byte back. So a call has up to three sections, and sections
of other calls may come between any two of them. Sections taken in a row are the call.
-/

namespace AsyncClose

def Contact.thread : Contact → Thread
  | enter t _ => t
  | wake t _ => t
  | leave t => t

/-- What can be asked of wake channels directly: any of the calls that guards and wakes make, or
what a thread can wait on. -/
inductive Demand
  | call (c : Contact)
  | source (t : Thread)
  deriving DecidableEq

inductive Outcome
  | nothing
  | woken (result : Except CallError Unit)
  | source (p : Option PairId)

inductive Section
  | first
  /-- An enter that found no channel makes a pair, -/
  | make
  /-- and then a channel of it. -/
  | place (p : PairId)
  /-- A wake that found a channel sends a byte down its pair. -/
  | push (p : PairId)
  | close
  /-- A leave that found a channel takes the byte back, -/
  | pop (p : PairId)
  /-- and then looks for the channel once more, to count an episode less. -/
  | drop
  | done (o : Outcome)

namespace Section

/-- The pair that was looked up or made in an earlier section. -/
def pair? : Section → Option PairId
  | place p => some p
  | push p => some p
  | pop p => some p
  | _ => none

def isDone : Section → Bool
  | done _ => true
  | _ => false

end Section

namespace Demand

variable {κ : Type}

def thread : Demand → Thread
  | call c => c.thread
  | source t => t

section

variable [ForcedClose κ]

def perform : Demand → WakeChannels κ → Outcome × WakeChannels κ × List Event
  | call (.enter t canOpen), s => (.nothing, s.enter t canOpen)
  | call (.wake t fd), s =>
    let (r, s, events) := s.wake t fd
    (.woken r, s, events)
  | call (.leave t), s => (.nothing, s.leave t)
  | source t, s => (.source (s.source? t), s, [])

/-- Goes through one section, and says which is next. -/
def advance : Demand → Section → WakeChannels κ → Section × WakeChannels κ × List Event
  | call (.enter t _), .first, s =>
    match s.channels.get? t with
    | some c =>
      (.done .nothing, { s with channels := s.channels.set t { c with depth := c.depth + 1 } }, [])
    | none => (.make, s, [])
  | call (.enter t canOpen), .make, s =>
    match WakePair.create canOpen with
    | .ok w =>
      let p : PairId := ⟨s.pairs.length⟩
      (.place p, { s with pairs := s.pairs ++ [w] }, [.channelCreated t p])
    | .error e => (.done .nothing, s, [.channelRefused t (.os e)])
  | call (.enter t _), .place p, s =>
    (.done .nothing, { s with channels := s.channels.set t ⟨p, 1⟩ }, [])
  | call (.wake t _), .first, s =>
    match s.channels.get? t with
    | some c => (.push c.pair, s, [])
    | none => (.close, s, [])
  | call (.wake _ _), .push p, s =>
    let (s, events) := s.onPair p WakePair.push
    (.close, s, events)
  | call (.wake t fd), .close, s =>
    let (r, closer) := ForcedClose.close t fd s.closer
    (.done (.woken r), { s with closer := closer }, [])
  | call (.leave t), .first, s =>
    match s.channels.get? t with
    | some c => (.pop c.pair, s, [])
    | none => (.done .nothing, s, [])
  | call (.leave _), .pop p, s =>
    let (s, events) := s.onPair p WakePair.pop
    (.drop, s, events)
  | call (.leave t), .drop, s =>
    match s.channels.get? t with
    | some c =>
      let (s, events) := s.drop t c
      (.done .nothing, s, events)
    | none => (.done .nothing, s, [])
  | source t, .first, s => (.done (.source (s.source? t)), s, [])
  | _, x, s => (x, s, [])

/-- Whatever is asked is done after three sections, and in a row these are all there is to it. -/
theorem advance_advance_advance (d : Demand) (s : WakeChannels κ) :
    (let (x, s, first) := d.advance .first s
     let (x, s, second) := d.advance x s
     let (x, s, third) := d.advance x s
     (x, s, first ++ second ++ third)) =
      (.done (d.perform s).1, (d.perform s).2.1, (d.perform s).2.2) := by
  cases d with
  | call c =>
    cases c with
    | enter t canOpen =>
      simp only [advance, perform, WakeChannels.enter]
      cases hc : s.channels.get? t with
      | some c => rfl
      | none => cases canOpen <;> rfl
    | wake t fd =>
      simp only [advance, perform, WakeChannels.wake, WakeChannels.ring]
      cases hc : s.channels.get? t with
      | some c => simp
      | none => rfl
    | leave t =>
      simp only [advance, perform, WakeChannels.leave]
      cases hc : s.channels.get? t with
      | some c =>
        -- taking the byte back has left the channel where it was
        have hkept : (s.onPair c.pair WakePair.pop).1.channels.get? t = some c := by
          rw [WakeChannels.onPair_fst, hc]
        simp [hkept]
      | none => rfl
  | source t => rfl

end

/-! ### Everything a section can do -/

/-- What a section makes of the channels, and the section that is next. -/
inductive Advanced (s : WakeChannels κ) : Demand → Section → Section → WakeChannels κ → Prop
  /-- It is done already. -/
  | idle (d : Demand) (x : Section) : Advanced s d x x s
  | again (t : Thread) (canOpen : Bool) (c : Channel) (hc : s.channels.get? t = some c) :
    Advanced s (call (.enter t canOpen)) .first (.done .nothing)
      { s with channels := s.channels.set t { c with depth := c.depth + 1 } }
  | missing (t : Thread) (canOpen : Bool) (hc : s.channels.get? t = none) :
    Advanced s (call (.enter t canOpen)) .first .make s
  | made (t : Thread) :
    Advanced s (call (.enter t true)) .make (.place ⟨s.pairs.length⟩)
      { s with pairs := s.pairs ++ [.fresh] }
  | refused (t : Thread) : Advanced s (call (.enter t false)) .make (.done .nothing) s
  | placed (t : Thread) (canOpen : Bool) (p : PairId) :
    Advanced s (call (.enter t canOpen)) (.place p) (.done .nothing)
      { s with channels := s.channels.set t ⟨p, 1⟩ }
  | reached (t : Thread) (fd : Descriptor) (c : Channel) (hc : s.channels.get? t = some c) :
    Advanced s (call (.wake t fd)) .first (.push c.pair) s
  | missed (t : Thread) (fd : Descriptor) (hc : s.channels.get? t = none) :
    Advanced s (call (.wake t fd)) .first .close s
  | rung (t : Thread) (fd : Descriptor) (p : PairId) :
    Advanced s (call (.wake t fd)) (.push p) .close
      { s with pairs := s.pairs.modify p.index fun w => w.push.1 }
  | closed (t : Thread) (fd : Descriptor) (r : Except CallError Unit) (closer : κ) :
    Advanced s (call (.wake t fd)) .close (.done (.woken r)) { s with closer := closer }
  | found (t : Thread) (c : Channel) (hc : s.channels.get? t = some c) :
    Advanced s (call (.leave t)) .first (.pop c.pair) s
  | strayed (t : Thread) (hc : s.channels.get? t = none) :
    Advanced s (call (.leave t)) .first (.done .nothing) s
  | taken (t : Thread) (p : PairId) :
    Advanced s (call (.leave t)) (.pop p) .drop
      { s with pairs := s.pairs.modify p.index fun w => w.pop.1 }
  | left (t : Thread) (c : Channel) (hc : s.channels.get? t = some c) (hd : c.depth - 1 ≠ 0) :
    Advanced s (call (.leave t)) .drop (.done .nothing)
      { s with channels := s.channels.set t { c with depth := c.depth - 1 } }
  | destroyed (t : Thread) (c : Channel) (hc : s.channels.get? t = some c)
    (hd : c.depth - 1 = 0) :
    Advanced s (call (.leave t)) .drop (.done .nothing)
      { s with channels := s.channels.erase t }
  /-- The channel is gone by the time the leave comes back to it. -/
  | late (t : Thread) (hc : s.channels.get? t = none) :
    Advanced s (call (.leave t)) .drop (.done .nothing) s
  | told (t : Thread) : Advanced s (source t) .first (.done (.source (s.source? t))) s

lemma advanced [ForcedClose κ] (d : Demand) (x : Section) (s : WakeChannels κ) :
    Advanced s d x (d.advance x s).1 (d.advance x s).2.1 := by
  unfold advance
  split
  · next t canOpen =>
    cases hc : s.channels.get? t with
    | some c => exact .again t canOpen c hc
    | none => exact .missing t canOpen hc
  · next t canOpen =>
    cases canOpen with
    | true => exact .made t
    | false => exact .refused t
  · next t canOpen p => exact .placed t canOpen p
  · next t fd =>
    cases hc : s.channels.get? t with
    | some c => exact .reached t fd c hc
    | none => exact .missed t fd hc
  · next t fd p =>
    dsimp only
    rw [WakeChannels.onPair_fst]
    exact .rung t fd p
  · next t fd => exact .closed t fd _ _
  · next t =>
    cases hc : s.channels.get? t with
    | some c => exact .found t c hc
    | none => exact .strayed t hc
  · next t p =>
    dsimp only
    rw [WakeChannels.onPair_fst]
    exact .taken t p
  · next t =>
    cases hc : s.channels.get? t with
    | some c =>
      simp only [WakeChannels.drop]
      split
      · next hd => exact .destroyed t c hc hd
      · next hd => exact .left t c hc hd
    | none => exact .late t hc
  · next t => exact .told t
  · exact .idle d x

variable {s s' : WakeChannels κ} {d : Demand} {x y : Section}

/-- No channel comes to count no episode. -/
lemma depth_pos_advanced (h : Advanced s d x y s')
    (hpos : ∀ t c, s.channels.get? t = some c → 0 < c.depth) :
    ∀ t c, s'.channels.get? t = some c → 0 < c.depth := by
  cases h with
  | again t canOpen c hc => simp only [ThreadMap.get?_set]; grind
  | placed t canOpen p => simp only [ThreadMap.get?_set]; grind
  | left t c hc hd => simp only [ThreadMap.get?_set]; grind
  | destroyed t c hc hd => simp only [ThreadMap.get?_erase]; grind
  | _ => exact hpos

/-! ### Threads that are not named -/

lemma get?_advanced_of_ne (h : Advanced s d x y s') {t : Thread} (ht : t ≠ d.thread) :
    s'.channels.get? t = s.channels.get? t := by
  cases h with
  | again u canOpen c hc => exact (ThreadMap.get?_set _ _ _ _).trans (if_neg ht)
  | placed u canOpen p => exact (ThreadMap.get?_set _ _ _ _).trans (if_neg ht)
  | left u c hc hd => exact (ThreadMap.get?_set _ _ _ _).trans (if_neg ht)
  | destroyed u c hc hd => exact (ThreadMap.get?_erase _ _ _).trans (if_neg ht)
  | _ => rfl

/-- A section does nothing to a pair but the one it goes by. -/
lemma getElem?_pairs_advanced (h : Advanced s d x y s') {j : ℕ} (hj : j < s.pairs.length)
    (hx : ∀ p, x.pair? = some p → p.index ≠ j) : s'.pairs[j]? = s.pairs[j]? := by
  cases h with
  | made t => exact List.getElem?_append_left hj
  | rung t fd p => exact List.getElem?_modify_ne _ _ (hx p rfl)
  | taken t p => exact List.getElem?_modify_ne _ _ (hx p rfl)
  | _ => rfl

/-! ### Who goes by which pair -/

/-- The pair is that of the thread's channel, or the demand is about the thread and goes by it. -/
def Held (s : WakeChannels κ) (d : Demand) (x : Section) (t : Thread) (p : PairId) : Prop :=
  (∃ c, s.channels.get? t = some c ∧ c.pair = p) ∨ (d.thread = t ∧ x.pair? = some p)

lemma length_pairs_advanced (h : Advanced s d x y s') : s.pairs.length ≤ s'.pairs.length := by
  cases h with
  | made t => simp
  | rung t fd p => simp
  | taken t p => simp
  | _ => exact le_rfl

/-- A thread comes by a pair only when it is made. -/
lemma held_advanced (h : Advanced s d x y s') {t : Thread} {p : PairId} (hp : Held s' d y t p) :
    Held s d x t p ∨
      (d.thread = t ∧ p.index = s.pairs.length ∧ s.pairs.length < s'.pairs.length) := by
  rcases hp with ⟨c', hc', rfl⟩ | ⟨rfl, hp⟩
  · -- a channel keeps its pair, and gets one that its thread went by before
    left
    by_cases ht : t = d.thread
    · cases h with
      | again u canOpen c hc =>
        obtain rfl : t = u := ht
        rw [ThreadMap.get?_set, if_pos rfl] at hc'
        exact .inl ⟨c, hc, by rw [← Option.some.inj hc']⟩
      | placed u canOpen p =>
        obtain rfl : t = u := ht
        rw [ThreadMap.get?_set, if_pos rfl] at hc'
        exact .inr ⟨rfl, by rw [← Option.some.inj hc']; rfl⟩
      | left u c hc hd =>
        obtain rfl : t = u := ht
        rw [ThreadMap.get?_set, if_pos rfl] at hc'
        exact .inl ⟨c, hc, by rw [← Option.some.inj hc']⟩
      | destroyed u c hc hd =>
        obtain rfl : t = u := ht
        rw [ThreadMap.get?_erase, if_pos rfl] at hc'
        simp at hc'
      | _ => exact .inl ⟨c', hc', rfl⟩
    · rw [get?_advanced_of_ne h ht] at hc'
      exact .inl ⟨c', hc', rfl⟩
  · cases h with
    | idle => exact .inl (.inr ⟨rfl, hp⟩)
    | made u =>
      obtain rfl := Option.some.inj hp
      exact .inr ⟨rfl, rfl, by simp⟩
    | reached u fd c hc => exact .inl (.inl ⟨c, hc, Option.some.inj hp⟩)
    | found u c hc => exact .inl (.inl ⟨c, hc, Option.some.inj hp⟩)
    | _ => simp [Section.pair?] at hp

end Demand

/-! ### How deep a thread is -/

namespace WakeChannels

variable {κ : Type}

lemma depth_set (s : WakeChannels κ) (t u : Thread) (c : Channel) :
    depth { s with channels := s.channels.set t c } u = if u = t then c.depth else s.depth u := by
  simp only [depth, ThreadMap.get?_set]
  split <;> rfl

lemma depth_erase (s : WakeChannels κ) (t u : Thread) :
    depth { s with channels := s.channels.erase t } u = if u = t then 0 else s.depth u := by
  simp only [depth, ThreadMap.get?_erase]
  split <;> rfl

end WakeChannels

namespace Demand

variable {κ : Type} {s s' : WakeChannels κ} {d : Demand} {x y : Section}

/-- The thread of an enter that found no channel and is not through yet. -/
def entering? : Demand → Section → Option Thread
  | call (.enter t _), .make => some t
  | call (.enter t _), .place _ => some t
  | _, _ => none

lemma entering?_first (d : Demand) : d.entering? .first = none := by
  cases d with
  | call c => cases c <;> rfl
  | source t => rfl

lemma entering?_of_isDone (hx : x.isDone) : d.entering? x = none := by
  unfold entering?
  split
  · simp [Section.isDone] at hx
  · simp [Section.isDone] at hx
  · rfl

/-- An enter that is under way has found no channel. -/
lemma entering?_advanced (h : Advanced s d x y s') {t : Thread} (hy : d.entering? y = some t) :
    d.entering? x = some t ∨ s'.channels.get? t = none := by
  cases h with
  | idle => exact .inl hy
  | missing u canOpen hc =>
    obtain rfl := Option.some.inj hy
    exact .inr hc
  | made u => exact .inl hy
  | _ => simp [entering?] at hy

/-- A thread that had no channel gets one only by such an enter, which is through then. -/
lemma exists_channel_advanced (h : Advanced s d x y s') {t : Thread}
    (hs : s.channels.get? t = none) (hs' : s'.channels.get? t ≠ none) :
    d.entering? x = some t ∧ d.entering? y = none := by
  cases h with
  | again u canOpen c hc => rw [ThreadMap.get?_set] at hs'; grind
  | placed u canOpen p => rw [ThreadMap.get?_set] at hs'; grind [entering?]
  | left u c hc hd => rw [ThreadMap.get?_set] at hs'; grind
  | destroyed u c hc hd => rw [ThreadMap.get?_erase] at hs'; grind
  | _ => exact absurd hs hs'

/-- How many episodes a thread has once this is done, after `n` before it. -/
def count (t : Thread) (n : ℕ) : Demand → ℕ
  | call (.enter u _) => if u = t then n + 1 else n
  | call (.leave u) => if u = t then n - 1 else n
  | _ => n

/-- The demand comes to its end between the two sections. -/
def ended (d : Demand) (x y : Section) : List Demand :=
  if !x.isDone && y.isDone then [d] else []

lemma isDone_advanced (h : Advanced s d x y s') (hx : x.isDone) : y.isDone := by
  cases h with
  | idle => exact hx
  | _ => simp [Section.isDone] at hx

lemma ended_append (d : Demand) {x y z : Section} (hxy : x.isDone → y.isDone)
    (hyz : y.isDone → z.isDone) : d.ended x y ++ d.ended y z = d.ended x z := by
  unfold ended
  cases hx : x.isDone <;> cases hy : y.isDone <;> cases hz : z.isDone <;> simp_all

/-- The depth of a thread changes when an enter or leave of it comes to its end, as long as every
pair can be made and an enter that is through finds the thread without a channel still. -/
lemma depth_advanced (h : Advanced s d x y s')
    (hopen : ∀ u, d = call (.enter u false) → x ≠ .make)
    (hvacant : ∀ u, d.entering? x = some u → s.channels.get? u = none) (t : Thread) :
    s'.depth t = (d.ended x y).foldl (count t) (s.depth t) := by
  cases h with
  | idle => cases hx : x.isDone <;> simp [ended, hx]
  | again u canOpen c hc =>
    change _ = if u = t then s.depth t + 1 else s.depth t
    have hdepth := WakeChannels.depth_of_some hc
    rw [WakeChannels.depth_set]
    grind
  | refused u => exact absurd rfl (hopen u rfl)
  | placed u canOpen p =>
    change _ = if u = t then s.depth t + 1 else s.depth t
    have hdepth := WakeChannels.depth_of_none (hvacant u rfl)
    rw [WakeChannels.depth_set]
    grind
  | strayed u hc =>
    change _ = if u = t then s.depth t - 1 else s.depth t
    have hdepth := WakeChannels.depth_of_none hc
    grind
  | left u c hc hd =>
    change _ = if u = t then s.depth t - 1 else s.depth t
    have hdepth := WakeChannels.depth_of_some hc
    rw [WakeChannels.depth_set]
    grind
  | destroyed u c hc hd =>
    change _ = if u = t then s.depth t - 1 else s.depth t
    have hdepth := WakeChannels.depth_of_some hc
    rw [WakeChannels.depth_erase]
    grind
  | late u hc =>
    change _ = if u = t then s.depth t - 1 else s.depth t
    have hdepth := WakeChannels.depth_of_none hc
    grind
  | _ => rfl

end Demand

end AsyncClose
