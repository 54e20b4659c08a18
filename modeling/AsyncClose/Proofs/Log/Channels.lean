import AsyncClose.Proofs.Log.Account
import AsyncClose.Proofs.Mechanism.Channels
import AsyncClose.WakePair

/-!
What the log tells of wake channels.

A pair reports a push exactly when its flag goes up and a pop exactly when it goes down, however
the write and the read end and whatever outsiders do to the stream. A thread is reported to come
into a channel, and to lose it, exactly when it does. So the state can be read off the log, as long
as nobody touches channels and pairs without reporting it.
-/

namespace AsyncClose

namespace WakePair

lemma flips_push (p : WakePair) :
    Alternates p.pushed (p.push.2.toList.filterMap PairEvent.flip?) p.push.1.pushed := by
  obtain ⟨_ | _, queued, _ | _⟩ := p <;>
    simp [push, write, Alternates, PairEvent.flip?, List.filterMap_cons]

lemma flips_pop (p : WakePair) :
    Alternates p.pushed (p.pop.2.toList.filterMap PairEvent.flip?) p.pop.1.pushed := by
  obtain ⟨_ | _, _ | queued, _ | _⟩ := p <;>
    simp [pop, read, Alternates, PairEvent.flip?, List.filterMap_cons]

lemma flips_pushes (p : WakePair) (n : ℕ) :
    Alternates p.pushed ((p.pushes n).2.filterMap PairEvent.flip?) (p.pushes n).1.pushed := by
  induction n generalizing p with
  | zero => exact .nil _
  | succ n ih =>
    simp only [pushes, List.filterMap_append]
    exact p.flips_push.append (ih _)

/-- Whatever is done to a pair, by its users or by outsiders, its flag follows its events. -/
lemma flips_perform (p : WakePair) (a : PairAction) :
    Alternates p.pushed ((p.perform a).2.2.filterMap PairEvent.flip?)
      (p.perform a).2.1.pushed := by
  cases a with
  | push n => exact p.flips_pushes n
  | pop => exact p.flips_pop
  | readable => exact .nil _
  | drain =>
    obtain ⟨pushed, _ | queued, _ | _⟩ := p <;> exact .nil pushed
  | shutdown => exact .nil _

end WakePair

namespace WakeChannels

variable {κ : Type}

/-- The log tells who owns a channel and which pairs are pushed, and how that came about. -/
structure Tells (log : List Event) (s : WakeChannels κ) : Prop where
  owner : ∀ t, Alternates false (turns t log) (s.channels.get? t).isSome
  pair : ∀ p, Alternates false (flips p log) ((s.pair? p).any (·.pushed))

variable {log : List Event} {s : WakeChannels κ}

lemma tells_ofCloser (closer : κ) : Tells [] (ofCloser closer) :=
  ⟨fun _ => rfl, fun _ => rfl⟩

/-- Events about guards tell nothing of channels. -/
lemma Tells.note (h : Tells log s) {events : List Event} (ht : ∀ t, turns t events = [])
    (hp : ∀ p, flips p events = []) : Tells (log ++ events) s := by
  refine ⟨fun t => ?_, fun p => ?_⟩
  · rw [turns_append, ht, List.append_nil]; exact h.owner t
  · rw [flips_append, hp, List.append_nil]; exact h.pair p

/-! ### Changes to a pair -/

lemma turns_wakeByte (t : Thread) (p : PairId) (whats : List PairEvent) :
    turns t (whats.map (.wakeByte p)) = [] := by
  rw [turns, List.filterMap_map]
  exact List.filterMap_eq_nil_iff.mpr fun _ _ => rfl

lemma flips_wakeByte (q p : PairId) (whats : List PairEvent) :
    flips q (whats.map (.wakeByte p)) =
      if p = q then whats.filterMap PairEvent.flip? else [] := by
  rw [flips, List.filterMap_map]
  split
  · next hp => exact List.filterMap_congr fun _ _ => if_pos hp
  · next hp => exact List.filterMap_eq_nil_iff.mpr fun _ _ => if_neg hp

/-- A pair whose flag follows its events is replaced. -/
lemma Tells.set (h : Tells log s) {p : PairId} {w w' : WakePair} {whats : List PairEvent}
    (hw : s.pair? p = some w)
    (hflips : Alternates w.pushed (whats.filterMap PairEvent.flip?) w'.pushed) :
    Tells (log ++ whats.map (.wakeByte p)) { s with pairs := s.pairs.set p.index w' } := by
  refine ⟨fun t => ?_, fun q => ?_⟩
  · rw [turns_append, turns_wakeByte, List.append_nil]
    exact h.owner t
  · rw [flips_append, flips_wakeByte]
    have hq := h.pair q
    by_cases hpq : p = q
    · subst hpq
      have hlt := (List.getElem?_eq_some_iff.mp hw).1
      rw [hw, Option.any_some] at hq
      rw [if_pos rfl, pair?, List.getElem?_set_self hlt, Option.any_some]
      exact hq.append hflips
    · have hindex : p.index ≠ q.index := fun hi => hpq (PairId.eq_of_index hi)
      rw [if_neg hpq, List.append_nil, pair?, List.getElem?_set_ne hindex]
      exact hq

lemma Tells.onPair (h : Tells log s) (p : PairId) {act : WakePair → WakePair × Option PairEvent}
    (hact : ∀ w : WakePair,
      Alternates w.pushed ((act w).2.toList.filterMap PairEvent.flip?) (act w).1.pushed) :
    Tells (log ++ (s.onPair p act).2) (s.onPair p act).1 := by
  unfold WakeChannels.onPair
  cases hw : s.pair? p with
  | none => simpa using h
  | some w =>
    have hlist : ((act w).2.map (Event.wakeByte p)).toList =
        (act w).2.toList.map (.wakeByte p) := by
      cases (act w).2 <;> rfl
    simp only [hlist]
    exact h.set hw (hact w)

/-- Somebody acts on a pair, be it a user or an outsider. -/
def touch (p : PairId) (a : PairAction) (s : WakeChannels κ) : WakeChannels κ × List Event :=
  match s.pair? p with
  | none => (s, [])
  | some w =>
    let (_, w, whats) := w.perform a
    ({ s with pairs := s.pairs.set p.index w }, whats.map (.wakeByte p))

def meddle : List (PairId × PairAction) → WakeChannels κ → WakeChannels κ × List Event
  | [], s => (s, [])
  | (p, a) :: rest, s =>
    let (s, first) := s.touch p a
    let (s, later) := meddle rest s
    (s, first ++ later)

lemma Tells.touch (h : Tells log s) (p : PairId) (a : PairAction) :
    Tells (log ++ (s.touch p a).2) (s.touch p a).1 := by
  unfold WakeChannels.touch
  cases hw : s.pair? p with
  | none => simpa using h
  | some w => exact h.set hw (w.flips_perform a)

lemma Tells.meddle (h : Tells log s) (actions : List (PairId × PairAction)) :
    Tells (log ++ (meddle actions s).2) (meddle actions s).1 := by
  induction actions generalizing log s with
  | nil => simpa [WakeChannels.meddle] using h
  | cons x rest ih =>
    have hrest := ih (h.touch x.1 x.2)
    rwa [List.append_assoc] at hrest

/-! ### The calls on the mechanism -/

/-- A thread that owns a channel keeps it. -/
lemma Tells.set_channel (h : Tells log s) {t : Thread} {c : Channel}
    (hc : s.channels.get? t = some c) (d : Channel) :
    Tells log { s with channels := s.channels.set t d } := by
  refine ⟨fun u => ?_, h.pair⟩
  have hu := h.owner u
  rw [ThreadMap.get?_set]
  split
  · next heq =>
    subst heq
    rwa [hc] at hu
  · exact hu

/-- A thread without a channel gets one, with a pair of its own. -/
lemma Tells.create (h : Tells log s) {t : Thread} (hc : s.channels.get? t = none) :
    Tells (log ++ [.channelCreated t ⟨s.pairs.length⟩])
      { s with
        pairs := s.pairs ++ [.fresh]
        channels := s.channels.set t ⟨⟨s.pairs.length⟩, 1⟩ } := by
  refine ⟨fun u => ?_, fun q => ?_⟩
  · have hu := h.owner u
    rw [turns_append, ThreadMap.get?_set]
    by_cases htu : u = t
    · subst htu
      rw [hc] at hu
      rw [if_pos rfl]
      exact hu.append (by simp [turns, Event.turn?, Alternates])
    · rw [if_neg htu]
      exact hu.append (by simp [turns, Event.turn?, Ne.symm htu, Alternates])
  · -- a pair that was not made yet counts as not pushed
    have hsame : ((s.pairs ++ [WakePair.fresh])[q.index]?).any (·.pushed) =
        (s.pair? q).any (·.pushed) := by
      rw [pair?]
      rcases lt_trichotomy q.index s.pairs.length with hlt | heq | hgt
      · rw [List.getElem?_append_left hlt]
      · simp [heq, WakePair.fresh]
      · rw [List.getElem?_eq_none hgt.le, List.getElem?_eq_none (by simpa using hgt)]
    rw [flips_append, pair?, hsame]
    exact (h.pair q).append (.nil _)

/-- A thread that owns a channel loses it. -/
lemma Tells.destroy (h : Tells log s) {t : Thread} (hc : (s.channels.get? t).isSome = true) :
    Tells (log ++ [.channelDestroyed t]) { s with channels := s.channels.erase t } := by
  refine ⟨fun u => ?_, fun q => ?_⟩
  · have hu := h.owner u
    rw [turns_append, ThreadMap.get?_erase]
    by_cases htu : u = t
    · subst htu
      rw [hc] at hu
      rw [if_pos rfl]
      exact hu.append (by simp [turns, Event.turn?, Alternates])
    · rw [if_neg htu]
      exact hu.append (by simp [turns, Event.turn?, Ne.symm htu, Alternates])
  · rw [flips_append]
    exact (h.pair q).append (.nil _)

lemma Tells.enter (h : Tells log s) (t : Thread) (canOpen : Bool) :
    Tells (log ++ (s.enter t canOpen).2) (s.enter t canOpen).1 := by
  unfold WakeChannels.enter
  cases hc : s.channels.get? t with
  | some c => simpa using h.set_channel hc _
  | none =>
    cases canOpen with
    | false => exact h.note (fun _ => rfl) fun _ => rfl
    | true => exact h.create hc

lemma Tells.wake [ForcedClose κ] (h : Tells log s) (t : Thread) (fd : Descriptor) :
    Tells (log ++ (s.wake t fd).2.2) (s.wake t fd).2.1 := by
  have hring : Tells (log ++ (s.ring t).2) (s.ring t).1 := by
    unfold ring
    cases hc : s.channels.get? t with
    | none => simpa using h
    | some c => exact h.onPair c.pair WakePair.flips_push
  exact ⟨hring.owner, hring.pair⟩

lemma Tells.leave (h : Tells log s) (t : Thread) :
    Tells (log ++ (s.leave t).2) (s.leave t).1 := by
  unfold WakeChannels.leave
  cases hc : s.channels.get? t with
  | none => simpa using h
  | some c =>
    have hpopped := h.onPair c.pair WakePair.flips_pop
    have hc' : (s.onPair c.pair WakePair.pop).1.channels.get? t = some c := by
      rw [onPair_fst]; exact hc
    rw [← List.append_assoc]
    dsimp only [drop]
    split
    · exact hpopped.destroy (by rw [hc']; rfl)
    · simpa using hpopped.set_channel hc' { c with depth := c.depth - 1 }

end WakeChannels

end AsyncClose
