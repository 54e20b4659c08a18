import AsyncClose.Proofs.Log.Channels
import AsyncClose.Proofs.Log.Reticence
import AsyncClose.Proofs.Log.Sessions
import AsyncClose.Proofs.Registry.Steps

/-!
Wake channels in trouble.

Descriptors run out, so that pairs cannot be made; what forces descriptors closed fails as it likes;
and outsiders push, pop, drain and shut down pairs that they hold on to, so that bytes get lost and
writes fail. The log keeps telling the state through all of it.
-/

namespace AsyncClose

/-- Wake channels with the trouble that is to come: whether descriptors can be opened, one flag for
every enter, and what outsiders do to pairs, one list of actions for every call. Behind the last
flag it is as the caller says, and behind the last list nothing is done. -/
structure Troubled (κ : Type) where
  channels : WakeChannels κ
  openings : List Bool
  meddling : List (List (PairId × PairAction))

namespace Troubled

variable {κ : Type}

/-- Outsiders do to the pairs what they do before the next call. -/
def meddled (s : Troubled κ) : Troubled κ × List Event :=
  let (c, events) := WakeChannels.meddle (s.meddling.headD []) s.channels
  (⟨c, s.openings, s.meddling.tail⟩, events)

def enter (t : Thread) (canOpen : Bool) (s : Troubled κ) : Troubled κ × List Event :=
  let (s, before) := s.meddled
  let (c, events) := s.channels.enter t (s.openings.headD true && canOpen)
  (⟨c, s.openings.tail, s.meddling⟩, before ++ events)

def wake [ForcedClose κ] (t : Thread) (fd : Descriptor) (s : Troubled κ) :
    Except CallError Unit × Troubled κ × List Event :=
  let (s, before) := s.meddled
  let (r, c, events) := s.channels.wake t fd
  (r, { s with channels := c }, before ++ events)

def leave (t : Thread) (s : Troubled κ) : Troubled κ × List Event :=
  let (s, before) := s.meddled
  let (c, events) := s.channels.leave t
  ({ s with channels := c }, before ++ events)

end Troubled

instance {κ : Type} [ForcedClose κ] : Mechanism (Troubled κ) where
  enter := Troubled.enter
  wake := Troubled.wake
  leave := Troubled.leave
  source? t s := s.channels.source? t

namespace WakeChannels

variable {κ : Type}

lemma ofGuard_meddle {s : WakeChannels κ} {e : Event} (actions : List (PairId × PairAction))
    (he : e ∈ (meddle actions s).2) : e.ofGuard = false := by
  induction actions generalizing s with
  | nil => simp [meddle] at he
  | cons x rest ih =>
    rcases List.mem_append.mp he with he | he
    · have htouch : e ∈ (s.touch x.1 x.2).2 := he
      unfold touch at htouch
      split at htouch
      · simp at htouch
      · obtain ⟨what, -, rfl⟩ := List.mem_map.mp htouch
        rfl
    · exact ih he

end WakeChannels

instance {κ : Type} [ForcedClose κ] : Reticent (Troubled κ) where
  enter t _ _ _ he := (List.mem_append.mp he).elim (WakeChannels.ofGuard_meddle _)
    (WakeChannels.ofGuard_enter t _)
  wake t fd _ _ he := (List.mem_append.mp he).elim (WakeChannels.ofGuard_meddle _)
    (WakeChannels.ofGuard_wake t fd)
  leave t _ _ he := (List.mem_append.mp he).elim (WakeChannels.ofGuard_meddle _)
    (WakeChannels.ofGuard_leave t)

namespace Registry

variable {κ : Type}

def Told (r : Registry (Troubled κ)) : Prop := r.mechanism.channels.Tells r.log

variable {r : Registry (Troubled κ)}

lemma told_ofCapacity (capacity : ℕ) (closer : κ) (openings : List Bool)
    (meddling : List (List (PairId × PairAction))) :
    (ofCapacity capacity (Troubled.mk (.ofCloser closer) openings meddling)).Told :=
  WakeChannels.tells_ofCloser closer

lemma Told.meddled (h : r.Told) :
    r.mechanism.meddled.1.channels.Tells (r.log ++ r.mechanism.meddled.2) :=
  WakeChannels.Tells.meddle h _

variable [ForcedClose κ]

lemma Told.enter (h : r.Told) (t : Thread) (canOpen : Bool) : (r.enter t canOpen).Told := by
  have hentered := h.meddled.enter t (r.mechanism.meddled.1.openings.headD true && canOpen)
  rwa [List.append_assoc] at hentered

lemma Told.leave (h : r.Told) (t : Thread) : (r.leave t).Told := by
  have hleft := h.meddled.leave t
  rwa [List.append_assoc] at hleft

lemma Told.interrupt (h : r.Told) (t : Thread) (fd : Descriptor) :
    (r.interrupt t fd).2.Told := by
  have hwoken := h.meddled.wake t fd
  rwa [List.append_assoc] at hwoken

lemma Told.acquire (h : r.Told) (t : Thread) (fd : Descriptor) (canOpen : Bool) :
    (r.acquire t fd canOpen).2.Told :=
  (h.enter t canOpen).note (fun _ => rfl) fun _ => rfl

lemma Told.release (h : r.Told) (g : Guard) : (r.release g).Told := by
  have hgone : (r.unregister g.id).2.Told := WakeChannels.Tells.note h (fun _ => rfl) fun _ => rfl
  exact hgone.leave g.thread

lemma Told.wakeEntry (h : r.Told) (fd : Descriptor) (i : ℕ) (id : GuardId) (t : Thread) :
    (r.wakeEntry fd i id t).Told := by
  have hmarked : Told ({ r with slab := r.slab.mark i }.note [.waking fd id t]) :=
    WakeChannels.Tells.note h (fun _ => rfl) fun _ => rfl
  have hwoken := hmarked.interrupt t fd
  unfold Registry.wakeEntry
  dsimp only
  generalize Registry.interrupt t fd ({ r with slab := r.slab.mark i }.note [.waking fd id t]) = x
    at hwoken
  obtain ⟨_ | _, q⟩ := x
  · exact WakeChannels.Tells.note hwoken (fun _ => rfl) fun _ => rfl
  · exact hwoken

lemma Told.wakeBlocked (h : r.Told) (fd : Descriptor) : (r.wakeBlocked fd).2.Told := by
  have hscan : ∀ (is : List ℕ) (s : ℕ × Registry (Troubled κ)), s.2.Told →
      (is.foldl (scanSlot fd) s).2.Told := by
    intro is
    induction is with
    | nil => exact fun _ hs => hs
    | cons i is ih =>
      intro s hs
      refine ih _ ?_
      unfold scanSlot
      split
      · split
        · exact hs.wakeEntry fd i _ _
        · exact hs
      · exact hs
  exact hscan _ _ h

lemma Told.settle {α : Type} (h : r.Told) (g : Guard) (e : Ending α) : (r.settle g e).2.Told := by
  unfold Registry.settle
  cases e.verdict (r.signaled g.id) with
  | retry =>
    have hnoted : (r.note [.retrying g.fd]).Told :=
      WakeChannels.Tells.note h (fun _ => rfl) fun _ => rfl
    exact hnoted.release g
  | finished e => exact h.release g

end Registry

namespace Roster

variable {κ : Type} [ForcedClose κ]

/-- No step of a session makes the log lose track of the channels. -/
lemma kept_told (α : Type) :
    Kept α (fun _ (w : Roster (Troubled κ)) => w.registry.Told) fun _ => True where
  perform {_ w} h c _ := by
    cases c with
    | acquire t fd canOpen => exact h.acquire t fd canOpen
    | release n =>
      simp only [perform]
      split
      · exact h.release _
      · exact h
    | forget n =>
      simp only [perform]
      split <;> exact h
    | wake fd => exact h.wakeBlocked fd
  begun h t fd _ := h.acquire t fd true
  settled h e := h.settle _ e

end Roster

end AsyncClose
