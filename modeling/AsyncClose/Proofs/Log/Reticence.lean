import Mathlib
import AsyncClose.Mechanism.Recorder
import AsyncClose.Mechanism.Signal
import AsyncClose.Mechanism.WakeChannel

/-!
Mechanisms say nothing of guards.

That a thread is registered, unregistered or about to be woken is for the registry to report. The
mechanisms report what they do themselves, and some of them nothing at all.
-/

namespace AsyncClose

/-- The event tells of an entry that came, went or was marked. -/
def Event.ofGuard : Event → Bool
  | registered _ _ _ | unregistered _ _ | waking _ _ _ => true
  | _ => false

/-- A mechanism that leaves it to the registry to tell of guards. -/
class Reticent (σ : Type) [Mechanism σ] : Prop where
  enter : ∀ t canOpen (s : σ), ∀ e ∈ (Mechanism.enter t canOpen s).2, e.ofGuard = false
  wake : ∀ t fd (s : σ), ∀ e ∈ (Mechanism.wake t fd s).2.2, e.ofGuard = false
  leave : ∀ t (s : σ), ∀ e ∈ (Mechanism.leave t s).2, e.ofGuard = false

instance : Reticent Recorder where
  enter _ _ _ _ he := absurd he List.not_mem_nil
  wake _ _ _ _ he := absurd he List.not_mem_nil
  leave _ _ _ he := absurd he List.not_mem_nil

instance : Reticent WakeRecorder where
  enter _ _ _ _ he := absurd he List.not_mem_nil
  wake _ _ _ _ he := absurd he List.not_mem_nil
  leave _ _ _ he := absurd he List.not_mem_nil

instance : Reticent SignalMechanism where
  enter _ _ _ _ he := absurd he List.not_mem_nil
  wake _ _ _ _ he := absurd he List.not_mem_nil
  leave _ _ _ he := absurd he List.not_mem_nil

namespace WakeChannels

variable {κ : Type} {s : WakeChannels κ} {e : Event}

lemma ofGuard_onPair {p : PairId} {act : WakePair → WakePair × Option PairEvent}
    (he : e ∈ (s.onPair p act).2) : e.ofGuard = false := by
  unfold onPair at he
  split at he
  · simp at he
  · simp only [Option.mem_toList, Option.map_eq_some_iff] at he
    obtain ⟨what, -, rfl⟩ := he
    rfl

lemma ofGuard_enter (t : Thread) (canOpen : Bool) (he : e ∈ (s.enter t canOpen).2) :
    e.ofGuard = false := by
  unfold enter at he
  split at he
  · simp at he
  · split at he <;> (rw [List.mem_singleton.mp he]; rfl)

lemma ofGuard_wake [ForcedClose κ] (t : Thread) (fd : Descriptor)
    (he : e ∈ (s.wake t fd).2.2) : e.ofGuard = false := by
  have hring : e ∈ (s.ring t).2 := he
  unfold ring at hring
  split at hring
  · simp at hring
  · exact ofGuard_onPair hring

lemma ofGuard_leave (t : Thread) (he : e ∈ (s.leave t).2) : e.ofGuard = false := by
  unfold leave at he
  split at he
  · simp at he
  · rcases List.mem_append.mp he with he | he
    · exact ofGuard_onPair he
    · unfold drop at he
      split at he
      · rw [List.mem_singleton.mp he]; rfl
      · simp at he

end WakeChannels

instance {κ : Type} [ForcedClose κ] : Reticent (WakeChannels κ) where
  enter t canOpen _ _ := WakeChannels.ofGuard_enter t canOpen
  wake t fd _ _ := WakeChannels.ofGuard_wake t fd
  leave t _ _ := WakeChannels.ofGuard_leave t

end AsyncClose
