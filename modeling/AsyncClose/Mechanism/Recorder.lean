import AsyncClose.Mechanism.Basic

/-!
Mechanisms for watching a registry at work. They keep a record of the calls they receive, touch
nothing else, and fail when told to.
-/

namespace AsyncClose

/-- A call on a mechanism, or on what forces descriptors closed. -/
inductive Call
  | install
  | enter (thread : Thread)
  | wake (thread : Thread) (fd : Descriptor)
  | leave (thread : Thread)
  | close (thread : Thread) (fd : Descriptor)
  deriving DecidableEq

/-- A plan of failures that repeats, and how many calls it has decided. -/
structure FailurePlan where
  outcomes : List (Option CallError)
  decided : Nat
  deriving DecidableEq

namespace FailurePlan

/-- A plan that has decided nothing yet; an empty one never fails. -/
def ofOutcomes (outcomes : List (Option CallError)) : FailurePlan := ⟨outcomes, 0⟩

def next (p : FailurePlan) : Except CallError Unit × FailurePlan :=
  let r := match p.outcomes[p.decided % p.outcomes.length]? with
    | some (some e) => .error e
    | _ => .ok ()
  (r, { p with decided := p.decided + 1 })

end FailurePlan

structure Recorder where
  calls : List Call
  plan : FailurePlan
  installFailure : Option CallError
  deriving DecidableEq

namespace Recorder

def note (c : Call) (s : Recorder) : Recorder := { s with calls := s.calls ++ [c] }

/-- Records the installation, which fails if that was decided beforehand. -/
def install (s : Recorder) : Except CallError Unit × Recorder × List Event :=
  (match s.installFailure with | some e => .error e | none => .ok (), s.note .install, [])

def wake (t : Thread) (fd : Descriptor) (s : Recorder) :
    Except CallError Unit × Recorder × List Event :=
  let (r, plan) := s.plan.next
  (r, { s.note (.wake t fd) with plan := plan }, [])

end Recorder

instance : Mechanism Recorder where
  install := Recorder.install
  enter t _ s := (s.note (.enter t), [])
  wake := Recorder.wake
  leave t s := (s.note (.leave t), [])

/-- Records wakes only; everything else is left to the defaults. -/
structure WakeRecorder where
  calls : List Call
  plan : FailurePlan
  deriving DecidableEq

namespace WakeRecorder

def wake (t : Thread) (fd : Descriptor) (s : WakeRecorder) :
    Except CallError Unit × WakeRecorder × List Event :=
  let (r, plan) := s.plan.next
  (r, ⟨s.calls ++ [.wake t fd], plan⟩, [])

end WakeRecorder

instance : Mechanism WakeRecorder where
  wake := WakeRecorder.wake

/-- Records forced closes and closes nothing. -/
structure CloseRecorder where
  calls : List Call
  plan : FailurePlan
  deriving DecidableEq

namespace CloseRecorder

def close (t : Thread) (fd : Descriptor) (s : CloseRecorder) :
    Except CallError Unit × CloseRecorder :=
  let (r, plan) := s.plan.next
  (r, ⟨s.calls ++ [.close t fd], plan⟩)

end CloseRecorder

instance : ForcedClose CloseRecorder where
  close := CloseRecorder.close

end AsyncClose
