import AsyncClose.Mechanism.Signal
import AsyncClose.Registry.Basic

/-!
Setting up the process-wide registry, and the settings to do it with.

A setup looks whether there is a registry, installs the signal handler, and publishes a registry
unless another setup has done so in the meantime. Each of the three is one step; setups on
several threads may take their steps in any order.
-/

namespace AsyncClose

structure Settings where
  /-- Slots set aside up front. -/
  capacity : Nat
  /-- The signal to interrupt threads with, if not the usual one. -/
  signal? : Option Int
  deriving DecidableEq

namespace Settings

def standard : Settings := ⟨Registry.defaultCapacity, none⟩

def setCapacity (s : Settings) (capacity : Nat) : Settings := { s with capacity := capacity }

def setSignal (s : Settings) (signal : Int) : Settings := { s with signal? := some signal }

def signal (s : Settings) : Int := s.signal?.getD SignalMechanism.defaultSignal

def shape (s : Settings) : Text.Shape :=
  .record "Config"
    [("capacity", .word (toString s.capacity)),
      ("signal", match s.signal? with
        | none => .word "None"
        | some n => .tuple "Some" [.word (toString n)])]

end Settings

structure Process where
  registry? : Option (Registry SignalMechanism)
  /-- The signals of all installs by setups, the last one first. A signal that was installed twice
  is there twice. -/
  handled : List Int
  /-- The events of all setups, oldest first. -/
  log : List Event

namespace Process

def fresh : Process := ⟨none, [], []⟩

def note (p : Process) (events : List Event) : Process := { p with log := p.log ++ events }

def check (p : Process) : Except CloseError Unit :=
  if p.registry?.isSome then .error .alreadySetUp else .ok ()

/-- Installs the handler for the signal of the settings, to which the kernel answers so. -/
def installAnswered (answer : Except CallError Unit) (settings : Settings) (p : Process) :
    Except CloseError SignalMechanism × Process :=
  match (SignalMechanism.ofSignal settings.signal).installAnswered answer with
  | (.ok (), m, events) =>
    (.ok m, { p with handled := settings.signal :: p.handled }.note events)
  | (.error e, _, events) => (.error (.setupFailed e), p.note events)

def install (settings : Settings) (p : Process) : Except CloseError SignalMechanism × Process :=
  p.installAnswered (SignalMechanism.kernelAnswer settings.signal) settings

/-- Makes a registry the one of the process, unless it has one. -/
def publish (settings : Settings) (m : SignalMechanism) (p : Process) :
    Except CloseError Unit × Process :=
  if p.registry?.isSome then (.error .alreadySetUp, p)
  else
    (.ok (),
      { p with registry? := some (.ofCapacity settings.capacity m) }.note
        [.registryReady settings.capacity])

/-- Sets up the registry without anyone in between. -/
def setUp (settings : Settings) (p : Process) : Except CloseError Unit × Process :=
  match p.check with
  | .error e => (.error e, p)
  | .ok () =>
    match p.install settings with
    | (.error e, p) => (.error e, p)
    | (.ok m, p) => p.publish settings m

/-- Wakes every thread blocked on `fd`. Without a registry nobody can be. -/
def wakeBlocked (fd : Descriptor) (p : Process) : Nat × Process :=
  match p.registry? with
  | none => (0, p)
  | some r =>
    let (n, r) := r.wakeBlocked fd
    (n, { p with registry? := some r })

end Process

/-- Where a setup stands that others may interrupt. -/
inductive Setup where
  | checking (settings : Settings)
  | installing (settings : Settings)
  | publishing (settings : Settings) (mechanism : SignalMechanism)
  | done (result : Except CloseError Unit)

namespace Setup

/-- The next step of a setup, in which the kernel, if it is asked, answers so. -/
def stepAnswered (answer : Except CallError Unit) : Setup → Process → Setup × Process
  | checking x, p =>
    match p.check with
    | .ok () => (installing x, p)
    | .error e => (done (.error e), p)
  | installing x, p =>
    match p.installAnswered answer x with
    | (.ok m, p) => (publishing x m, p)
    | (.error e, p) => (done (.error e), p)
  | publishing x m, p =>
    let (r, p) := p.publish x m
    (done r, p)
  | done r, p => (done r, p)

/-- What the kernel answers in the next step of a setup, if it is asked. -/
def kernelAnswer : Setup → Except CallError Unit
  | installing x => SignalMechanism.kernelAnswer x.signal
  | _ => .ok ()

def step (s : Setup) (p : Process) : Setup × Process := s.stepAnswered s.kernelAnswer p

/-- The three steps of a setup, taken in a row, are the setup. -/
theorem step_step_step (x : Settings) (p : Process) :
    (let (s, p) := (checking x).step p
     let (s, p) := s.step p
     s.step p) = (done (p.setUp x).1, (p.setUp x).2) := by
  simp only [step, stepAnswered, Process.setUp]
  rcases p.check with e | _
  · rfl
  · simp only [kernelAnswer, Process.install]
    rcases p.installAnswered (SignalMechanism.kernelAnswer x.signal) x with ⟨_ | m, q⟩ <;> rfl

end Setup

end AsyncClose
