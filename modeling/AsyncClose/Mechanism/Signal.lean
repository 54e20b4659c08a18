import AsyncClose.Mechanism.Basic
import AsyncClose.Text.Shape

/-!
Interrupting threads with a signal. A handler that does nothing is installed for the signal; its
delivery makes a blocked call return early.
-/

namespace AsyncClose

/-- A signal, and what the kernel knows that decides how sending it ends. -/
structure SignalMechanism where
  signal : Int
  /-- The handler for the signal is in place. -/
  handled : Bool
  /-- Threads that have ended. -/
  ended : List Thread
  deriving DecidableEq

namespace SignalMechanism

/-- The second real-time signal after the first that is free for programs. -/
def defaultSignal : Int := 36

/-- Nothing is installed and every thread is alive. -/
def ofSignal (signal : Int) : SignalMechanism := ⟨signal, false, []⟩

def lastSignal : Int := 64

/-- Whether a handler may be installed for a signal. The signals that always kill or stop are
out of reach, and so are the two that the threading library keeps to itself. -/
def canHandle (signal : Int) : Bool :=
  0 < signal && signal ≤ lastSignal && !([9, 19, 32, 33].contains signal)

/-- Whether a thread can be sent the number. Zero is sent to nobody but is accepted. -/
def canSend (signal : Int) : Bool := 0 ≤ signal && signal ≤ lastSignal

def kernelAnswer (signal : Int) : Except CallError Unit :=
  if canHandle signal then .ok () else .error (.os .invalidArgument)

/-- Puts the handler in place, if the kernel answers that it may be. -/
def installAnswered (answer : Except CallError Unit) (s : SignalMechanism) :
    Except CallError Unit × SignalMechanism × List Event :=
  match answer with
  | .ok () => (.ok (), { s with handled := true }, [.handlerInstalled s.signal])
  | .error e => (.error e, s, [])

def install (s : SignalMechanism) : Except CallError Unit × SignalMechanism × List Event :=
  s.installAnswered (kernelAnswer s.signal)

/-- Sends the signal to a thread. One that has ended is missed, and nobody else is hit. -/
def wake (t : Thread) (s : SignalMechanism) : Except CallError Unit :=
  if s.ended.contains t then .error (.os .noSuchProcess)
  else if canSend s.signal then .ok ()
  else .error (.os .invalidArgument)

def shape (signal : Int) : Text.Shape :=
  .record "SignalInterruptor" [("signal", .word (toString signal))]

/-- Sending the signal would end the process, for want of a handler. -/
def deadly (s : SignalMechanism) : Bool :=
  0 < s.signal && s.signal ≤ lastSignal && !s.handled

end SignalMechanism

instance : Mechanism SignalMechanism where
  install := SignalMechanism.install
  wake t _ s := (s.wake t, s, [])

end AsyncClose
