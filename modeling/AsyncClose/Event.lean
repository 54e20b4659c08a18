import AsyncClose.Failure.Text
import AsyncClose.Identity
import AsyncClose.WakePair

/-!
The events a registry reports while it works, and the line each is logged as.
-/

namespace AsyncClose

inductive Event where
  | registered (fd : Descriptor) (id : GuardId) (thread : Thread)
  | unregistered (id : GuardId) (removed : Bool)
  | waking (fd : Descriptor) (id : GuardId) (thread : Thread)
  | wakeFailed (fd : Descriptor) (thread : Thread) (cause : CallError)
  | retrying (fd : Descriptor)
  | channelCreated (thread : Thread) (source : PairId)
  | channelRefused (thread : Thread) (cause : CallError)
  | channelDestroyed (thread : Thread)
  | wakeByte (source : PairId) (what : PairEvent)
  | handlerInstalled (signal : Int)
  | registryReady (capacity : Nat)
  deriving DecidableEq

inductive Level
  | trace
  | debug
  | warn
  deriving DecidableEq

namespace Level

def text : Level → String
  | trace => "TRACE"
  | debug => "DEBUG"
  | warn => "WARN"

end Level

/-- An event in writing: its level, what happened, and the facts that go with it. -/
structure LogLine where
  level : Level
  message : String
  fields : List (String × String)
  deriving DecidableEq

namespace LogLine

/-- The line: level and message, then each field behind a blank. -/
def text (l : LogLine) : String :=
  l.level.text ++ " " ++ l.message ++ String.join (l.fields.map fun f => " " ++ f.1 ++ "=" ++ f.2)

end LogLine

def Errno.display (e : Errno) : String := (CallError.os e).display

def PairEvent.line (source : String) : PairEvent → LogLine
  | .pushed => ⟨.trace, "pushed wake byte", [("source", source)]⟩
  | .pushIgnored => ⟨.warn, "wake channel accepted no bytes", []⟩
  | .pushFailed e => ⟨.warn, "can't send a byte to the wake channel", [("err", e.display)]⟩
  | .popped => ⟨.trace, "popped wake byte", [("source", source)]⟩
  | .popEnded => ⟨.warn, "wake channel closed with a byte pending", []⟩
  | .popFailed e => ⟨.warn, "can't receive a byte from the wake channel", [("err", e.display)]⟩

def Event.line (sourceName : PairId → String) : Event → LogLine
  | .registered fd id t =>
    ⟨.trace, "registered blocked thread", [("fd", fd.text), ("id", id.text), ("thread", t.text)]⟩
  | .unregistered id removed =>
    ⟨.trace, "unregistered blocked thread", [("id", id.text), ("removed", toString removed)]⟩
  | .waking fd id t =>
    ⟨.debug, "waking blocked thread", [("fd", fd.text), ("id", id.text), ("thread", t.text)]⟩
  | .wakeFailed fd t e =>
    ⟨.warn, "failed to wake blocked thread",
      [("fd", fd.text), ("thread", t.text), ("err", e.display)]⟩
  | .retrying fd => ⟨.trace, "interrupted without close request, retrying", [("fd", fd.text)]⟩
  | .channelCreated t source =>
    ⟨.trace, "created wake channel", [("thread", t.text), ("source", sourceName source)]⟩
  | .channelRefused t e =>
    ⟨.warn, "can't create wake channel", [("thread", t.text), ("err", e.display)]⟩
  | .channelDestroyed t => ⟨.trace, "destroyed wake channel", [("thread", t.text)]⟩
  | .wakeByte source what => what.line (sourceName source)
  | .handlerInstalled n =>
    ⟨.debug, "installed blocked thread signal handler", [("signal", toString n)]⟩
  | .registryReady n => ⟨.debug, "closewake initialized", [("capacity", toString n)]⟩

end AsyncClose
