import AsyncClose.Registry.Guard
import AsyncClose.WakePair

/-!
What can be asked for in a session: single requests, and blocking calls whose attempts follow a
script.

What a session answers.
-/

namespace AsyncClose

inductive Wait
  /-- It reads one byte. -/
  | read
  /-- It waits for its wake source. -/
  | poll
  deriving DecidableEq

/-- A call that really waits, and what is done to it meanwhile. -/
structure BlockingCall where
  fd : Descriptor
  /-- The descriptor that is read. -/
  on : Descriptor
  wait : Wait
  /-- Descriptors that are closed first. -/
  before : List Descriptor
  /-- The call returns by itself and nobody closes its descriptor. -/
  unaided : Bool
  /-- The thread is interrupted without a close until it tries again. -/
  disturbed : Bool
  deriving DecidableEq

/-- A single request. Guards go by name and wake pairs by number. -/
inductive Request where
  | guard (t : Thread) (name : Int) (fd : Descriptor) (canOpen : Bool)
  | drop (name : Int)
  | forget (name : Int)
  | signaled (name : Int)
  | info (name : Int) (pretty : Bool)
  | exit (t : Thread) (forget : Bool)
  | block (t : Thread) (call : BlockingCall)
  | wake (fd : Descriptor)
  | wakeAtOnce (fd : Descriptor) (callers : Nat)
  | size
  | describe (pretty : Bool)
  | probe (id : GuardId)
  | install
  | enter (t : Thread) (canOpen : Bool)
  | leave (t : Thread)
  | source (t : Thread)
  | interrupt (t : Thread) (fd : Descriptor)
  | pair (number : Nat) (action : PairAction)
  | receive (fd : Descriptor)
  | peerReceive (fd : Descriptor)
  | peerSend (fd : Descriptor) (n : Nat)
  | handles
  deriving DecidableEq

mutual

/-- One thing to do. `β` are the requests that can be made and `α` the values that blocking
calls return. -/
inductive Action (β α : Type) where
  /-- Make a request, in which these threads are named. -/
  | request (named : List Thread) (what : β)
  /-- Make a blocking call that follows a script, attempt by attempt. -/
  | run (t : Thread) (fd : Descriptor) (script : List (Attempt β α))

/-- One attempt of a scripted call: what it does, and how it ends. -/
inductive Attempt (β α : Type) where
  | mk (actions : List (Action β α)) (ending : Ending (Option α))

end

/-! ### Answers -/

structure AttemptReport (γ : Type) where
  id : GuardId
  fd : Descriptor
  /-- The number of the pair to wait on. -/
  source? : Option Nat
  /-- The answers to what the attempt did. -/
  did : List γ
  /-- The number of live guards after that, and whether a close had been requested. -/
  size : Nat
  signaled : Bool

structure GuardReport where
  guard : Guard
  signaled : Bool
  source? : Option Nat
  text : String

/-- The answer to an action; `α` are the values that blocking calls return. -/
inductive Answer (α : Type) where
  | nothing
  /-- The request would have ended the process. -/
  | refused
  | flag (b : Bool)
  | count (n : Nat)
  | counts (ns : List Nat)
  | source (number? : Option Nat)
  | transfer (r : Except Errno Nat)
  | outcome (r : Except CallError Unit)
  | setup (r : Except CloseError Unit)
  | text (s? : Option String)
  | texts (list : List String)
  | guard (g : Guard) (source? : Option Nat)
  | info (r : GuardReport)
  | description (registry : String) (mechanism? : Option String) (signal? : Option Int)
  /-- The threads, which of them are equal, and which are new. -/
  | handles (threads : List Thread) (equal : List (List Bool)) (fresh : List Bool)
  | blocked (result : Except CallError Nat) (before : List Nat) (retried : Bool)
  | ran (ending : Ending (Option α)) (attempts : List (AttemptReport (Answer α)))
  | panicked (text : String)

end AsyncClose
