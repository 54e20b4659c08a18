import AsyncClose.Failure.Basic

/-!
Wake pairs: two connected ends of a local stream, one written to by wakers, the other watched by
the thread they wake, and a flag that says whether a wake byte is under way.

The flag and the byte in the stream are two records of one fact. Pushing and popping keep them
in step; a read by anyone else, or a shutdown, can set them apart.
-/

namespace AsyncClose

/-- Which wake pair: the number of pairs made before it. -/
structure PairId where
  index : Nat
  deriving DecidableEq

inductive PairEvent
  | pushed
  | pushIgnored
  | pushFailed (errno : Errno)
  | popped
  | popEnded
  | popFailed (errno : Errno)
  deriving DecidableEq

structure WakePair where
  /-- A wake byte was written and not read back. -/
  pushed : Bool
  /-- Bytes waiting on the watched end. -/
  queued : Nat
  /-- The watched end takes no more bytes. -/
  shut : Bool
  deriving DecidableEq

namespace WakePair

def fresh : WakePair := ⟨false, 0, false⟩

/-- Makes a pair, which takes descriptors that the process may not have left. -/
def create (canOpen : Bool) : Except Errno WakePair :=
  if canOpen then .ok fresh else .error .tooManyOpenFiles

def write (p : WakePair) : Except Errno Nat × WakePair :=
  if p.shut then (.error .brokenPipe, p) else (.ok 1, { p with queued := p.queued + 1 })

/-- Reads one byte; the number of bytes read, none at the end of the stream. With nothing queued a
read waits for a byte. It answers `.wouldBlock` instead where an outsider has left the watched end
nonblocking, as whoever drains it without waiting does. -/
def read (p : WakePair) : Except Errno Nat × WakePair :=
  if 0 < p.queued then (.ok 1, { p with queued := p.queued - 1 })
  else if p.shut then (.ok 0, p)
  else (.error .wouldBlock, p)

/-- Makes the watched end readable, unless a byte is already under way. After a failed write
the next push tries again. -/
def push (p : WakePair) : WakePair × Option PairEvent :=
  if p.pushed then (p, none)
  else
    match p.write with
    | (.ok 1, p) => ({ p with pushed := true }, some .pushed)
    | (.ok _, p) => (p, some .pushIgnored)
    | (.error e, p) => (p, some (.pushFailed e))

/-- Takes the wake byte back, if one is under way. -/
def pop (p : WakePair) : WakePair × Option PairEvent :=
  if p.pushed then
    match p.read with
    | (.ok 1, p) => ({ p with pushed := false }, some .popped)
    | (.ok _, p) => (p, some .popEnded)
    | (.error e, p) => (p, some (.popFailed e))
  else (p, none)

/-- Reads from the watched end behind the flag's back. -/
def drain (p : WakePair) : Except Errno Nat × WakePair := p.read

/-- Shuts the watched end for reading. What is queued stays readable. -/
def shutdown (p : WakePair) : WakePair := { p with shut := true }

/-- A wait on the watched end returns at once. -/
def readable (p : WakePair) : Bool := 0 < p.queued || p.shut

end WakePair

/-! ### Single actions, by users of a pair and by outsiders, and what each answers -/

inductive PairAction
  /-- Several pushes. At once or one after the other is the same, since a push is one step. -/
  | push (times : Nat)
  | pop
  | readable
  | drain
  | shutdown
  deriving DecidableEq

inductive PairReply
  | nothing
  | flag (b : Bool)
  | transfer (r : Except Errno Nat)

namespace WakePair

def pushes (p : WakePair) : Nat → WakePair × List PairEvent
  | 0 => (p, [])
  | n + 1 =>
    let (p, first) := p.push
    let (p, rest) := p.pushes n
    (p, first.toList ++ rest)

def perform (p : WakePair) : PairAction → PairReply × WakePair × List PairEvent
  | .push n => (.nothing, p.pushes n)
  | .pop =>
    let (p, what) := p.pop
    (.nothing, p, what.toList)
  | .readable => (.flag p.readable, p, [])
  | .drain =>
    let (r, p) := p.drain
    (.transfer r, p, [])
  | .shutdown => (.nothing, p.shutdown, [])

end WakePair

end AsyncClose
