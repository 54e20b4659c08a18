import AsyncClose.Mechanism.Basic

/-!
The descriptors a process holds open, as far as closing under a blocked call is concerned.

A connected pair has a queue towards either end. A stream runs together what was written, a
datagram socket keeps each message apart. Shutting one end down is for good: what is queued can
still be read, and every write into either end fails. A stream has then ended for both ends. A
datagram pair has no end of its own, so only a read that waits on the end that was shut down
comes back with nothing.
-/

namespace AsyncClose

/-- What was written and not read yet, the oldest first. -/
inductive Queue
  /-- Bytes that run together. -/
  | bytes (n : Nat)
  /-- Messages kept apart, by their sizes. -/
  | messages (sizes : List Nat)
  deriving DecidableEq

namespace Queue

def push (n : Nat) : Queue → Queue
  | bytes k => bytes (k + n)
  | messages sizes => messages (sizes ++ [n])

/-- Takes what one read reads, at most `most` bytes, and nothing from an empty queue. What does
not fit of a message is lost. -/
def take? (most : Nat) : Queue → Option (Nat × Queue)
  | bytes k => if k = 0 then none else some (min k most, bytes (k - min k most))
  | messages [] => none
  | messages (n :: rest) => some (min n most, messages rest)

end Queue

/-- What a descriptor stands for: an end of a connected pair of sockets, the reading end of a
pipe, a socket that was never connected, or the null device. -/
inductive SocketKind
  | stream
  | dgram
  | pipe
  | tcp
  | udp
  | null
  deriving DecidableEq

def SocketKind.emptyQueue (kind : SocketKind) : Queue :=
  if kind = .dgram then .messages [] else .bytes 0

structure Socket where
  kind : SocketKind
  /-- What is queued for this end. -/
  inbound : Queue
  /-- What is queued for the other end. -/
  outbound : Queue
  shut : Bool
  deriving DecidableEq

namespace Socket

def fresh (kind : SocketKind) : Socket := ⟨kind, kind.emptyQueue, kind.emptyQueue, false⟩

/-- The size of the buffers that callers read into and write from. It is theirs, not a limit on what
one call can move. -/
def maxTransfer : Nat := 64

/-- What a socket call that does not wait answers when nothing is queued. -/
def nothingToReceive (s : Socket) : Except Errno Nat :=
  match s.kind with
  | .stream => if s.shut then .ok 0 else .error .wouldBlock
  | .dgram | .udp => .error .wouldBlock
  | .tcp => if s.shut then .ok 0 else .error .notConnected
  | .pipe | .null => .error .notSocket

/-- Receives on this end without waiting, up to `most` bytes. -/
def receive (s : Socket) (most : Nat) : Except Errno Nat × Socket :=
  match s.kind, s.inbound.take? most with
  | .pipe, _ => (.error .notSocket, s)
  | _, some (n, left) => (.ok n, { s with inbound := left })
  | _, none => (s.nothingToReceive, s)

/-- What a read that waits comes back with when nothing is queued: the end, if there is one, or
the interruption that cut it short. -/
def nothingToRead (s : Socket) : Except Errno Nat :=
  match s.kind with
  | .null => .ok 0
  | .tcp => if s.shut then .ok 0 else .error .notConnected
  | .stream | .dgram | .udp | .pipe => if s.shut then .ok 0 else .error .interrupted

/-- Reads on this end, up to `most` bytes, and waits for them. -/
def read (s : Socket) (most : Nat) : Except Errno Nat × Socket :=
  match s.inbound.take? most with
  | some (n, left) => (.ok n, { s with inbound := left })
  | none => (s.nothingToRead, s)

/-- Receives on the other end without waiting. Only pairs and pipes have one. -/
def peerReceive (s : Socket) (most : Nat) : Except Errno Nat × Socket :=
  match s.kind with
  | .stream | .dgram =>
    match s.outbound.take? most with
    | some (n, left) => (.ok n, { s with outbound := left })
    | none => (s.nothingToReceive, s)
  | .pipe => (.error .notSocket, s)
  | .tcp | .udp | .null => (.error .badDescriptor, s)

def send (s : Socket) (n : Nat) : Except Errno Nat × Socket :=
  let n := min n maxTransfer
  match s.kind with
  | .stream | .dgram =>
    if s.shut then (.error .brokenPipe, s)
    else (.ok n, { s with outbound := s.outbound.push n })
  | .null => (.ok n, s)
  | .pipe => (.error .badDescriptor, s)
  | .tcp => (.error .brokenPipe, s)
  | .udp => (.error .noDestination, s)

/-- Writes into the other end. Only pairs and pipes have one. -/
def peerSend (s : Socket) (n : Nat) : Except Errno Nat × Socket :=
  let n := min n maxTransfer
  match s.kind with
  | .stream | .dgram | .pipe =>
    if s.shut then (.error .brokenPipe, s)
    else (.ok n, { s with inbound := s.inbound.push n })
  | .tcp | .udp | .null => (.error .badDescriptor, s)

/-- Shuts a socket down in both directions. One that was never connected says so, but is shut
down all the same; what is no socket refuses. -/
def shutdown (s : Socket) : Except Errno Unit × Socket :=
  match s.kind with
  | .stream | .dgram => (.ok (), { s with shut := true })
  | .tcp | .udp => (.error .notConnected, { s with shut := true })
  | .pipe | .null => (.error .notSocket, s)

end Socket

structure Sockets where
  list : List Socket
  deriving DecidableEq

namespace Sockets

def ofKinds (kinds : List SocketKind) : Sockets := ⟨kinds.map Socket.fresh⟩

/-- Does something with one descriptor, which fails if it is not open. -/
def on {α : Type} (s : Sockets) (fd : Descriptor)
    (act : Socket → Except Errno α × Socket) : Except Errno α × Sockets :=
  match fd with
  | .raw _ => (.error .badDescriptor, s)
  | .opened k =>
    match s.list[k]? with
    | none => (.error .badDescriptor, s)
    | some x =>
      let (r, x) := act x
      (r, ⟨s.list.set k x⟩)

end Sockets

/-! ### Forcing a descriptor closed by shutting it down in both directions -/

namespace Sockets

/-- Shuts a descriptor down. A socket that was never connected is as good as shut down, since
nothing can be blocked on it. -/
def shutdown (fd : Descriptor) (s : Sockets) : Except CallError Unit × Sockets :=
  match s.on fd Socket.shutdown with
  | (.ok (), s) => (.ok (), s)
  | (.error e, s) => (if e = .notConnected then .ok () else .error (.os e), s)

end Sockets

instance : ForcedClose Sockets where
  close _ fd s := s.shutdown fd

end AsyncClose
