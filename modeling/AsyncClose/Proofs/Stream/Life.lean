import Mathlib
import AsyncClose.Sockets

/-!
The life of a connected pair of streams.

Bytes are written into one end and read from the other, and some time the pair is shut down. What
a pair will answer depends on the bytes queued for either end and on whether it was shut down, and
on nothing else.
-/

namespace AsyncClose

/-- An end of a connected pair: the descriptor itself, or the end at the peer. -/
inductive Side
  | near
  | far
  deriving DecidableEq

def Side.other : Side → Side
  | near => far
  | far => near

/-- A read or a write on one end of a pair. Neither waits. -/
inductive Transfer
  | read (side : Side) (most : ℕ)
  | write (side : Side) (n : ℕ)
  deriving DecidableEq

def Transfer.act : Transfer → Socket → Except Errno ℕ × Socket
  | .read .near most, x => x.receive most
  | .read .far most, x => x.peerReceive most
  | .write .near n, x => x.send n
  | .write .far n, x => x.peerSend n

structure StreamPair where
  /-- The number of bytes to be read at each end. -/
  queued : Side → ℕ
  shut : Bool

namespace StreamPair

def fresh : StreamPair := ⟨fun _ => 0, false⟩

def close (s : StreamPair) : StreamPair := { s with shut := true }

def socket (s : StreamPair) : Socket :=
  ⟨.stream, .bytes (s.queued .near), .bytes (s.queued .far), s.shut⟩

lemma shutdown_socket (s : StreamPair) : s.socket.shutdown = (.ok (), s.close.socket) := rfl

def transfer (s : StreamPair) : Transfer → Except Errno ℕ × StreamPair
  | .read side most =>
    if s.queued side = 0 then (if s.shut then .ok 0 else .error .wouldBlock, s)
    else
      let n := min (s.queued side) most
      (.ok n, { s with queued := Function.update s.queued side (s.queued side - n) })
  | .write side n =>
    if s.shut then (.error .brokenPipe, s)
    else
      let n := min n Socket.maxTransfer
      (.ok n, { s with queued := Function.update s.queued side.other (s.queued side.other + n) })

/-- A pair is to its descriptor what it should be, whatever is transferred. -/
lemma act_socket (x : Transfer) (s : StreamPair) :
    x.act s.socket = ((s.transfer x).1, (s.transfer x).2.socket) := by
  rcases x with ⟨_ | _, most⟩ | ⟨_ | _, n⟩
  · by_cases h : s.queued .near = 0 <;>
      simp [Transfer.act, socket, transfer, Socket.receive, Queue.take?, Socket.nothingToReceive, h]
  · by_cases h : s.queued .far = 0 <;>
      simp [Transfer.act, socket, transfer, Socket.peerReceive, Queue.take?,
        Socket.nothingToReceive, h]
  · by_cases h : s.shut <;>
      simp [Transfer.act, socket, transfer, Socket.send, Queue.push, Side.other, h]
  · by_cases h : s.shut <;>
      simp [Transfer.act, socket, transfer, Socket.peerSend, Queue.push, Side.other, h]

@[simp] lemma shut_transfer (s : StreamPair) (x : Transfer) : (s.transfer x).2.shut = s.shut := by
  cases x <;> simp only [transfer] <;> split <;> rfl

end StreamPair

/-- What happens to a pair: it is shut down, or a transfer is answered. -/
inductive Moment
  | closed
  | moved (x : Transfer) (r : Except Errno ℕ)

namespace Moment

def received (side : Side) : Moment → ℕ
  | moved (.read s _) (.ok n) => if s = side then n else 0
  | _ => 0

def sent (side : Side) : Moment → ℕ
  | moved (.write s _) (.ok n) => if s.other = side then n else 0
  | _ => 0

def transfer? : Moment → Option Transfer
  | closed => none
  | moved x _ => some x

def totalReceived (side : Side) (ms : List Moment) : ℕ := (ms.map (received side)).sum

def totalSent (side : Side) (ms : List Moment) : ℕ := (ms.map (sent side)).sum

end Moment

/-- What a transfer answers once the pair was shut down: reads get what is left, writes fail. -/
def Transfer.afterEnd (left : Side → ℕ) : Transfer → Except Errno ℕ
  | read side most => .ok (min (left side) most)
  | write _ _ => .error .brokenPipe

namespace StreamPair

open Moment

variable {s s' s'' : StreamPair} {ms ns : List Moment}

lemma transfer_of_shut (h : s.shut = true) (x : Transfer) :
    (s.transfer x).1 = x.afterEnd s.queued := by
  cases x with
  | read side most =>
    by_cases hq : s.queued side = 0 <;> simp [transfer, Transfer.afterEnd, h, hq]
  | write side n => simp [transfer, Transfer.afterEnd, h]

/-- A transfer neither makes bytes up nor loses any. -/
lemma queued_transfer (s : StreamPair) (x : Transfer) (side : Side) :
    (s.transfer x).2.queued side + (moved x (s.transfer x).1).received side =
      s.queued side + (moved x (s.transfer x).1).sent side := by
  cases x with
  | read e most =>
    by_cases hq : s.queued e = 0
    · cases hs : s.shut <;> simp [transfer, received, sent, hq, hs]
    · by_cases he : e = side
      · subst he
        simp [transfer, received, sent, hq]
      · simp [transfer, received, sent, hq, he, Ne.symm he]
  | write e n =>
    by_cases hs : s.shut
    · simp [transfer, received, sent, hs]
    · by_cases he : e.other = side
      · subst he
        simp [transfer, received, sent, hs]
      · simp [transfer, received, sent, hs, he, Ne.symm he]

lemma sent_of_shut (h : s.shut = true) (x : Transfer) (side : Side) :
    (moved x (s.transfer x).1).sent side = 0 := by
  rw [transfer_of_shut h]
  cases x <;> rfl

/-- From the first pair to the last these moments have passed. -/
inductive Lives : StreamPair → List Moment → StreamPair → Prop
  | nil (s : StreamPair) : Lives s [] s
  | closed {s s' : StreamPair} {ms : List Moment} (h : Lives s.close ms s') :
    Lives s (.closed :: ms) s'
  | moved {s s' : StreamPair} {ms : List Moment} (x : Transfer) (h : Lives (s.transfer x).2 ms s') :
    Lives s (.moved x (s.transfer x).1 :: ms) s'

lemma Lives.append (h : Lives s ms s') (h' : Lives s' ns s'') : Lives s (ms ++ ns) s'' := by
  induction h with
  | nil s => exact h'
  | closed h ih => exact .closed (ih h')
  | moved x h ih => exact .moved x (ih h')

/-- A pair is shut down by being closed, and for good. -/
lemma Lives.shut_iff (h : Lives s ms s') : s'.shut = true ↔ s.shut = true ∨ Moment.closed ∈ ms := by
  induction h with
  | nil s => simp
  | closed h ih => simp [ih, close]
  | moved x h ih => simp [ih]

/-- Every byte written is read once, or is still queued. -/
lemma Lives.balance (h : Lives s ms s') (side : Side) :
    s'.queued side + totalReceived side ms = s.queued side + totalSent side ms := by
  induction h with
  | nil s => rfl
  | closed h ih => simpa [totalReceived, totalSent, received, sent, close] using ih
  | @moved s s' ms x h ih =>
    have hone := queued_transfer s x side
    simp only [totalReceived, totalSent, List.map_cons, List.sum_cons] at ih ⊢
    omega

lemma Lives.totalSent_of_shut (h : Lives s ms s') (hs : s.shut = true) (side : Side) :
    totalSent side ms = 0 := by
  induction h with
  | nil s => rfl
  | closed h ih => simpa [totalSent, sent] using ih rfl
  | moved x h ih =>
    have hrest := ih (by rw [shut_transfer, hs])
    simpa [totalSent, sent_of_shut hs] using hrest

/-- Once a pair was shut down, what was queued then is all there is to read. -/
lemma Lives.queued_of_shut (h : Lives s ms s') (hs : s.shut = true) (side : Side) :
    totalReceived side ms ≤ s.queued side ∧
      s'.queued side = s.queued side - totalReceived side ms := by
  have hbalance := h.balance side
  have hsent := h.totalSent_of_shut hs side
  omega

/-- The transfers determine the life of a pair that is not closed. -/
lemma Lives.unique (h : Lives s ms s') (h' : Lives s ns s'') (hm : Moment.closed ∉ ms)
    (hn : Moment.closed ∉ ns) (heq : ms.filterMap transfer? = ns.filterMap transfer?) :
    ms = ns ∧ s' = s'' := by
  induction h generalizing ns with
  | nil s =>
    cases h' with
    | nil => exact ⟨rfl, rfl⟩
    | closed h' => simp at hn
    | moved x h' => simp [transfer?] at heq
  | closed h ih => simp at hm
  | moved x h ih =>
    cases h' with
    | nil => simp [transfer?] at heq
    | closed h' => simp at hn
    | moved y h' =>
      simp only [List.filterMap_cons, transfer?, List.cons.injEq] at heq
      obtain ⟨rfl, heq⟩ := heq
      obtain ⟨rfl, rfl⟩ := ih h' (by simpa using hm) (by simpa using hn) heq
      exact ⟨rfl, rfl⟩

end StreamPair

end AsyncClose
