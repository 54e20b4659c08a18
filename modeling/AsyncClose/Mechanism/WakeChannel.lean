import AsyncClose.Mechanism.Basic

/-!
Interrupting threads through wake channels.

A thread that blocks owns a channel: a wake pair it can wait on beside its own descriptor. All
episodes of one thread share the channel, and the last to end takes it down. A wake sends a byte
down the channel and, whether that worked or not, forces the descriptor itself closed.

If no pair can be made the thread blocks without a channel, and only the forced close reaches it.
-/

namespace AsyncClose

structure ThreadMap (α : Type) where
  list : List (Thread × α)
  deriving DecidableEq

namespace ThreadMap

variable {α : Type}

def empty : ThreadMap α := ⟨[]⟩

def get? (m : ThreadMap α) (t : Thread) : Option α := (m.list.find? (·.1 = t)).map (·.2)

def erase (m : ThreadMap α) (t : Thread) : ThreadMap α := ⟨m.list.filter (·.1 ≠ t)⟩

/-- Gives thread `t` the value `x`, in place of any value before. -/
def set (m : ThreadMap α) (t : Thread) (x : α) : ThreadMap α := ⟨(t, x) :: (m.erase t).list⟩

def size (m : ThreadMap α) : Nat := m.list.length

@[simp] theorem get?_empty (t : Thread) : (empty : ThreadMap α).get? t = none := rfl

theorem get?_erase (m : ThreadMap α) (t u : Thread) :
    (m.erase t).get? u = if u = t then none else m.get? u := by
  obtain ⟨l⟩ := m
  simp only [get?, erase]
  induction l with
  | nil => simp
  | cons p l ih => grind

theorem get?_set (m : ThreadMap α) (t u : Thread) (x : α) :
    (m.set t x).get? u = if u = t then some x else m.get? u := by
  by_cases h : u = t
  · simp [get?, set, h]
  · have := m.get?_erase t u
    simp only [h, if_false] at this ⊢
    rw [← this]
    simp [get?, set, Ne.symm h]

end ThreadMap

/-- What a thread owns while it blocks: a pair, and the number of its episodes. -/
structure Channel where
  pair : PairId
  depth : Nat
  deriving DecidableEq

/-- Wake channels over a way to force descriptors closed. -/
structure WakeChannels (κ : Type) where
  /-- Every pair made so far, in order. Pairs outlive their channel for whoever holds on to them. -/
  pairs : List WakePair
  channels : ThreadMap Channel
  closer : κ

namespace WakeChannels

variable {κ : Type}

def ofCloser (closer : κ) : WakeChannels κ := ⟨[], .empty, closer⟩

def pair? (s : WakeChannels κ) (p : PairId) : Option WakePair := s.pairs[p.index]?

/-- Does something with a pair, and reports what happened to its wake byte. -/
def onPair (s : WakeChannels κ) (p : PairId) (act : WakePair → WakePair × Option PairEvent) :
    WakeChannels κ × List Event :=
  match s.pair? p with
  | none => (s, [])
  | some w =>
    let (w, what) := act w
    ({ s with pairs := s.pairs.set p.index w }, (what.map (Event.wakeByte p)).toList)

/-- Begins an episode: on the thread's channel if it owns one, else on a new one. -/
def enter (t : Thread) (canOpen : Bool) (s : WakeChannels κ) : WakeChannels κ × List Event :=
  match s.channels.get? t with
  | some c => ({ s with channels := s.channels.set t { c with depth := c.depth + 1 } }, [])
  | none =>
    match WakePair.create canOpen with
    | .ok w =>
      let p : PairId := ⟨s.pairs.length⟩
      ({ s with pairs := s.pairs ++ [w], channels := s.channels.set t ⟨p, 1⟩ },
        [.channelCreated t p])
    | .error e => (s, [.channelRefused t (.os e)])

/-- Sends a byte down the channel of a thread that has one. -/
def ring (t : Thread) (s : WakeChannels κ) : WakeChannels κ × List Event :=
  match s.channels.get? t with
  | none => (s, [])
  | some c => s.onPair c.pair WakePair.push

/-- Rings, and forces the descriptor closed. Neither depends on the other. -/
def wake [ForcedClose κ] (t : Thread) (fd : Descriptor) (s : WakeChannels κ) :
    Except CallError Unit × WakeChannels κ × List Event :=
  let (s, events) := s.ring t
  let (r, closer) := ForcedClose.close t fd s.closer
  (r, { s with closer := closer }, events)

/-- Counts one episode of a thread less, and takes its channel down after the last. -/
def drop (t : Thread) (c : Channel) (s : WakeChannels κ) : WakeChannels κ × List Event :=
  if c.depth - 1 = 0 then
    ({ s with channels := s.channels.erase t }, [.channelDestroyed t])
  else ({ s with channels := s.channels.set t { c with depth := c.depth - 1 } }, [])

/-- Ends an episode: takes back the wake byte, then lets go of the channel. -/
def leave (t : Thread) (s : WakeChannels κ) : WakeChannels κ × List Event :=
  match s.channels.get? t with
  | none => (s, [])
  | some c =>
    let (s, popped) := s.onPair c.pair WakePair.pop
    let (s, dropped) := s.drop t c
    (s, popped ++ dropped)

def source? (t : Thread) (s : WakeChannels κ) : Option PairId :=
  (s.channels.get? t).map (·.pair)

end WakeChannels

instance {κ : Type} [ForcedClose κ] : Mechanism (WakeChannels κ) where
  enter := WakeChannels.enter
  wake := WakeChannels.wake
  leave := WakeChannels.leave
  source? := WakeChannels.source?

end AsyncClose
