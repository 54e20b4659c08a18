import AsyncClose.Event

/-!
Mechanisms that make a blocked thread return from its call.

A mechanism is known by its state. Entering and leaving bracket every blocking episode of a
thread; waking happens in between, on behalf of a descriptor, and may fail. Every operation
hands back the next state and the events it reports. A registry uses nothing else of a
mechanism, so it works the same over any of them.
-/

namespace AsyncClose

/-- The operations of a mechanism with states `σ`. Only waking has to be given. -/
class Mechanism (σ : Type) where
  /-- Set up what the whole process needs, once, before the first thread blocks. -/
  install : σ → Except CallError Unit × σ × List Event := fun s => (.ok (), s, [])
  /-- The thread is about to block. The flag says whether descriptors can be opened. -/
  enter : Thread → Bool → σ → σ × List Event := fun _ _ s => (s, [])
  /-- Make the thread return from its call on the descriptor. -/
  wake : Thread → Descriptor → σ → Except CallError Unit × σ × List Event
  /-- The thread is done blocking. -/
  leave : Thread → σ → σ × List Event := fun _ s => (s, [])
  /-- What becomes readable when the thread is woken. -/
  source? : Thread → σ → Option PairId := fun _ _ => none

/-- Something that can make a descriptor useless to the thread blocked on it. -/
class ForcedClose (κ : Type) where
  close : Thread → Descriptor → κ → Except CallError Unit × κ

end AsyncClose
