import AsyncClose.Session.Basic

/-!
What a session shows of itself between two actions.
-/

namespace AsyncClose

structure Report where
  size : Nat
  isEmpty : Bool
  blocked : List (GuardId × Entry)
  /-- The calls since the last report. -/
  calls? : Option (List Call)
  /-- Who owns which pair, by thread. -/
  owners? : Option (List (Thread × Nat))
  /-- Every pair that has a number. -/
  pairs? : Option (List WakePair)
  /-- The events since the last report, in writing. -/
  log : List String

namespace Session

variable {σ : Type} [Bench σ]

/-- Numbers the pairs of all threads that own a channel, by thread. -/
def owners (channels : ThreadMap Channel) (b : Book) : List (Thread × Nat) × Book :=
  b.sortedThreads.foldl
    (fun s t =>
      match channels.get? t with
      | none => s
      | some c =>
        let (n, b) := s.2.number c.pair
        (s.1 ++ [(t, n)], b))
    ([], b)

/-- Reports, and starts new records of calls and events. A brief report numbers no pairs. -/
def report (brief : Bool) (s : Session σ) : Report × Session σ :=
  let r := s.registry
  let (owners?, book) :=
    match Bench.channels? r.mechanism with
    | none => (none, s.book)
    | some channels =>
      if brief then (none, s.book)
      else
        let (os, b) := owners channels s.book
        (some os, b)
  let (calls?, m) := Bench.takeCalls r.mechanism
  let pairs := Bench.pairs m
  (⟨r.size, r.isEmpty, r.blocked, calls?, owners?,
      owners?.map fun _ => book.reported.filterMap fun p => pairs[p.index]?,
      r.log.map fun e => (e.line book.sourceName).text⟩,
    ⟨{ r with mechanism := m, log := [] }, book⟩)

end Session

end AsyncClose
