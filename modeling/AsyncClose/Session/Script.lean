import AsyncClose.Session.Perform

/-!
Actions carried out, scripted calls included. A scripted call is an operation of the registry's
own retry loop; its attempts may do anything a session can do, calls inside calls included.
-/

namespace AsyncClose

namespace Session

variable {σ β α : Type} [Bench σ]

/-- An attempt of a scripted call as an operation, which adds its report to those before. -/
def scripted (act : Session σ → List (Answer α) × Session σ) (ending : Ending (Option α)) :
    Op σ (Book × List (AttemptReport (Answer α))) (Option α) :=
  fun g (r, book, reports) =>
    let (source, s) := Session.source g.thread ⟨r, book⟩
    let (did, s) := act s
    let report :=
      ⟨g.id, g.fd, source, did, s.registry.size, s.registry.signaled g.id⟩
    (ending, s.registry, s.book, reports ++ [report])

def exhausted : Ending (Option α) := .returned (.ok none)

/-- Makes a blocking call with the given attempts, and one more that does nothing. -/
def run (t : Thread) (fd : Descriptor)
    (ops : List (Op σ (Book × List (AttemptReport (Answer α))) (Option α))) (s : Session σ) :
    Answer α × Session σ :=
  let (ending, r, book, reports) :=
    Registry.run t fd (ops ++ [scripted (fun s => ([], s)) exhausted]) (s.registry, s.book, [])
  (.ran (ending.getD exhausted) reports, ⟨r, book⟩)

def mentionAll (ts : List Thread) (s : Session σ) : Session σ :=
  { s with book := ts.foldl Book.mention s.book }

mutual

def act (perform : β → Session σ → Answer α × Session σ) :
    Action β α → Session σ → Answer α × Session σ
  | .request named what, s => perform what (s.mentionAll named)
  | .run t fd script, s => (s.mentionAll [t]).run t fd (attempts perform script)

def actAll (perform : β → Session σ → Answer α × Session σ) :
    List (Action β α) → Session σ → List (Answer α) × Session σ
  | [], s => ([], s)
  | a :: rest, s =>
    let (x, s) := act perform a s
    let (xs, s) := actAll perform rest s
    (x :: xs, s)

def attempts (perform : β → Session σ → Answer α × Session σ) :
    List (Attempt β α) → List (Op σ (Book × List (AttemptReport (Answer α))) (Option α))
  | [] => []
  | .mk actions ending :: rest =>
    scripted (actAll perform actions) ending :: attempts perform rest

end

/-- Ends every thread: by label, each drops the guards it still holds. -/
def finish (s : Session σ) : Session σ :=
  s.book.sortedThreads.foldl (fun s t => s.dropHeld t) s

end Session

end AsyncClose
