import AsyncClose.Failure.Basic
import AsyncClose.Text.Shape

/-!
What a failure says about itself: one line for people (`display`), its form part by part
(`shape`), and the chain of causes behind it (`causes`).

A wrapped call error is transparent: it shows as the error itself and its cause is that error's.
A boxed payload replaces its box in the text and is skipped in the chain. So only a failed setup
adds a cause.
-/

namespace AsyncClose

open Text

/-- What a failed setup says before it says why. -/
def setupFailedText : String := "setting blocked thread signal handler failed: "

mutual

def CallError.display : CallError → String
  | .os n => n.text ++ " (os error " ++ toString n.code ++ ")"
  | .plain k => k.description
  | .message _ s => s
  | .boxed _ e => e.display

def CloseError.display : CloseError → String
  | .alreadySetUp => "closewake is already initialized"
  | .setupFailed e => setupFailedText ++ e.display
  | .call e => e.display
  | .closed => "descriptor closed while blocked on it"

end

mutual

def CallError.cause? : CallError → Option CallError
  | .os _ => none
  | .plain _ => none
  | .message _ _ => none
  | .boxed _ e => e.cause?

def CloseError.cause? : CloseError → Option CallError
  | .alreadySetUp => none
  | .setupFailed e => some e
  | .call e => e.cause?
  | .closed => none

end

mutual

def CallError.causes : CallError → List CallError
  | .os _ => []
  | .plain _ => []
  | .message _ _ => []
  | .boxed _ e => e.causes

def CloseError.causes : CloseError → List CallError
  | .alreadySetUp => []
  | .setupFailed e => e :: e.causes
  | .call e => e.causes
  | .closed => []

end

mutual

/-- The chain is the direct cause followed by the chain of that cause. -/
theorem CallError.causes_eq (e : CallError) :
    e.causes = (match e.cause? with | none => [] | some c => c :: c.causes) := by
  cases e with
  | os => rfl
  | plain => rfl
  | message => rfl
  | boxed k p => simpa only [CallError.causes, CallError.cause?] using p.causes_eq

theorem CloseError.causes_eq (e : CloseError) :
    e.causes = (match e.cause? with | none => [] | some c => c :: c.causes) := by
  cases e with
  | alreadySetUp => rfl
  | setupFailed => rfl
  | call c => simpa only [CloseError.causes, CloseError.cause?] using c.causes_eq
  | closed => rfl

end

mutual

def CallError.shape : CallError → Shape
  | .os n =>
    .record "Os"
      [("code", .word (toString n.code)), ("kind", .word n.kind.name),
        ("message", .word (quoted n.text))]
  | .plain k => .tuple "Kind" [.word k.name]
  | .message k s => .record "Custom" [("kind", .word k.name), ("error", .word (quoted s))]
  | .boxed k e => .record "Custom" [("kind", .word k.name), ("error", e.shape)]

def CloseError.shape : CloseError → Shape
  | .alreadySetUp => .word "AlreadyInit"
  | .setupFailed e => .tuple "InstallHandler" [e.shape]
  | .call e => .tuple "Io" [e.shape]
  | .closed => .word "Closed"

end

/-- What an error carries besides its kind, and what it shows. -/
inductive Payload where
  | text (s : String)
  | failure (e : CloseError)

/-- What an error was made with besides its kind. -/
def CallError.payload? : CallError → Option Payload
  | .os _ => none
  | .plain _ => none
  | .message _ s => some (.text s)
  | .boxed _ e => some (.failure e)

def Payload.display : Payload → String
  | .text s => s
  | .failure e => e.display

end AsyncClose
