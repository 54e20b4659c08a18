import AsyncClose.Failure.Errno

/-!
Failures. A failed input or output call reports a `CallError`; this library's own operations
report a `CloseError`. Each can hold the other: a `CallError` may box a `CloseError` as its
payload, and a `CloseError` may be caused by a `CallError`, to any depth.

The two convert into each other. A boxed close report stays recognisable however often it is
converted, because wrapping a `CallError` and unwrapping it again are inverse.
-/

namespace AsyncClose

mutual

inductive CallError where
  /-- The operating system refused the call. -/
  | os (errno : Errno)
  /-- Only the kind is known. -/
  | plain (kind : ErrorKind)
  /-- A kind with a text of its own. -/
  | message (kind : ErrorKind) (text : String)
  /-- A kind with a failure of this library as payload. -/
  | boxed (kind : ErrorKind) (payload : CloseError)

inductive CloseError where
  /-- The process-wide registry was set up before. -/
  | alreadySetUp
  /-- The machinery that interrupts blocked threads could not be set up. -/
  | setupFailed (cause : CallError)
  /-- The guarded call itself failed. -/
  | call (cause : CallError)
  /-- The descriptor was closed under the call. -/
  | closed

end

deriving instance DecidableEq for CallError, CloseError

namespace CallError

/-- The kind of an error: the one it was made with, or its number's. -/
def kind : CallError → ErrorKind
  | os n => n.kind
  | plain k => k
  | message k _ => k
  | boxed k _ => k

def errno? : CallError → Option Errno
  | os n => some n
  | _ => none

/-- Whether the error reports that the descriptor was closed. Only the direct payload counts. -/
def isClosed : CallError → Bool
  | boxed _ .closed => true
  | _ => false

def isInterrupted (e : CallError) : Bool := e.kind = .interrupted

end CallError

namespace CloseError

/-- The failure as the error of a call. A failure of the guarded call is that call's error;
any other is boxed. -/
def toCall : CloseError → CallError
  | call e => e
  | alreadySetUp => .boxed .other .alreadySetUp
  | setupFailed e => .boxed .other (.setupFailed e)
  | closed => .boxed .other .closed

def name : CloseError → String
  | alreadySetUp => "AlreadyInit"
  | setupFailed _ => "InstallHandler"
  | call _ => "Io"
  | closed => "Closed"

/-- Wrapping an error and unwrapping it again gives the error itself. -/
@[simp] theorem toCall_call (e : CallError) : (call e).toCall = e := rfl

end CloseError

end AsyncClose
