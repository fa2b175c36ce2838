/-!
# Faults of a connection

Why a connection could not be opened or did not last, and whether opening
another one can help.
-/

namespace LivePage
namespace LiveReload

/-- The kinds of fault. -/
inductive FaultKind where
  /-- No connection could be established. -/
  | connect
  /-- The server answered with a status other than success. -/
  | status (code : UInt16)
  /-- The answer is no event stream. -/
  | protocol
  /-- Reading failed. -/
  | read
  /-- The server ended the stream. -/
  | closed
  deriving DecidableEq, Repr

def FaultKind.text : FaultKind → String
  | .connect => "Connection failed"
  | .status code => "HTTP status " ++ toString code.toNat
  | .protocol => "Protocol error"
  | .read => "Read error"
  | .closed => "Stream closed"

/-- A fault of a connection. -/
structure Fault where
  kind : FaultKind
  message : String
  deriving DecidableEq, Repr

namespace Fault

def text (f : Fault) : String :=
  f.kind.text ++ ": " ++ f.message

def endOfStream : Fault := ⟨.closed, "end of stream"⟩

/-- Whether another connection can help.  A server that answers, but not with an
event stream, will do so again. -/
def isRetryable (f : Fault) : Bool :=
  match f.kind with
  | .connect | .read | .closed => true
  | .status _ | .protocol => false

end Fault
end LiveReload
end LivePage
