import LivePage.Binary64.Seconds

/-!
# Reconnection policies

A policy says how long to wait before each reconnection in a row, and when to
stop.  Backoff grows the delay by a factor from one reconnection to the next, in
binary64 seconds, up to a greatest delay.
-/

namespace LivePage
namespace LiveReload

/-- How a dropped connection is answered. -/
inductive ReconnectPolicy where
  /-- The first failure is final. -/
  | never
  /-- Reconnect after the delay that the server asked for last, or else after
  this one. -/
  | fixed (delay : Duration) (maxAttempts : Option UInt32)
  /-- Reconnect after delays that grow by a factor. -/
  | backoff (initial greatest : Duration) (factor : Binary64) (maxAttempts : Option UInt32)
  deriving DecidableEq, Repr

namespace ReconnectPolicy

/-- The delay before a reconnection where none is set. -/
def defaultDelay : Duration := .ofMillis 3000

/-- The policy where none is set: reconnect without end. -/
def standard : ReconnectPolicy := .fixed defaultDelay none

/-- The number of reconnections in a row that a policy allows, if it is
limited. -/
def limit? : ReconnectPolicy → Option UInt32
  | .never => some 0
  | .fixed _ maxAttempts => maxAttempts
  | .backoff _ _ _ maxAttempts => maxAttempts

/-- Whether a limit allows the given reconnection in a row. -/
def allows (maxAttempts : Option UInt32) (attempt : UInt32) : Bool :=
  match maxAttempts with
  | none => true
  | some most => attempt ≤ most

/-- How often the factor goes into the delay of the given reconnection in a
row. -/
def growth (attempt : UInt32) : Nat :=
  min (attempt.toNat - 1) 0x7FFFFFFF

/-- The seconds of a grown delay before it is cut off.  A factor below one counts
as one. -/
def backoffSeconds (initial : Duration) (factor : Binary64) (attempt : UInt32) : Binary64 :=
  initial.toSeconds.mul ((factor.max 1).pow (growth attempt))

/-- The delay before the given reconnection in a row: the grown delay, or the
greatest one where the growth reaches it. -/
def backoffDelay (initial greatest : Duration) (factor : Binary64) (attempt : UInt32) :
    Duration :=
  let seconds := backoffSeconds initial factor attempt
  if !seconds.isFinite || greatest.toSeconds.le seconds then greatest
  else (Duration.ofSeconds? seconds).getD greatest

/-- The delay before the given reconnection in a row, counted from one, or
`none` to give up. -/
def delay? (policy : ReconnectPolicy) (attempt : UInt32) (serverRetry : Option Duration) :
    Option Duration :=
  match policy with
  | .never => none
  | .fixed delay maxAttempts =>
    if allows maxAttempts attempt then some (serverRetry.getD delay) else none
  | .backoff initial greatest factor maxAttempts =>
    if allows maxAttempts attempt then some (backoffDelay initial greatest factor attempt)
    else none

end ReconnectPolicy
end LiveReload
end LivePage
