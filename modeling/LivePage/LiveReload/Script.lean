import LivePage.LiveReload.Source

/-!
# Scripted event sources

A scripted source plays connections from a list: one that is refused, or one
that is accepted and delivers given frames and faults before it ends.  With the
list used up, every connection is refused.  Reloads and delays do not matter to
it.
-/

namespace LivePage
namespace LiveReload

open EventStream

/-- What a scripted connection delivers in one place. -/
abbrev Delivery := Except Fault Frame

/-- A connection that a script foresees: refused with a fault, or accepted. -/
abbrev ScriptedCall := Except Fault (List Delivery)

/-- A source that plays a script. -/
structure Script where
  calls : List ScriptedCall
  deriving Repr

/-- A connection that plays its part of a script. -/
structure ScriptedConnection where
  deliveries : List Delivery
  isClosed : Bool := false
  deriving Repr

/-- The fault of a connection that no script foresees. -/
def Fault.unscripted : Fault := ⟨.connect, "no scripted connection"⟩

namespace Script

def connect (s : Script) : Except Fault ScriptedConnection × Script :=
  match s.calls with
  | [] => (.error .unscripted, s)
  | .error fault :: calls => (.error fault, { calls })
  | .ok deliveries :: calls => (.ok { deliveries }, { calls })

end Script

namespace ScriptedConnection

def next (c : ScriptedConnection) : Pull Fault × ScriptedConnection :=
  if c.isClosed then (.finished, c)
  else
    match c.deliveries with
    | [] => (.finished, c)
    | .ok frame :: deliveries => (.frame frame, { c with deliveries })
    | .error fault :: deliveries => (.failed fault, { c with deliveries })

theorem length_deliveries_next_lt (c : ScriptedConnection) {frame : Frame}
    (h : c.next.1 = .frame frame) :
    c.next.2.deliveries.length < c.deliveries.length := by
  unfold next at *
  split at h
  · simp at h
  · split at h <;> simp_all

end ScriptedConnection

instance : Outside Script ScriptedConnection where
  connect source _ := source.connect
  next source connection := (connection.next.1, connection.next.2, source)
  close source connection := ({ connection with isClosed := true }, source)
  backlog connection := connection.deliveries.length
  stock source := source.calls.length
  backlog_lt _ connection _ := connection.length_deliveries_next_lt
  reload source := source
  sleep source _ := source

end LiveReload
end LivePage
