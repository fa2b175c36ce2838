import Mathlib.Tactic.SplitIfs
import LivePage.Page.Sidebar

/-!
# What can be done to a sidebar

A sidebar is operated by calls or by events, and every event comes to a call or to nothing.
There are seven things that a call can do to a sidebar and its document.
-/

namespace LivePage
namespace Page
namespace Sidebar

/-! ## Calls and events -/

/-- The operations of a mounted sidebar. -/
inductive Call where
  | toggle
  | beginDrag
  | dragTo (x : Binary64)
  | endDrag (x : Binary64)

/-- Carries out an operation. -/
def call (s : Sidebar) (d : Document) : Call → Sidebar × Document
  | .toggle => s.toggle d
  | .beginDrag => s.beginDrag d
  | .dragTo x => s.dragTo d x
  | .endDrag x => s.endDrag d x

/-- The operation that an event stands for. -/
def Call.ofEvent? (hasHandle : Bool) (e : Event) : Option Call :=
  if e.listener = toggleClick then some .toggle
  else if e.listener = handleDown then if hasHandle then some .beginDrag else none
  else if e.listener = dragMove then e.x.map .dragTo
  else if e.listener = dragUp then e.x.map .endDrag
  else none

theorem handle_eq (s : Sidebar) (d : Document) (e : Event) :
    s.handle d e =
      match Call.ofEvent? s.hasHandle e with
      | some c => (true, s.call d c)
      | none => (false, s, d) := by
  unfold handle Call.ofEvent?
  cases e.x with
  | none => split_ifs <;> rfl
  | some x => split_ifs <;> rfl

/-- An operation, or an event that is given to the sidebar. -/
inductive Act where
  | call (c : Call)
  | event (e : Event)

/-- The operation that comes of an act, if any does. -/
def Act.call? (hasHandle : Bool) : Act → Option Call
  | .call c => some c
  | .event e => Call.ofEvent? hasHandle e

/-- A sidebar and its document after an act. -/
def perform (p : Sidebar × Document) : Act → Sidebar × Document
  | .call c => p.1.call p.2 c
  | .event e => (p.1.handle p.2 e).2

/-- A sidebar and its document after some acts, in order. -/
def run (p : Sidebar × Document) (acts : List Act) : Sidebar × Document :=
  acts.foldl perform p

theorem perform_eq (p : Sidebar × Document) (act : Act) :
    perform p act = ((act.call? p.1.hasHandle).map (p.1.call p.2)).getD p := by
  cases act with
  | call c => rfl
  | event e =>
      rw [perform, handle_eq, Act.call?]
      cases Call.ofEvent? p.1.hasHandle e <;> rfl

/-! ## What a call does -/

/-- The width that an operation shows because of a drag that is running. -/
def draggedWidth? (s : Sidebar) (d : Document) : Call → Option Binary64
  | .dragTo x | .endDrag x => if s.isDragging then some (s.constrain d x) else none
  | .toggle | .beginDrag => none

/-- All that an operation can do to a sidebar and its document. -/
inductive Steps (s : Sidebar) (d : Document) :
    Option Binary64 → Sidebar → Document → Prop where
  | idle : Steps s d none s d
  | closes (hopen : s.isOpen = true) :
      Steps s d none { s with isOpen := false } (showClosed d)
  | opens (hopen : s.isOpen = false) :
      Steps s d none { s with isOpen := true } (s.showOpen d)
  | grabs (hdragging : s.isDragging = false) (hopen : s.isOpen = true) :
      Steps s d none { s with isOpen := true, isDragging := true }
        ((d.addListener dragMove).addListener dragUp)
  | grabsClosed (hdragging : s.isDragging = false) (hopen : s.isOpen = false) :
      Steps s d none { s with isOpen := true, isDragging := true }
        (((s.showOpen d).addListener dragMove).addListener dragUp)
  | moves (hdragging : s.isDragging = true) (x : Binary64) :
      Steps s d (some (s.constrain d x)) s (showWidth d (s.constrain d x))
  | drops (hdragging : s.isDragging = true) (x : Binary64) :
      Steps s d (some (s.constrain d x))
        { s with width := s.constrain d x, isDragging := false }
        (((showWidth d (s.constrain d x)).removeListener dragMove).removeListener dragUp)

theorem call_steps (s : Sidebar) (d : Document) (c : Call) :
    Steps s d (s.draggedWidth? d c) (s.call d c).1 (s.call d c).2 := by
  cases c with
  | toggle =>
      rw [call, toggle]
      split_ifs with hopen
      · exact .closes hopen
      · exact .opens (eq_false_of_ne_true hopen)
  | beginDrag =>
      rw [call, beginDrag]
      split_ifs with hdragging hopen
      · exact .idle
      · exact .grabs (eq_false_of_ne_true hdragging) hopen
      · exact .grabsClosed (eq_false_of_ne_true hdragging) (eq_false_of_ne_true hopen)
  | dragTo x =>
      rw [call, dragTo, draggedWidth?]
      split_ifs with hdragging
      · exact .moves hdragging x
      · exact .idle
  | endDrag x =>
      rw [call, endDrag, draggedWidth?]
      split_ifs with hdragging
      · exact .drops hdragging x
      · exact .idle

/-- The width that an act shows because of a drag that is running. -/
def actDraggedWidth? (p : Sidebar × Document) (act : Act) : Option Binary64 :=
  (act.call? p.1.hasHandle).bind (p.1.draggedWidth? p.2)

theorem perform_steps (p : Sidebar × Document) (act : Act) :
    Steps p.1 p.2 (actDraggedWidth? p act) (perform p act).1 (perform p act).2 := by
  rw [perform_eq, actDraggedWidth?]
  cases act.call? p.1.hasHandle with
  | none => exact .idle
  | some c => exact call_steps p.1 p.2 c

end Sidebar
end Page
end LivePage
