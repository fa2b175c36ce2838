import LivePage.Binary64.Decimal
import LivePage.Page.Document

/-!
# The sidebar

A sidebar can be closed and opened with a button and, if it has a handle, be
dragged to another width.  The document is listened to for pointer events only
while a drag is running.  The width at the end of a drag is the one that the
sidebar has when it is opened again.
-/

namespace LivePage
namespace Page

/-- The width of a sidebar where none is set. -/
def defaultWidth : Binary64 := 300

/-- How a sidebar behaves. -/
structure SidebarOptions where
  /-- The width of the sidebar before it is dragged, in pixels. -/
  width : Binary64 := defaultWidth
  /-- Whether dragging keeps to the viewport. -/
  clampToViewport : Bool := false
  deriving DecidableEq, Repr

/-- A sidebar on a page. -/
structure Sidebar where
  options : SidebarOptions
  isOpen : Bool
  /-- The width that the sidebar has when it is open and not dragged. -/
  width : Binary64
  hasHandle : Bool
  isDragging : Bool
  deriving DecidableEq, Repr

namespace Sidebar

/-- The element that is shown and hidden. -/
def elementId : String := "sidebar"

/-- The button that opens and closes the sidebar. -/
def toggleId : String := "btn-toggle-sidebar"

/-- The handle that the sidebar is dragged by. -/
def handleId : String := "sidebar-handle"

def closedClass : String := "closed"

def toggleClick : Listener := ⟨.element toggleId, .click⟩

def handleDown : Listener := ⟨.element handleId, .pointerDown⟩

def dragMove : Listener := ⟨.document, .pointerMove⟩

def dragUp : Listener := ⟨.document, .pointerUp⟩

/-- A width as the value of a style property. -/
def pixels (width : Binary64) : String :=
  String.ofList width.text ++ "px"

def showWidth (d : Document) (width : Binary64) : Document :=
  d.setStyle elementId "width" (pixels width)

/-- Puts the controls of a sidebar on a page.  The element and its button have to
be there. -/
def mount (d : Document) (options : SidebarOptions) : Option Sidebar × Document :=
  if d.hasElement elementId && d.hasElement toggleId then
    let hasHandle := d.hasElement handleId
    let d := (showWidth d options.width).addListener toggleClick
    let d := if hasHandle then d.addListener handleDown else d
    (some { options, isOpen := true, width := options.width, hasHandle, isDragging := false }, d)
  else (none, d)

/-- The width for a pointer position.  If dragging keeps to the viewport, it is
at least zero and at most the width of the viewport, if that is known. -/
def constrain (s : Sidebar) (d : Document) (x : Binary64) : Binary64 :=
  if s.options.clampToViewport then
    match d.viewportWidth with
    | some width => x.clamp 0 (width.max 0)
    | none => x.max 0
  else x

def showOpen (s : Sidebar) (d : Document) : Document :=
  (showWidth d s.width).removeClass elementId closedClass

def showClosed (d : Document) : Document :=
  (showWidth d 0).addClass elementId closedClass

/-- Opens a closed sidebar and closes an open one. -/
def toggle (s : Sidebar) (d : Document) : Sidebar × Document :=
  if s.isOpen then ({ s with isOpen := false }, showClosed d)
  else ({ s with isOpen := true }, s.showOpen d)

/-- Begins a drag, unless one is running.  A closed sidebar is opened. -/
def beginDrag (s : Sidebar) (d : Document) : Sidebar × Document :=
  if s.isDragging then (s, d)
  else
    let d := if s.isOpen then d else s.showOpen d
    ({ s with isOpen := true, isDragging := true },
      (d.addListener dragMove).addListener dragUp)

/-- Follows the pointer while a drag is running. -/
def dragTo (s : Sidebar) (d : Document) (x : Binary64) : Sidebar × Document :=
  if s.isDragging then (s, showWidth d (s.constrain d x)) else (s, d)

/-- Ends a running drag and keeps its width. -/
def endDrag (s : Sidebar) (d : Document) (x : Binary64) : Sidebar × Document :=
  if s.isDragging then
    let width := s.constrain d x
    ({ s with width, isDragging := false },
      ((showWidth d width).removeListener dragMove).removeListener dragUp)
  else (s, d)

/-- Answers an event, unless it is none of the sidebar's.  Tells whether it did. -/
def handle (s : Sidebar) (d : Document) (e : Event) : Bool × Sidebar × Document :=
  if e.listener = toggleClick then (true, s.toggle d)
  else if e.listener = handleDown then
    if s.hasHandle then (true, s.beginDrag d) else (false, s, d)
  else
    match e.x with
    | none => (false, s, d)
    | some x =>
      if e.listener = dragMove then (true, s.dragTo d x)
      else if e.listener = dragUp then (true, s.endDrag d x)
      else (false, s, d)

end Sidebar
end Page
end LivePage
