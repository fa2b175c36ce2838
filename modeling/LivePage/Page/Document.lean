import LivePage.Binary64.Basic

/-!
# Documents

A document has elements, known by their ids, with inline styles and classes; a
root with attributes; and the listeners registered on it.  What is done to an
element that does not exist has no effect.
-/

namespace LivePage
namespace Page

/-- The function `f` with the value at `a` replaced by `b`. -/
def assign {α β : Type} [DecidableEq α] (f : α → β) (a : α) (b : β) : α → β :=
  fun x => if x = a then b else f x

/-- The kinds of event that can be listened to. -/
inductive EventKind where
  | click
  | pointerDown
  | pointerMove
  | pointerUp
  deriving DecidableEq, Repr

namespace EventKind

def all : List EventKind := [.click, .pointerDown, .pointerMove, .pointerUp]

/-- The name of a kind of event. -/
def name : EventKind → String
  | .click => "click"
  | .pointerDown => "pointerdown"
  | .pointerMove => "pointermove"
  | .pointerUp => "pointerup"

/-- The kind of event with a given name. -/
def ofName? (name : String) : Option EventKind :=
  all.find? (·.name = name)

end EventKind

/-- What a listener is attached to. -/
inductive Target where
  | element (id : String)
  | document
  deriving DecidableEq, Repr

/-- The registration of interest in one kind of event on one target. -/
structure Listener where
  target : Target
  kind : EventKind
  deriving DecidableEq, Repr

/-- An event, with the horizontal position of the pointer if it has one. -/
structure Event where
  listener : Listener
  x : Option Binary64 := none
  deriving DecidableEq, Repr

/-- A document. -/
structure Document where
  hasElement : String → Bool
  /-- Inline styles, by element and property. -/
  style : String → String → Option String
  /-- Classes, by element and class name. -/
  hasClass : String → String → Bool
  /-- Attributes of the root. -/
  rootAttribute : String → Option String
  /-- Listeners in the order of their registration. -/
  listeners : List Listener
  /-- The number of styles, classes and root attributes written or removed. -/
  mutations : Nat
  /-- The width of the viewport, if it is known. -/
  viewportWidth : Option Binary64

namespace Document

def empty : Document where
  hasElement _ := false
  style _ _ := none
  hasClass _ _ := false
  rootAttribute _ := none
  listeners := []
  mutations := 0
  viewportWidth := none

/-- Puts an element into the document as it is loaded. -/
def withElement (d : Document) (id : String) : Document :=
  { d with hasElement := assign d.hasElement id true }

/-- Gives the root an attribute as the document is loaded. -/
def withRootAttribute (d : Document) (name value : String) : Document :=
  { d with rootAttribute := assign d.rootAttribute name (some value) }

/-- Sets an inline style property of an element. -/
def setStyle (d : Document) (id property value : String) : Document :=
  if d.hasElement id then
    { d with
      style := assign d.style id (assign (d.style id) property (some value))
      mutations := d.mutations + 1 }
  else d

/-- Sets or removes a class of an element. -/
def setClass (d : Document) (id name : String) (present : Bool) : Document :=
  if d.hasElement id then
    { d with
      hasClass := assign d.hasClass id (assign (d.hasClass id) name present)
      mutations := d.mutations + 1 }
  else d

def addClass (d : Document) (id name : String) : Document :=
  d.setClass id name true

def removeClass (d : Document) (id name : String) : Document :=
  d.setClass id name false

def setRootAttribute (d : Document) (name value : String) : Document :=
  { d with
    rootAttribute := assign d.rootAttribute name (some value)
    mutations := d.mutations + 1 }

/-- Registers a listener once more. -/
def addListener (d : Document) (l : Listener) : Document :=
  { d with listeners := d.listeners ++ [l] }

/-- Takes back the first registration of a listener. -/
def removeListener (d : Document) (l : Listener) : Document :=
  { d with listeners := d.listeners.erase l }

end Document
end Page
end LivePage
