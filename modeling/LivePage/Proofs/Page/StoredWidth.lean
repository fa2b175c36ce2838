import LivePage.Proofs.Binary64.Order
import LivePage.Proofs.Page.Footprint

/-!
# The width that a sidebar keeps

A sidebar keeps one width, the one that it is opened with.  It is the width that is set,
until a drag ends, and then the one at which the last drag ended, in the viewport of that
moment.  Where dragging keeps to the viewport, no drag shows or leaves a width outside of it.
-/

namespace LivePage
namespace Page
namespace Sidebar

variable {s s' : Sidebar} {d d' : Document} {dragged? : Option Binary64}

/-! ## Widths within the viewport -/

/-- A width within the viewport for a pointer position. -/
structure FitsViewport (viewport : Option Binary64) (x width : Binary64) : Prop where
  nonneg : Binary64.le 0 width = true
  le_viewport : ∀ v ∈ viewport, width.le (v.max 0) = true
  /-- A viewport of no width at all leaves none to the sidebar. -/
  eq_zero : ∀ v ∈ viewport, v.isNaN = true ∨ v.lt 0 = true → width.equals 0 = true
  /-- A position within the viewport is followed. -/
  eq_position : Binary64.le 0 x = true → (∀ v ∈ viewport, x.le (v.max 0) = true) →
    width.equals x = true

theorem fitsViewport_clamp {x : Binary64} (hx : x.isNaN = false) (v : Binary64) :
    FitsViewport (some v) x (x.clamp 0 (v.max 0)) := by
  have hzero := Binary64.isNaN_zero
  refine ⟨Binary64.le_clamp_max hx hzero v, ?_, ?_, ?_⟩
  · rintro _ ⟨⟩
    exact Binary64.clamp_max_le hx hzero v
  · rintro _ ⟨⟩ hv
    exact Binary64.clamp_max_equals_bound hx hzero hv
  · intro hleast hmost
    exact Binary64.clamp_max_equals_self hx hzero hleast (hmost v rfl)

theorem fitsViewport_max {x : Binary64} (hx : x.isNaN = false) :
    FitsViewport none x (x.max 0) := by
  have hzero := Binary64.isNaN_zero
  refine ⟨Binary64.le_max hzero x, ?_, ?_, ?_⟩
  · rintro _ ⟨⟩
  · rintro _ ⟨⟩
  · intro hleast _
    exact Binary64.max_equals_self hx hzero hleast

theorem constrain_fits (hclamp : s.options.clampToViewport = true) (d : Document)
    {x : Binary64} (hx : x.isNaN = false) :
    FitsViewport d.viewportWidth x (s.constrain d x) := by
  rw [constrain, if_pos hclamp]
  cases d.viewportWidth with
  | none => exact fitsViewport_max hx
  | some v => exact fitsViewport_clamp hx v

/-! ## One act -/

/-- The width at which an operation ends a drag. -/
def releasedWidth? (s : Sidebar) (d : Document) : Call → Option Binary64
  | .endDrag x => if s.isDragging then some (s.constrain d x) else none
  | .toggle | .beginDrag | .dragTo _ => none

theorem width_call (s : Sidebar) (d : Document) (c : Call) :
    (s.call d c).1.width = (s.releasedWidth? d c).getD s.width := by
  cases c with
  | toggle =>
      rw [call, toggle]
      split_ifs <;> rfl
  | beginDrag =>
      rw [call, beginDrag]
      split_ifs <;> rfl
  | dragTo x =>
      rw [call, dragTo]
      split_ifs <;> rfl
  | endDrag x =>
      rw [call, endDrag, releasedWidth?]
      split_ifs <;> rfl

theorem perform_of_call {p : Sidebar × Document} {act : Act} {c : Call}
    (h : act.call? p.1.hasHandle = some c) : perform p act = p.1.call p.2 c := by
  rw [perform_eq, h]
  rfl

theorem width_perform (p : Sidebar × Document) (act : Act) :
    (perform p act).1.width =
      ((act.call? p.1.hasHandle).bind (p.1.releasedWidth? p.2)).getD p.1.width := by
  rw [perform_eq]
  cases act.call? p.1.hasHandle with
  | none => rfl
  | some c => exact width_call p.1 p.2 c

theorem Steps.options (hstep : Steps s d dragged? s' d') : s'.options = s.options := by
  cases hstep <;> rfl

theorem Steps.reopened (hstep : Steps s d dragged? s' d')
    (helement : d.hasElement elementId = true) (hclosed : s.isOpen = false)
    (hopen : s'.isOpen = true) :
    s'.width = s.width ∧ d'.style elementId "width" = some (pixels s.width) := by
  have hshown : (s.showOpen d).style elementId "width" = some (pixels s.width) := by
    simp [showOpen, Document.removeClass, style_showWidth helement]
  cases hstep with
  | idle | moves | drops =>
      have hboth : s.isOpen = true := hopen
      simp [hclosed] at hboth
  | closes hboth | grabs _ hboth => simp [hclosed] at hboth
  | opens | grabsClosed => exact ⟨rfl, hshown⟩

theorem ofEvent?_dragMove (hasHandle : Bool) (x : Option Binary64) :
    Call.ofEvent? hasHandle ⟨dragMove, x⟩ = x.map .dragTo := by
  rfl

theorem ofEvent?_dragUp (hasHandle : Bool) (x : Option Binary64) :
    Call.ofEvent? hasHandle ⟨dragUp, x⟩ = x.map .endDrag := by
  rfl

/-- What acts do to the width of a sidebar. -/
structure KeepsWidth (p : Sidebar × Document) : Prop where
  kept : ∀ act, (∀ x, act.call? p.1.hasHandle ≠ some (.endDrag x)) →
    (perform p act).1.width = p.1.width
  reopened : ∀ act, p.1.isOpen = false → (perform p act).1.isOpen = true →
    (perform p act).1.width = p.1.width ∧
      (perform p act).2.style elementId "width" = some (pixels p.1.width)
  /-- Nobody minds the pointer while no drag is running. -/
  idle : p.1.isDragging = false → ∀ x,
    perform p (.event ⟨dragMove, x⟩) = p ∧ perform p (.event ⟨dragUp, x⟩) = p
  dragged : p.1.isDragging = true → ∀ act x, act.call? p.1.hasHandle = some (.dragTo x) →
    (perform p act).1.width = p.1.width ∧
      (perform p act).2.style elementId "width" = some (pixels (p.1.constrain p.2 x))
  released : p.1.isDragging = true → ∀ act x, act.call? p.1.hasHandle = some (.endDrag x) →
    (perform p act).1.width = p.1.constrain p.2 x ∧
      (perform p act).2.style elementId "width" = some (pixels (p.1.constrain p.2 x))
  fits : p.1.options.clampToViewport = true → ∀ x, x.isNaN = false →
    FitsViewport p.2.viewportWidth x (p.1.constrain p.2 x)
  /-- Where dragging does not keep to the viewport, it follows the pointer anywhere. -/
  follows : p.1.options.clampToViewport = false → ∀ x, p.1.constrain p.2 x = x

theorem keepsWidth_of_element {p : Sidebar × Document}
    (helement : p.2.hasElement elementId = true) : KeepsWidth p where
  kept := by
    intro act hact
    rw [width_perform]
    cases hcall : act.call? p.1.hasHandle with
    | none => rfl
    | some c =>
        cases c with
        | endDrag x => exact absurd hcall (hact x)
        | toggle | beginDrag | dragTo => rfl
  reopened := by
    intro act hclosed hopen
    exact (perform_steps p act).reopened helement hclosed hopen
  idle := by
    intro hdragging x
    simp only [perform, handle_eq, ofEvent?_dragMove, ofEvent?_dragUp]
    cases x <;> simp [call, dragTo, endDrag, hdragging]
  dragged := by
    intro hdragging act x hcall
    rw [perform_of_call hcall, call, dragTo, if_pos hdragging]
    exact ⟨rfl, style_showWidth helement _⟩
  released := by
    intro hdragging act x hcall
    rw [perform_of_call hcall, call, endDrag, if_pos hdragging]
    exact ⟨rfl, style_showWidth helement _⟩
  fits := by
    intro hclamp x hx
    exact constrain_fits hclamp p.2 hx
  follows := by
    intro hclamp x
    rw [constrain, hclamp]
    rfl

/-! ## Whole runs -/

/-- What can happen to a page: something is done to its sidebar, or the viewport gets
another width. -/
inductive Happening where
  | act (a : Act)
  | resize (viewport : Option Binary64)

/-- A sidebar and its document after something has happened. -/
def meet (p : Sidebar × Document) : Happening → Sidebar × Document
  | .act a => perform p a
  | .resize viewport => (p.1, { p.2 with viewportWidth := viewport })

/-- A sidebar and its document after all that has happened, in order. -/
def meetAll (p : Sidebar × Document) (hs : List Happening) : Sidebar × Document :=
  hs.foldl meet p

def Happening.grip? (hasHandle : Bool) : Happening → Option Bool
  | .act a => a.grip? hasHandle
  | .resize _ => none

def Happening.viewport? : Happening → Option (Option Binary64)
  | .act _ => none
  | .resize viewport => some viewport

/-- The widths at which drags have ended, each in the viewport of its moment. -/
def releases (p : Sidebar × Document) : List Happening → List Binary64
  | [] => []
  | .act a :: hs =>
      ((a.call? p.1.hasHandle).bind (p.1.releasedWidth? p.2)).toList ++
        releases (perform p a) hs
  | .resize viewport :: hs => releases (meet p (.resize viewport)) hs

theorem width_meetAll (p : Sidebar × Document) (hs : List Happening) :
    (meetAll p hs).1.width = (releases p hs).getLast?.getD p.1.width := by
  induction hs generalizing p with
  | nil => rfl
  | cons h hs ih =>
      have hrest := ih (meet p h)
      cases h with
      | act act =>
          simp only [meet, width_perform] at hrest
          refine hrest.trans ?_
          rw [releases]
          cases (act.call? p.1.hasHandle).bind (p.1.releasedWidth? p.2) <;>
            simp [List.getLast?_cons]
      | resize viewport => exact hrest

/-- What no happening changes about a sidebar and its page. -/
structure IsMounted (before : Document) (options : SidebarOptions)
    (p : Sidebar × Document) : Prop where
  exists_element : p.2.hasElement elementId = true
  hasHandle : p.1.hasHandle = before.hasElement handleId
  hasOptions : p.1.options = options

theorem IsMounted.meet {before : Document} {options : SidebarOptions}
    (p : Sidebar × Document) (h : Happening) (hp : IsMounted before options p) :
    IsMounted before options (meet p h) := by
  cases h with
  | act act =>
      have hstep := perform_steps p act
      have helsewhere := hstep.agreesElsewhere (AgreesElsewhere.refl p.2)
      refine ⟨?_, hstep.hasHandle.trans hp.hasHandle, hstep.options.trans hp.hasOptions⟩
      exact (congrFun helsewhere.hasElement elementId).trans hp.exists_element
  | resize viewport => exact ⟨hp.exists_element, hp.hasHandle, hp.hasOptions⟩

theorem viewportWidth_meet (p : Sidebar × Document) (h : Happening) :
    (meet p h).2.viewportWidth = h.viewport?.getD p.2.viewportWidth := by
  cases h with
  | act act =>
      exact ((perform_steps p act).agreesElsewhere (AgreesElsewhere.refl p.2)).viewportWidth
  | resize viewport => rfl

theorem isDragging_meet (p : Sidebar × Document) (h : Happening) :
    (meet p h).1.isDragging = (h.grip? p.1.hasHandle).getD p.1.isDragging := by
  cases h with
  | act act => exact isDragging_perform p act
  | resize viewport => rfl

/-- The width of a sidebar, whether it is dragged, and the viewport, after all that has
happened since it was mounted. -/
structure HasStoredWidth (before : Document) (options : SidebarOptions)
    (p : Sidebar × Document) (hs : List Happening) : Prop where
  hasOptions : (meetAll p hs).1.options = options
  dragging : (meetAll p hs).1.isDragging =
    (hs.filterMap (Happening.grip? (before.hasElement handleId))).getLast?.getD false
  viewportWidth : (meetAll p hs).2.viewportWidth =
    (hs.filterMap Happening.viewport?).getLast?.getD before.viewportWidth
  stored : (meetAll p hs).1.width = (releases p hs).getLast?.getD options.width
  keepsWidth : KeepsWidth (meetAll p hs)

theorem stored_width_after_mount {d : Document} (hsidebar : d.hasElement elementId = true)
    (htoggle : d.hasElement toggleId = true) (options : SidebarOptions) :
    ∃ s d', mount d options = (some s, d') ∧
      ∀ hs, HasStoredWidth d options (s, d') hs := by
  obtain ⟨d', hmount, -, helsewhere⟩ :=
    mount_of_elements (by rw [hsidebar, htoggle]; rfl) options
  refine ⟨mounted d options, d', hmount, ?_⟩
  intro hs
  have hmounted : IsMounted d options (mounted d options, d') :=
    ⟨(congrFun helsewhere.hasElement elementId).trans hsidebar, rfl, rfl⟩
  have hafter : IsMounted d options (meetAll (mounted d options, d') hs) :=
    List.foldlRecOn hs meet hmounted fun p hp h _ => hp.meet p h
  refine ⟨hafter.hasOptions, ?_, ?_, width_meetAll _ hs, ?_⟩
  · refine foldl_last_write (fun p : Sidebar × Document => p.1.isDragging)
      IsMounted.meet ?_ hmounted hs
    intro p h hp
    rw [isDragging_meet, hp.hasHandle]
  · rw [← helsewhere.viewportWidth]
    refine foldl_last_write (fun p : Sidebar × Document => p.2.viewportWidth)
      IsMounted.meet ?_ hmounted hs
    intro p h _
    exact viewportWidth_meet p h
  · exact keepsWidth_of_element hafter.exists_element

/-- A page on which dragging keeps to the viewport, and one on which it does not. -/
theorem stored_width_after_mount_draggablePage :
    draggablePage.hasElement elementId = true ∧ draggablePage.hasElement toggleId = true ∧
      (∃ s d', mount draggablePage { clampToViewport := true } = (some s, d') ∧
        ∀ hs, HasStoredWidth draggablePage { clampToViewport := true } (s, d') hs) ∧
      ∃ s d', mount draggablePage {} = (some s, d') ∧
        ∀ hs, HasStoredWidth draggablePage {} (s, d') hs :=
  ⟨rfl, rfl, stored_width_after_mount (d := draggablePage) rfl rfl { clampToViewport := true },
    stored_width_after_mount (d := draggablePage) rfl rfl {}⟩

/-- The viewport that counts is the one at the end of the drag, if any does. -/
example :
    let widthWith (clampToViewport : Bool) : Binary64 :=
      (meetAll (mounted draggablePage { clampToViewport }, draggablePage)
        [.act (.call .beginDrag), .resize (some 200), .act (.call (.endDrag 250)),
          .resize (some 100)]).1.width
    widthWith true = 200 ∧ widthWith false = 250 := by
  decide +kernel

end Sidebar
end Page
end LivePage
