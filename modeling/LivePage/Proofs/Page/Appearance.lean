import LivePage.Proofs.Page.Operations
import LivePage.Proofs.Page.Writes

/-!
# What is seen of a sidebar

An open sidebar is seen at its width and a closed one is not seen at all, as long as it is
not closed in the middle of a drag.  A drag that goes on then still shows the width of each
pointer position, until the sidebar is opened again.
-/

namespace LivePage
namespace Page
namespace Sidebar

/-! ## What is seen -/

/-- What is seen matches the state of the sidebar. -/
structure IsSeen (s : Sidebar) (d : Document) : Prop where
  closed_width : s.isOpen = false → d.style elementId "width" = some "0px"
  closed_class : s.isOpen = false → d.hasClass elementId closedClass = true
  open_width : s.isOpen = true → s.isDragging = false →
    d.style elementId "width" = some (pixels s.width)
  open_class : s.isOpen = true → s.isDragging = false →
    d.hasClass elementId closedClass = false

/-- What is seen, where a drag may have shown a width of the closed sidebar. -/
structure Shows (s : Sidebar) (d : Document) (stray? : Option Binary64) : Prop where
  exists_element : d.hasElement elementId = true
  hasClass : d.hasClass elementId closedClass = !s.isOpen
  open_width : s.isOpen = true → s.isDragging = false →
    d.style elementId "width" = some (pixels s.width)
  closed_width : s.isOpen = false →
    d.style elementId "width" = some (stray?.elim "0px" pixels)
  not_stray : s.isOpen = true → stray? = none

theorem pixels_zero : pixels 0 = "0px" := by
  decide +kernel

variable {s : Sidebar} {d : Document}

theorem style_showWidth (h : d.hasElement elementId = true) (width : Binary64) :
    (showWidth d width).style elementId "width" = some (pixels width) :=
  d.style_setStyle h "width" (pixels width)

@[simp] theorem hasElement_showWidth (width : Binary64) :
    (showWidth d width).hasElement = d.hasElement :=
  d.hasElement_setStyle elementId "width" (pixels width)

@[simp] theorem hasClass_showWidth (width : Binary64) :
    (showWidth d width).hasClass = d.hasClass :=
  d.hasClass_setStyle elementId "width" (pixels width)

theorem shows_showClosed (h : s.Shows d none) :
    ({ s with isOpen := false } : Sidebar).Shows (showClosed d) none where
  exists_element := by simpa [Sidebar.showClosed, Document.addClass] using h.exists_element
  hasClass := by
    apply Document.hasClass_setClass
    simpa using h.exists_element
  open_width := nofun
  closed_width := fun _ => by
    simp [Sidebar.showClosed, Document.addClass, style_showWidth h.exists_element,
      pixels_zero]
  not_stray := nofun

/-- An open sidebar is shown at its width whatever was seen of it before. -/
theorem shows_showOpen {stray? : Option Binary64} (h : s.Shows d stray?)
    (isDragging : Bool) :
    ({ s with isOpen := true, isDragging } : Sidebar).Shows (s.showOpen d) none where
  exists_element := by simpa [Sidebar.showOpen, Document.removeClass] using h.exists_element
  hasClass := by
    apply Document.hasClass_setClass
    simpa using h.exists_element
  open_width := fun _ _ => by
    simp [Sidebar.showOpen, Document.removeClass, style_showWidth h.exists_element]
  closed_width := nofun
  not_stray := fun _ => rfl

/-- The width that a running drag shows of the closed sidebar, after another operation. -/
def strayNext (isOpen : Bool) (dragged? stray? : Option Binary64) : Option Binary64 :=
  if isOpen then none else dragged?.or stray?

theorem Steps.shows {dragged? stray? : Option Binary64} {s' : Sidebar} {d' : Document}
    (hstep : Steps s d dragged? s' d') (h : s.Shows d stray?) :
    s'.Shows d' (strayNext s'.isOpen dragged? stray?) := by
  cases hstep with
  | idle =>
      cases hopen : s.isOpen with
      | false => exact h
      | true =>
          obtain rfl := h.not_stray hopen
          exact h
  | closes hopen =>
      obtain rfl := h.not_stray hopen
      exact shows_showClosed h
  | opens hopen => exact shows_showOpen h s.isDragging
  | grabs hdragging hopen =>
      exact ⟨h.exists_element, hopen ▸ h.hasClass, nofun, nofun, fun _ => rfl⟩
  | grabsClosed hdragging hopen =>
      have hshown := shows_showOpen h true
      exact ⟨hshown.exists_element, hshown.hasClass, hshown.open_width,
        hshown.closed_width, hshown.not_stray⟩
  | moves hdragging x =>
      refine ⟨by simpa using h.exists_element, by simpa using h.hasClass, ?_, ?_, ?_⟩
      · simp [hdragging]
      · intro hopen
        simp [strayNext, hopen, style_showWidth h.exists_element]
      · intro hopen
        rw [strayNext, if_pos hopen]
  | drops hdragging x =>
      refine ⟨by simpa using h.exists_element, by simpa using h.hasClass, ?_, ?_, ?_⟩
      · simp [style_showWidth h.exists_element]
      · intro hopen
        have hopen : s.isOpen = false := hopen
        simp [strayNext, hopen, style_showWidth h.exists_element]
      · intro hopen
        rw [strayNext, if_pos hopen]

/-- A width is left on a closed sidebar by a drag only. -/
theorem Steps.strayNext_eq_none {dragged? : Option Binary64} {s' : Sidebar}
    {d' : Document} (hstep : Steps s d dragged? s' d')
    (hdrag : s.isOpen = false → s.isDragging = false) :
    strayNext s'.isOpen dragged? none = none := by
  have hopen (hdragging : s.isDragging = true) : s.isOpen = true := by
    cases hopen : s.isOpen with
    | false => simp [hdrag hopen] at hdragging
    | true => rfl
  cases hstep with
  | idle | closes | opens | grabs | grabsClosed => simp [strayNext]
  | moves hdragging | drops hdragging => simp [strayNext, hopen hdragging]

/-! ## Whole runs -/

/-- The width of the last pointer position that a running drag has shown of the sidebar
since it was closed, if it is closed and there was one. -/
def strayWidth? (p : Sidebar × Document) (stray? : Option Binary64) :
    List Act → Option Binary64
  | [] => stray?
  | act :: acts =>
      strayWidth? (perform p act)
        (strayNext (perform p act).1.isOpen (actDraggedWidth? p act) stray?) acts

theorem shows_run {p : Sidebar × Document} {stray? : Option Binary64}
    (h : p.1.Shows p.2 stray?) (acts : List Act) :
    (run p acts).1.Shows (run p acts).2 (strayWidth? p stray? acts) := by
  induction acts generalizing p stray? with
  | nil => exact h
  | cons act acts ih =>
      apply ih
      exact (perform_steps p act).shows h

/-- The sidebar is never closed in the middle of a drag. -/
def IsDraggedOpen (p : Sidebar × Document) (acts : List Act) : Prop :=
  ∀ before, before <+: acts →
    (run p before).1.isOpen = false → (run p before).1.isDragging = false

theorem strayWidth?_eq_none {p : Sidebar × Document} {acts : List Act}
    (h : IsDraggedOpen p acts) : strayWidth? p none acts = none := by
  induction acts generalizing p with
  | nil => rfl
  | cons act acts ih =>
      have hfirst := h [] (List.nil_prefix)
      rw [strayWidth?, (perform_steps p act).strayNext_eq_none hfirst]
      apply ih
      intro before hbefore
      exact h (act :: before) (List.cons_prefix_cons.mpr ⟨rfl, hbefore⟩)

theorem Shows.isSeen (h : s.Shows d none) : IsSeen s d where
  closed_width := h.closed_width
  closed_class := fun hopen => by rw [h.hasClass, hopen]; rfl
  open_width := h.open_width
  open_class := fun hopen _ => by rw [h.hasClass, hopen]; rfl

/-- A sidebar is mounted open and shown at the width that is set. -/
theorem mount_eq_some {d : Document} (hsidebar : d.hasElement elementId = true)
    (htoggle : d.hasElement toggleId = true) (options : SidebarOptions) :
    ∃ s d', mount d options = (some s, d') ∧
      s.isOpen = true ∧ s.isDragging = false ∧ s.width = options.width ∧
      d'.hasElement = d.hasElement ∧ d'.hasClass = d.hasClass ∧
      d'.style elementId "width" = some (pixels options.width) := by
  simp only [mount, hsidebar, htoggle, Bool.and_self, if_true]
  refine ⟨_, _, rfl, rfl, rfl, rfl, ?_, ?_, ?_⟩
  all_goals split_ifs
  all_goals simp [style_showWidth hsidebar]

theorem shows_mount {d : Document} (hsidebar : d.hasElement elementId = true)
    (htoggle : d.hasElement toggleId = true)
    (hclass : d.hasClass elementId closedClass = false) (options : SidebarOptions) :
    ∃ s d', mount d options = (some s, d') ∧ s.Shows d' none := by
  obtain ⟨s, d', hmount, hopen, -, hwidth, helement, hclasses, hstyle⟩ :=
    mount_eq_some hsidebar htoggle options
  refine ⟨s, d', hmount, ?_, ?_, ?_, ?_, ?_⟩
  · rw [helement, hsidebar]
  · rw [hclasses, hclass, hopen]
    rfl
  · intro _ _
    rw [hstyle, hwidth]
  · simp [hopen]
  · intro _
    rfl

/-- What is seen of a sidebar after any acts.  It matches the state, unless the sidebar was
closed in the middle of a drag. -/
structure IsSeenThroughout (p : Sidebar × Document) : Prop where
  shows : ∀ acts, (run p acts).1.Shows (run p acts).2 (strayWidth? p none acts)
  isSeen : ∀ acts, IsDraggedOpen p acts → IsSeen (run p acts).1 (run p acts).2

theorem seen_after_mount {d : Document} (hsidebar : d.hasElement elementId = true)
    (htoggle : d.hasElement toggleId = true)
    (hclass : d.hasClass elementId closedClass = false) (options : SidebarOptions) :
    ∃ s d', mount d options = (some s, d') ∧ IsSeenThroughout (s, d') := by
  obtain ⟨s, d', hmount, hshows⟩ := shows_mount hsidebar htoggle hclass options
  have hrun (acts : List Act) := shows_run (p := (s, d')) hshows acts
  refine ⟨s, d', hmount, hrun, ?_⟩
  intro acts hacts
  have h := hrun acts
  rw [strayWidth?_eq_none hacts] at h
  exact h.isSeen

/-- A page with a sidebar that can be dragged. -/
def draggablePage : Document :=
  ((Document.empty.withElement elementId).withElement toggleId).withElement handleId

theorem seen_after_mount_draggablePage :
    draggablePage.hasElement elementId = true ∧ draggablePage.hasElement toggleId = true ∧
      draggablePage.hasClass elementId closedClass = false ∧
      ∃ s d', mount draggablePage {} = (some s, d') ∧ IsSeenThroughout (s, d') :=
  ⟨rfl, rfl, rfl, seen_after_mount (d := draggablePage) rfl rfl rfl {}⟩

/-- The handle is pressed, the sidebar is closed, and the pointer moves on: the closed
sidebar is seen 120 pixels wide. -/
theorem not_isSeen_of_closed_while_dragged :
    ¬∀ (d : Document) (options : SidebarOptions) (s : Sidebar) (d' : Document)
      (acts : List Act), d.hasElement elementId = true → d.hasElement toggleId = true →
        d.hasClass elementId closedClass = false → mount d options = (some s, d') →
          IsSeen (run (s, d') acts).1 (run (s, d') acts).2 := by
  intro h
  have hseen := h draggablePage {} _ _
    [.event ⟨handleDown, some 300⟩, .event ⟨toggleClick, none⟩, .event ⟨dragMove, some 120⟩]
    rfl rfl rfl rfl
  have hwidth := hseen.closed_width rfl
  exact absurd hwidth (by decide +kernel)

end Sidebar
end Page
end LivePage
