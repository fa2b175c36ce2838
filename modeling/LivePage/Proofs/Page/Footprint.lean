import LivePage.Proofs.Page.Appearance

/-!
# What a sidebar touches of its page

Whatever is done to a mounted sidebar, the listeners that it has registered are those of its
controls and, while a drag is running, those of the drag.  Of the rest of the page it
changes nothing but the inline width and one class of its element.
-/

namespace LivePage
namespace Page
namespace Sidebar

variable {s s' : Sidebar} {d d' d'' : Document} {dragged? : Option Binary64}

/-! ## Drags -/

/-- Whether an operation begins a drag or ends one. -/
def Call.grip? : Call → Option Bool
  | .beginDrag => some true
  | .endDrag _ => some false
  | .toggle | .dragTo _ => none

def Act.grip? (hasHandle : Bool) (act : Act) : Option Bool :=
  (act.call? hasHandle).bind Call.grip?

/-- Whether a drag is running after some acts.  The last one of them that begins or ends a
drag decides. -/
def isDraggedAfter (hasHandle : Bool) (acts : List Act) : Bool :=
  (acts.filterMap (Act.grip? hasHandle)).getLast?.getD false

theorem isDragging_call (s : Sidebar) (d : Document) (c : Call) :
    (s.call d c).1.isDragging = c.grip?.getD s.isDragging := by
  cases c with
  | toggle =>
      rw [call, toggle]
      split_ifs <;> rfl
  | beginDrag =>
      rw [call, beginDrag]
      split_ifs with hdragging
      · exact hdragging
      all_goals rfl
  | dragTo x =>
      rw [call, dragTo]
      split_ifs <;> rfl
  | endDrag x =>
      rw [call, endDrag]
      split_ifs with hdragging
      · rfl
      · exact eq_false_of_ne_true hdragging

theorem isDragging_perform (p : Sidebar × Document) (act : Act) :
    (perform p act).1.isDragging = (act.grip? p.1.hasHandle).getD p.1.isDragging := by
  rw [perform_eq, Act.grip?]
  cases act.call? p.1.hasHandle with
  | none => rfl
  | some c => exact isDragging_call p.1 p.2 c

theorem Steps.hasHandle (hstep : Steps s d dragged? s' d') : s'.hasHandle = s.hasHandle := by
  cases hstep <;> rfl

theorem hasHandle_run (p : Sidebar × Document) (acts : List Act) :
    (run p acts).1.hasHandle = p.1.hasHandle := by
  induction acts generalizing p with
  | nil => rfl
  | cons act acts ih => exact (ih (perform p act)).trans (perform_steps p act).hasHandle

theorem isDragging_run (p : Sidebar × Document) (acts : List Act) :
    (run p acts).1.isDragging =
      (acts.filterMap (Act.grip? p.1.hasHandle)).getLast?.getD p.1.isDragging := by
  have hkept (q : Sidebar × Document) (act : Act) (hq : q.1.hasHandle = p.1.hasHandle) :
      (perform q act).1.hasHandle = p.1.hasHandle :=
    (perform_steps q act).hasHandle.trans hq
  refine foldl_last_write (fun q : Sidebar × Document => q.1.isDragging) hkept ?_ rfl acts
  intro q act hq
  rw [isDragging_perform, hq]

/-! ## Listeners -/

/-- The listeners that a sidebar needs: those of its controls, and those of a drag. -/
def ownListeners (hasHandle isDragging : Bool) : List Listener :=
  (if hasHandle then [toggleClick, handleDown] else [toggleClick]) ++
    if isDragging then [dragMove, dragUp] else []

theorem ownListeners_true (hasHandle : Bool) :
    ownListeners hasHandle true = ownListeners hasHandle false ++ [dragMove, dragUp] := by
  simp [ownListeners]

theorem erase_erase_perm {α : Type} [DecidableEq α] (l : List α) (a b : α) :
    (((l ++ [a, b]).erase a).erase b).Perm l := by
  have hcomm : (l ++ [a, b]).Perm (a :: b :: l) := List.perm_append_comm
  simpa using (hcomm.erase a).erase b

theorem Steps.listeners {before : List Listener} (hstep : Steps s d dragged? s' d')
    (h : d.listeners.Perm (before ++ ownListeners s.hasHandle s.isDragging)) :
    d'.listeners.Perm (before ++ ownListeners s'.hasHandle s'.isDragging) := by
  have begun {d : Document} (hdragging : s.isDragging = false)
      (h : d.listeners.Perm (before ++ ownListeners s.hasHandle s.isDragging)) :
      ((d.addListener dragMove).addListener dragUp).listeners.Perm
        (before ++ ownListeners s.hasHandle true) := by
    rw [ownListeners_true, ← List.append_assoc, ← hdragging]
    simpa using h.append_right [dragMove, dragUp]
  cases hstep with
  | idle => exact h
  | closes hopen => simpa [showClosed, showWidth, Document.addClass] using h
  | opens hopen => simpa [showOpen, showWidth, Document.removeClass] using h
  | grabs hdragging hopen => exact begun hdragging h
  | grabsClosed hdragging hopen =>
      apply begun hdragging
      simpa [showOpen, showWidth, Document.removeClass] using h
  | moves hdragging x => simpa [showWidth] using h
  | drops hdragging x =>
      rw [hdragging, ownListeners_true, ← List.append_assoc] at h
      have herased := (h.erase dragMove).erase dragUp
      simpa [showWidth] using herased.trans (erase_erase_perm _ dragMove dragUp)

/-! ## The rest of the page -/

/-- Two documents agree in all but their listeners, their counts of writes, and the width
and the class that a sidebar writes. -/
structure AgreesElsewhere (d d' : Document) : Prop where
  hasElement : d'.hasElement = d.hasElement
  style : ∀ id property, ¬(id = elementId ∧ property = "width") →
    d'.style id property = d.style id property
  hasClass : ∀ id name, ¬(id = elementId ∧ name = closedClass) →
    d'.hasClass id name = d.hasClass id name
  rootAttribute : d'.rootAttribute = d.rootAttribute
  viewportWidth : d'.viewportWidth = d.viewportWidth

namespace AgreesElsewhere

theorem refl (d : Document) : AgreesElsewhere d d :=
  ⟨rfl, fun _ _ _ => rfl, fun _ _ _ => rfl, rfl, rfl⟩

theorem showWidth (h : AgreesElsewhere d d') (width : Binary64) :
    AgreesElsewhere d (showWidth d' width) where
  hasElement := (d'.hasElement_setStyle ..).trans h.hasElement
  style := by
    intro id property hne
    rw [Sidebar.showWidth, d'.style_setStyle_of_ne hne, h.style id property hne]
  hasClass := by
    intro id name hne
    rw [Sidebar.showWidth, d'.hasClass_setStyle, h.hasClass id name hne]
  rootAttribute := (d'.rootAttribute_setStyle ..).trans h.rootAttribute
  viewportWidth := (d'.viewportWidth_setStyle ..).trans h.viewportWidth

theorem setClosed (h : AgreesElsewhere d d') (isClosed : Bool) :
    AgreesElsewhere d (d'.setClass elementId closedClass isClosed) where
  hasElement := (d'.hasElement_setClass ..).trans h.hasElement
  style := by
    intro id property hne
    rw [d'.style_setClass, h.style id property hne]
  hasClass := by
    intro id name hne
    rw [d'.hasClass_setClass_of_ne hne, h.hasClass id name hne]
  rootAttribute := (d'.rootAttribute_setClass ..).trans h.rootAttribute
  viewportWidth := (d'.viewportWidth_setClass ..).trans h.viewportWidth

theorem addListener (h : AgreesElsewhere d d') (l : Listener) :
    AgreesElsewhere d (d'.addListener l) :=
  ⟨h.hasElement, h.style, h.hasClass, h.rootAttribute, h.viewportWidth⟩

theorem removeListener (h : AgreesElsewhere d d') (l : Listener) :
    AgreesElsewhere d (d'.removeListener l) :=
  ⟨h.hasElement, h.style, h.hasClass, h.rootAttribute, h.viewportWidth⟩

end AgreesElsewhere

theorem Steps.agreesElsewhere {before : Document} (hstep : Steps s d dragged? s' d')
    (h : AgreesElsewhere before d) : AgreesElsewhere before d' := by
  cases hstep with
  | idle => exact h
  | closes | opens => exact (h.showWidth _).setClosed _
  | grabs => exact (h.addListener _).addListener _
  | grabsClosed => exact (((h.showWidth _).setClosed _).addListener _).addListener _
  | moves => exact h.showWidth _
  | drops => exact ((h.showWidth _).removeListener _).removeListener _

/-! ## Whole runs -/

/-- The listeners that are registered beside others, and the rest of a page, as a sidebar
leaves them. -/
structure LeavesTidy (before : Document) (p : Sidebar × Document) : Prop where
  listeners : p.2.listeners.Perm
    (before.listeners ++ ownListeners p.1.hasHandle p.1.isDragging)
  elsewhere : AgreesElsewhere before p.2

theorem LeavesTidy.run {before : Document} {p : Sidebar × Document}
    (h : LeavesTidy before p) (acts : List Act) : LeavesTidy before (run p acts) := by
  induction acts generalizing p with
  | nil => exact h
  | cons act acts ih =>
      have hstep := perform_steps p act
      exact ih ⟨hstep.listeners h.listeners, hstep.agreesElsewhere h.elsewhere⟩

/-- A sidebar as it is mounted. -/
def mounted (d : Document) (options : SidebarOptions) : Sidebar where
  options := options
  isOpen := true
  width := options.width
  hasHandle := d.hasElement handleId
  isDragging := false

theorem mount_of_elements (helements : (d.hasElement elementId && d.hasElement toggleId) = true)
    (options : SidebarOptions) :
    ∃ d', mount d options = (some (mounted d options), d') ∧
      LeavesTidy d (mounted d options, d') := by
  have hshown := (AgreesElsewhere.refl d).showWidth options.width
  rw [mount, if_pos helements]
  refine ⟨_, rfl, ?_, ?_⟩
  · cases hhandle : d.hasElement handleId <;>
      simp [mounted, hhandle, Sidebar.showWidth, ownListeners]
  · cases d.hasElement handleId with
    | false => exact hshown.addListener _
    | true => exact (hshown.addListener _).addListener _

/-- What holds of a page after its sidebar was mounted and some acts. -/
structure IsTidy (before : Document) (acts : List Act) (p : Sidebar × Document) : Prop where
  dragging : p.1.isDragging = isDraggedAfter (before.hasElement handleId) acts
  listeners : p.2.listeners.Perm
    (before.listeners ++ ownListeners (before.hasElement handleId) p.1.isDragging)
  closed_class : before.hasClass elementId closedClass = false →
    p.2.hasClass elementId closedClass = !p.1.isOpen
  elsewhere : AgreesElsewhere before p.2

/-- A sidebar is mounted if its element and its button are there, and then it keeps its page
tidy.  Otherwise the page stays as it is. -/
theorem tidy_after_mount (d : Document) (options : SidebarOptions) :
    if d.hasElement elementId && d.hasElement toggleId then
      ∃ s d', mount d options = (some s, d') ∧ ∀ acts, IsTidy d acts (run (s, d') acts)
    else mount d options = (none, d) := by
  split
  next helements =>
    obtain ⟨d', hmount, htidy⟩ := mount_of_elements helements options
    refine ⟨mounted d options, d', hmount, ?_⟩
    intro acts
    obtain ⟨hlisteners, helsewhere⟩ := htidy.run acts
    refine ⟨isDragging_run _ acts, ?_, ?_, helsewhere⟩
    · rw [hasHandle_run] at hlisteners
      exact hlisteners
    · intro hclass
      obtain ⟨hsidebar, htoggle⟩ := Bool.and_eq_true_iff.mp helements
      obtain ⟨t, e, hmount', hshows⟩ := shows_mount hsidebar htoggle hclass options
      rw [hmount] at hmount'
      cases hmount'
      exact (shows_run (p := (mounted d options, d')) hshows acts).hasClass
  next helements =>
    rw [mount, if_neg helements]

end Sidebar
end Page
end LivePage
