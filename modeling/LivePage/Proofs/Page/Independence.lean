import LivePage.Page.Components
import LivePage.Proofs.Page.Operations
import LivePage.Proofs.Page.Writes

/-!
# The components of a page do not interfere

The sidebar and the theme button of a page share its events and its document.  Still each of
them fares as if the other were not there: what becomes of the sidebar is told by the events
that are no clicks on the theme button, and what becomes of the theme by those clicks alone.
-/

namespace LivePage
namespace Page

/-! ## What the sidebar reads and writes of a document -/

/-- Two documents agree on all that a sidebar reads and writes. -/
structure Document.AgreesForSidebar (d d' : Document) : Prop where
  hasElement : d.hasElement = d'.hasElement
  style : d.style = d'.style
  hasClass : d.hasClass = d'.hasClass
  listeners : d.listeners = d'.listeners
  viewportWidth : d.viewportWidth = d'.viewportWidth

namespace Document.AgreesForSidebar

variable {d d' : Document}

theorem setStyle (h : d.AgreesForSidebar d') (id property value : String) :
    (d.setStyle id property value).AgreesForSidebar (d'.setStyle id property value) := by
  unfold Document.setStyle
  rw [h.hasElement, h.style]
  split
  · exact ⟨rfl, rfl, h.hasClass, h.listeners, h.viewportWidth⟩
  · exact h

theorem setClass (h : d.AgreesForSidebar d') (id name : String) (present : Bool) :
    (d.setClass id name present).AgreesForSidebar (d'.setClass id name present) := by
  unfold Document.setClass
  rw [h.hasElement, h.hasClass]
  split
  · exact ⟨rfl, h.style, rfl, h.listeners, h.viewportWidth⟩
  · exact h

theorem addListener (h : d.AgreesForSidebar d') (l : Listener) :
    (d.addListener l).AgreesForSidebar (d'.addListener l) :=
  ⟨h.hasElement, h.style, h.hasClass, congrArg (· ++ [l]) h.listeners, h.viewportWidth⟩

theorem removeListener (h : d.AgreesForSidebar d') (l : Listener) :
    (d.removeListener l).AgreesForSidebar (d'.removeListener l) :=
  ⟨h.hasElement, h.style, h.hasClass, congrArg (·.erase l) h.listeners, h.viewportWidth⟩

theorem setRootAttribute (h : d.AgreesForSidebar d') (name value : String) :
    (d.setRootAttribute name value).AgreesForSidebar d' :=
  ⟨h.hasElement, h.style, h.hasClass, h.listeners, h.viewportWidth⟩

end Document.AgreesForSidebar

namespace Sidebar

variable {d d' : Document}

theorem showOpen_agrees (s : Sidebar) (h : d.AgreesForSidebar d') :
    (s.showOpen d).AgreesForSidebar (s.showOpen d') :=
  (h.setStyle _ _ _).setClass _ _ _

theorem constrain_agrees (s : Sidebar) (h : d.AgreesForSidebar d') :
    s.constrain d = s.constrain d' := by
  funext x
  unfold constrain
  rw [h.viewportWidth]

/-- An operation does the same to a sidebar and to what it shows on documents that agree. -/
theorem call_agrees (s : Sidebar) (h : d.AgreesForSidebar d') (c : Call) :
    (s.call d c).1 = (s.call d' c).1 ∧
      (s.call d c).2.AgreesForSidebar (s.call d' c).2 := by
  cases c with
  | toggle =>
      unfold call toggle
      split_ifs
      · exact ⟨rfl, (h.setStyle _ _ _).setClass _ _ _⟩
      · exact ⟨rfl, s.showOpen_agrees h⟩
  | beginDrag =>
      unfold call beginDrag
      split_ifs
      · exact ⟨rfl, h⟩
      · exact ⟨rfl, (h.addListener _).addListener _⟩
      · exact ⟨rfl, ((s.showOpen_agrees h).addListener _).addListener _⟩
  | dragTo x =>
      unfold call dragTo
      rw [s.constrain_agrees h]
      split_ifs
      · exact ⟨rfl, h.setStyle _ _ _⟩
      · exact ⟨rfl, h⟩
  | endDrag x =>
      unfold call endDrag
      rw [s.constrain_agrees h]
      split_ifs
      · exact ⟨rfl, ((h.setStyle _ _ _).removeListener _).removeListener _⟩
      · exact ⟨rfl, h⟩

theorem Steps.rootAttribute {s s' : Sidebar} {dragged? : Option Binary64}
    (h : Steps s d dragged? s' d') : d'.rootAttribute = d.rootAttribute := by
  cases h <;> simp [showClosed, showOpen, showWidth, Document.addClass, Document.removeClass]

theorem ofEvent?_of_buttonClick (hasHandle : Bool) {e : Event}
    (h : e.listener = ThemeButton.buttonClick) : Call.ofEvent? hasHandle e = none := by
  have htoggle : ThemeButton.buttonClick ≠ toggleClick := by decide
  have hdown : ThemeButton.buttonClick ≠ handleDown := by decide
  have hmove : ThemeButton.buttonClick ≠ dragMove := by decide
  have hup : ThemeButton.buttonClick ≠ dragUp := by decide
  rw [Call.ofEvent?, h, if_neg htoggle, if_neg hdown, if_neg hmove, if_neg hup]

end Sidebar

/-- A storage that an item cannot be written to stays as it is. -/
theorem Storage.eq_of_set_eq_error {s s' : Storage} {key value : String} {e : StorageError}
    (h : s.set key value = (.error e, s')) : s' = s := by
  unfold set at h
  split at h
  · cases h
    rfl
  · split at h <;> cases h
    rfl

namespace Components

/-! ## Events under outages -/

/-- Which accesses to a storage fail. -/
structure Outage where
  isDisabled : Bool := false
  readError : Option StorageError := none
  writeError : Option StorageError := none

/-- An event, and which accesses to the storage fail while it is dispatched. -/
structure Occurrence where
  event : Event
  outage : Outage := {}

/-- Whether an event is a click on the theme button. -/
def Occurrence.isThemeClick (o : Occurrence) : Bool :=
  o.event.listener = ThemeButton.buttonClick

namespace State

/-- A page whose storage fails as an outage says. -/
def during (s : State) (o : Outage) : State :=
  { s with
    store :=
      { s.store with
        storage :=
          { s.store.storage with
            isDisabled := o.isDisabled
            readError := o.readError
            writeError := o.writeError } } }

/-- Dispatches an event while the storage fails as it may. -/
def meet (s : State) (o : Occurrence) : State :=
  ((s.during o.outage).dispatch o.event).2

/-- Dispatches some events, one after another. -/
def meetAll (s : State) (os : List Occurrence) : State :=
  os.foldl meet s

/-- The operation of the sidebar that an event stands for. -/
def sidebarCall? (s : State) (e : Event) : Option (Sidebar × Sidebar.Call) :=
  s.components.sidebar.bind fun sidebar =>
    (Sidebar.Call.ofEvent? sidebar.hasHandle e).map (sidebar, ·)

/-- Whether the theme button answers an event. -/
def isHeard (s : State) (e : Event) : Bool :=
  s.components.themeButton.any (·.hears e)

/-- A page after an operation of its sidebar. -/
def operate (s : State) (sidebar : Sidebar) (c : Sidebar.Call) : State :=
  { s with
    components := { s.components with sidebar := some (sidebar.call s.document c).1 }
    document := (sidebar.call s.document c).2 }

/-- The theme that a toggle leads to. -/
def nextTheme (s : State) : Theme :=
  .afterToggle (s.document.rootAttribute Theme.attributeName)

/-- A page after a toggle of its theme. -/
def toggleTheme (s : State) (storage : Storage) : State :=
  { s with
    document := Theme.apply s.document s.nextTheme
    store := { s.store with storage } }

theorem rootAttribute_toggleTheme (s : State) (storage : Storage) :
    (s.toggleTheme storage).document.rootAttribute =
      assign s.document.rootAttribute Theme.attributeName (some s.nextTheme.name) :=
  rfl

/-- The sidebar answers an event with the operation that it stands for, and leaves the page as
it is where there is none. -/
theorem tellSidebar_eq (s : State) (e : Event) :
    s.tellSidebar e =
      match s.sidebarCall? e with
      | some (sidebar, c) => (true, s.operate sidebar c)
      | none => (false, s) := by
  obtain ⟨⟨sidebar, themeButton⟩, document, store⟩ := s
  cases sidebar with
  | none => rfl
  | some sidebar =>
      simp only [tellSidebar, sidebarCall?, Option.bind_some, Sidebar.handle_eq]
      cases Sidebar.Call.ofEvent? sidebar.hasHandle e <;> rfl

/-! ## What an event does -/

/-- All that dispatching an event can come to. -/
inductive Answers (s : State) (e : Event) : Except StorageError Bool × State → Prop where
  | operates {sidebar : Sidebar} {c : Sidebar.Call}
      (hcall : s.sidebarCall? e = some (sidebar, c)) :
      Answers s e (.ok true, s.operate sidebar c)
  | toggles (hcall : s.sidebarCall? e = none) (hheard : s.isHeard e = true)
      {storage : Storage}
      (hset : s.store.storage.set s.store.key s.nextTheme.name = (.ok (), storage)) :
      Answers s e (.ok true, s.toggleTheme storage)
  | fails (hcall : s.sidebarCall? e = none) (hheard : s.isHeard e = true)
      {error : StorageError}
      (hset : s.store.storage.set s.store.key s.nextTheme.name =
        (.error error, s.store.storage)) :
      Answers s e (.error error, s)
  | ignores (hcall : s.sidebarCall? e = none) (hheard : s.isHeard e = false) :
      Answers s e (.ok false, s)

theorem tellThemeButton_of_not_isHeard {s : State} {e : Event} (h : s.isHeard e = false) :
    s.tellThemeButton e = (.ok false, s) := by
  unfold tellThemeButton
  cases hbutton : s.components.themeButton with
  | none => rfl
  | some button =>
      have hhears : button.hears e = false := by simpa [isHeard, hbutton] using h
      simp only [ThemeButton.handle, hhears]
      rfl

/-- A click that is heard stores the next theme, and shows it if that does not fail. -/
theorem tellThemeButton_of_isHeard {s : State} {e : Event} (h : s.isHeard e = true) :
    s.tellThemeButton e =
      match s.store.storage.set s.store.key s.nextTheme.name with
      | (.error error, storage) => (.error error, { s with store := { s.store with storage } })
      | (.ok (), storage) => (.ok true, s.toggleTheme storage) := by
  obtain ⟨button, hbutton, hhears⟩ := (Option.any_eq_true _ _).mp h
  rcases hset : s.store.storage.set s.store.key s.nextTheme.name with ⟨error | _, storage⟩
  all_goals
    rw [nextTheme] at hset
    simp only [tellThemeButton, hbutton, ThemeButton.handle, hhears, if_true, Theme.toggle,
      ThemeStore.set, hset]
    rfl

theorem dispatch_answers (s : State) (e : Event) : s.Answers e (s.dispatch e) := by
  unfold dispatch
  rw [tellSidebar_eq]
  cases hcall : s.sidebarCall? e with
  | some p => exact .operates hcall
  | none =>
      cases hheard : s.isHeard e with
      | false =>
          simp only [tellThemeButton_of_not_isHeard hheard]
          exact .ignores hcall hheard
      | true =>
          simp only [tellThemeButton_of_isHeard hheard]
          rcases hset : s.store.storage.set s.store.key s.nextTheme.name with
            ⟨error | _, storage⟩
          · obtain rfl := Storage.eq_of_set_eq_error hset
            exact .fails hcall hheard hset
          · exact .toggles hcall hheard hset

theorem listener_of_isHeard {s : State} {e : Event} (h : s.isHeard e = true) :
    e.listener = ThemeButton.buttonClick := by
  obtain ⟨button, -, hhears⟩ := (Option.any_eq_true _ _).mp h
  simpa using (Bool.and_eq_true_iff.mp hhears).2

theorem sidebarCall?_of_buttonClick (s : State) {e : Event}
    (h : e.listener = ThemeButton.buttonClick) : s.sidebarCall? e = none := by
  unfold sidebarCall?
  cases s.components.sidebar with
  | none => rfl
  | some sidebar => simp [Sidebar.ofEvent?_of_buttonClick _ h]

theorem dispatch_of_ne_buttonClick (s : State) {e : Event}
    (h : e.listener ≠ ThemeButton.buttonClick) :
    s.dispatch e =
      (s.sidebarCall? e).elim (.ok false, s) fun p => (.ok true, s.operate p.1 p.2) := by
  have hanswers := s.dispatch_answers e
  generalize s.dispatch e = outcome at hanswers
  cases hanswers with
  | operates hcall => rw [hcall, Option.elim_some]
  | toggles hcall hheard | fails hcall hheard => exact absurd (listener_of_isHeard hheard) h
  | ignores hcall => rw [hcall, Option.elim_none]

/-- A click on the theme button toggles the theme, if the button is there and the storage
takes the new theme. -/
theorem dispatch_of_buttonClick (s : State) {e : Event}
    (h : e.listener = ThemeButton.buttonClick) :
    s.dispatch e =
      if s.isHeard e then
        match s.store.storage.set s.store.key s.nextTheme.name with
        | (.error error, _) => (.error error, s)
        | (.ok (), storage) => (.ok true, s.toggleTheme storage)
      else (.ok false, s) := by
  have hcall := s.sidebarCall?_of_buttonClick h
  have hanswers := s.dispatch_answers e
  generalize s.dispatch e = outcome at hanswers
  cases hanswers with
  | operates hsome => simp [hcall] at hsome
  | toggles hnone hheard hset | fails hnone hheard hset => rw [if_pos hheard, hset]
  | ignores hnone hheard => simp [hheard]

/-! ## What becomes of the sidebar -/

/-- Two pages agree on their sidebar and on all that it reads and writes. -/
structure AgreesForSidebar (s t : State) : Prop where
  sidebar : s.components.sidebar = t.components.sidebar
  document : s.document.AgreesForSidebar t.document

theorem AgreesForSidebar.refl (s : State) : s.AgreesForSidebar s :=
  ⟨rfl, rfl, rfl, rfl, rfl, rfl⟩

/-- A click on the theme button changes nothing that belongs to the sidebar. -/
theorem AgreesForSidebar.meet_left {s t : State} (h : s.AgreesForSidebar t) {o : Occurrence}
    (ho : o.isThemeClick = true) : (s.meet o).AgreesForSidebar t := by
  unfold State.meet
  rw [dispatch_of_buttonClick _ (of_decide_eq_true ho)]
  split_ifs
  · split
    · exact ⟨h.sidebar, h.document⟩
    · exact ⟨h.sidebar, h.document.setRootAttribute _ _⟩
  · exact ⟨h.sidebar, h.document⟩

theorem AgreesForSidebar.meet {s t : State} (h : s.AgreesForSidebar t) {o : Occurrence}
    (ho : o.isThemeClick = false) : (s.meet o).AgreesForSidebar (t.meet o) := by
  have hcalls : (s.during o.outage).sidebarCall? o.event =
      (t.during o.outage).sidebarCall? o.event := by
    simp only [sidebarCall?, during, h.sidebar]
  have hlistener : o.event.listener ≠ ThemeButton.buttonClick := of_decide_eq_false ho
  unfold State.meet
  rw [dispatch_of_ne_buttonClick _ hlistener, dispatch_of_ne_buttonClick _ hlistener, hcalls]
  cases (t.during o.outage).sidebarCall? o.event with
  | none => exact ⟨h.sidebar, h.document⟩
  | some p =>
      obtain ⟨hsidebar, hdocument⟩ := p.1.call_agrees h.document p.2
      exact ⟨congrArg some hsidebar, hdocument⟩

theorem AgreesForSidebar.meetAll {s t : State} (h : s.AgreesForSidebar t)
    (os : List Occurrence) :
    (s.meetAll os).AgreesForSidebar (t.meetAll (os.filter (!·.isThemeClick))) := by
  induction os generalizing s t with
  | nil => exact h
  | cons o os ih =>
      cases ho : o.isThemeClick with
      | true =>
          rw [List.filter_cons_of_neg (by simp [ho])]
          exact ih (h.meet_left ho)
      | false =>
          rw [List.filter_cons_of_pos (by simp [ho])]
          exact ih (h.meet ho)

/-! ## What becomes of the theme -/

/-- Two pages agree on their theme button and on all that it reads and writes.  Which
accesses to the storage fail is told with each event. -/
structure AgreesForTheme (s t : State) : Prop where
  themeButton : s.components.themeButton = t.components.themeButton
  rootAttribute : s.document.rootAttribute = t.document.rootAttribute
  key : s.store.key = t.store.key
  items : s.store.storage.items = t.store.storage.items

theorem AgreesForTheme.refl (s : State) : s.AgreesForTheme s :=
  ⟨rfl, rfl, rfl, rfl⟩

/-- An event that is no click on the theme button changes nothing that belongs to the
theme. -/
theorem AgreesForTheme.meet_left {s t : State} (h : s.AgreesForTheme t) {o : Occurrence}
    (ho : o.isThemeClick = false) : (s.meet o).AgreesForTheme t := by
  have hlistener : o.event.listener ≠ ThemeButton.buttonClick := of_decide_eq_false ho
  unfold meet
  rw [dispatch_of_ne_buttonClick _ hlistener]
  cases (s.during o.outage).sidebarCall? o.event with
  | none => exact ⟨h.themeButton, h.rootAttribute, h.key, h.items⟩
  | some p =>
      have hroot := (p.1.call_steps s.document p.2).rootAttribute
      exact ⟨h.themeButton, hroot.trans h.rootAttribute, h.key, h.items⟩

theorem AgreesForTheme.during {s t : State} (h : s.AgreesForTheme t) (o : Outage) :
    (s.during o).store = (t.during o).store := by
  simp only [State.during, h.key, h.items]

theorem AgreesForTheme.meet {s t : State} (h : s.AgreesForTheme t) {o : Occurrence}
    (ho : o.isThemeClick = true) : (s.meet o).AgreesForTheme (t.meet o) := by
  have hclick : o.event.listener = ThemeButton.buttonClick := of_decide_eq_true ho
  have hstore := h.during o.outage
  have hheard : (s.during o.outage).isHeard o.event = (t.during o.outage).isHeard o.event := by
    simp only [isHeard, State.during, h.themeButton]
  have hnext : (s.during o.outage).nextTheme = (t.during o.outage).nextTheme := by
    simp only [nextTheme, State.during, h.rootAttribute]
  unfold State.meet
  rw [dispatch_of_buttonClick _ hclick, dispatch_of_buttonClick _ hclick, hheard, hstore, hnext]
  split_ifs
  · split
    · exact ⟨h.themeButton, h.rootAttribute, h.key, h.items⟩
    · refine ⟨h.themeButton, ?_, h.key, rfl⟩
      rw [rootAttribute_toggleTheme, rootAttribute_toggleTheme, hnext]
      exact congrArg (assign · _ _) h.rootAttribute
  · exact ⟨h.themeButton, h.rootAttribute, h.key, h.items⟩

theorem AgreesForTheme.meetAll {s t : State} (h : s.AgreesForTheme t)
    (os : List Occurrence) :
    (s.meetAll os).AgreesForTheme (t.meetAll (os.filter (·.isThemeClick))) := by
  induction os generalizing s t with
  | nil => exact h
  | cons o os ih =>
      cases ho : o.isThemeClick with
      | true =>
          rw [List.filter_cons_of_pos ho]
          exact ih (h.meet ho)
      | false =>
          rw [List.filter_cons_of_neg (by simp [ho])]
          exact ih (h.meet_left ho)

/-! ## Both together -/

theorem dispatch_eq_self (s : State) (e : Event) (h : (s.dispatch e).1 ≠ .ok true) :
    (s.dispatch e).2 = s := by
  have hanswers := s.dispatch_answers e
  generalize s.dispatch e = outcome at h hanswers
  cases hanswers with
  | operates | toggles => exact absurd rfl h
  | fails | ignores => rfl

/-- Whatever events a page meets and whatever accesses to its storage fail meanwhile, its
sidebar fares as without the clicks on the theme button, and its theme as with these clicks
alone.  Each event is answered by one component at most, and what is not answered, or fails,
changes nothing. -/
theorem components_independent (s : State) (os : List Occurrence) :
    (s.meetAll os).AgreesForSidebar (s.meetAll (os.filter (!·.isThemeClick))) ∧
      (s.meetAll os).AgreesForTheme (s.meetAll (os.filter (·.isThemeClick))) ∧
      ∀ e : Event,
        (s.isHeard e = true → (s.tellSidebar e).1 = false) ∧
        ((s.dispatch e).1 = .ok false ↔
          (s.tellSidebar e).1 = false ∧ s.isHeard e = false) ∧
        ((s.dispatch e).1 ≠ .ok true → (s.dispatch e).2 = s) := by
  refine ⟨(AgreesForSidebar.refl s).meetAll os, (AgreesForTheme.refl s).meetAll os, ?_⟩
  intro e
  refine ⟨?_, ?_, s.dispatch_eq_self e⟩
  · intro hheard
    rw [tellSidebar_eq, s.sidebarCall?_of_buttonClick (listener_of_isHeard hheard)]
  · rw [tellSidebar_eq]
    have hanswers := s.dispatch_answers e
    generalize s.dispatch e = outcome at hanswers
    cases hanswers with
    | operates hcall => simp [hcall]
    | toggles hcall hheard | fails hcall hheard => simp [hheard]
    | ignores hcall hheard => simp [hcall, hheard]

end State
end Components
end Page
end LivePage
