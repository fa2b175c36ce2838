import Mathlib.Algebra.Group.Nat.Even
import Mathlib.Data.List.Induction
import LivePage.Proofs.Page.Independence

/-!
# The theme over many operations

The theme of a page is kept twice, as an attribute of the root and as an item of the storage,
and each of them is written by other operations than the other.  Whatever accesses to the
storage fail, the attribute shows the theme that an operation gave last, and the item holds
the theme that was toggled to last.
-/

namespace LivePage
namespace Page

open Components (Outage)

namespace Theme

/-! ## Operations -/

/-- What can be asked for: the theme of a page being loaded, or the other theme. -/
inductive Request where
  | init (prefersDark : Bool)
  | toggle
  deriving DecidableEq

/-- A request, and which accesses to the storage fail meanwhile. -/
structure Operation where
  request : Request
  outage : Outage := {}

/-- The error of the access to the storage that an operation needs, if it fails. -/
def Operation.failure? (op : Operation) : Option StorageError :=
  let disabled? := if op.outage.isDisabled then some StorageError.disabled else none
  match op.request with
  | .init _ => op.outage.readError.or disabled?
  | .toggle => op.outage.writeError.or disabled?

theorem ofName_name (theme : Theme) : ofName theme.name = .ok theme := by
  cases theme <;> rfl

theorem afterToggle_name (theme : Theme) : afterToggle (some theme.name) = theme.toggled := by
  cases theme <;> rfl

theorem toggled_toggled (theme : Theme) : theme.toggled.toggled = theme := by
  cases theme <;> rfl

end Theme

/-- A document and the items that are stored for it. -/
structure ThemedPage where
  document : Document
  items : String → Option String

namespace ThemedPage

open Theme

/-- The stored preference while some accesses fail. -/
def storeDuring (p : ThemedPage) (key : String) (o : Outage) : ThemeStore where
  storage :=
    { items := p.items
      isDisabled := o.isDisabled
      readError := o.readError
      writeError := o.writeError }
  key := key

/-- Carries out an operation: the theme that it gives, and the page then. -/
def perform (key : String) (p : ThemedPage) (op : Operation) :
    Except StorageError Theme × ThemedPage :=
  let store := p.storeDuring key op.outage
  match op.request with
  | .init prefersDark =>
    let (result, document) := Theme.init p.document store prefersDark
    (result, { p with document })
  | .toggle =>
    let (result, document, store) := Theme.toggle p.document store
    (result, { document, items := store.storage.items })

/-- The preference that can be read from the storage. -/
def preference? (key : String) (p : ThemedPage) : Option Theme :=
  (p.items key).bind fun name => (Theme.ofName name).toOption

/-- The theme that a request leads to. -/
def themeFor (key : String) (p : ThemedPage) : Request → Theme
  | .init prefersDark => (p.preference? key).getD (if prefersDark then .dark else .standard)
  | .toggle => .afterToggle (p.document.rootAttribute attributeName)

/-- A page that shows the theme of a request.  Only a toggle is stored. -/
def showing (key : String) (p : ThemedPage) (request : Request) (theme : Theme) :
    ThemedPage where
  document := Theme.apply p.document theme
  items :=
    match request with
    | .init _ => p.items
    | .toggle => assign p.items key (some theme.name)

/-- An operation either fails and changes nothing, or shows the theme that it leads to. -/
theorem perform_eq (key : String) (p : ThemedPage) (op : Operation) :
    p.perform key op =
      match op.failure? with
      | some e => (.error e, p)
      | none =>
        (.ok (p.themeFor key op.request), p.showing key op.request (p.themeFor key op.request)) := by
  obtain ⟨_ | _, isDisabled, readError, writeError⟩ := op
  · cases readError with
    | some e => rfl
    | none => cases isDisabled <;> rfl
  · cases writeError with
    | some e => rfl
    | none => cases isDisabled <;> rfl

/-! ## Histories -/

/-- A request and what came of it. -/
abbrev Entry := Request × Except StorageError Theme

/-- The theme that an entry shows, if the operation succeeded. -/
def Entry.shown? (entry : Entry) : Option Theme :=
  entry.2.toOption

/-- The theme that an entry stores, if it is a toggle that succeeded. -/
def Entry.stored? (entry : Entry) : Option Theme :=
  match entry.1 with
  | .init _ => none
  | .toggle => entry.2.toOption

/-- A page after some operations, in order. -/
def after (key : String) (p : ThemedPage) (ops : List Operation) : ThemedPage :=
  ops.foldl (fun p op => (p.perform key op).2) p

/-- What came of some operations, in order. -/
def log (key : String) (p : ThemedPage) : List Operation → List Entry
  | [] => []
  | op :: ops => (op.request, (p.perform key op).1) :: log key (p.perform key op).2 ops

theorem after_concat (key : String) (p : ThemedPage) (ops : List Operation)
    (op : Operation) :
    p.after key (ops ++ [op]) = ((p.after key ops).perform key op).2 :=
  List.foldl_append

theorem after_append (key : String) (p : ThemedPage) (ops more : List Operation) :
    p.after key (ops ++ more) = (p.after key ops).after key more :=
  List.foldl_append

theorem log_concat (key : String) (p : ThemedPage) (ops : List Operation)
    (op : Operation) :
    p.log key (ops ++ [op]) =
      p.log key ops ++ [(op.request, ((p.after key ops).perform key op).1)] := by
  induction ops generalizing p with
  | nil => rfl
  | cons first ops ih =>
      rw [List.cons_append, log, log, ih]
      rfl

/-- The theme that the last operation that succeeded has given. -/
def lastShown? (log : List Entry) : Option Theme :=
  (log.filterMap Entry.shown?).getLast?

/-- The theme that the last toggle that succeeded has led to. -/
def lastStored? (log : List Entry) : Option Theme :=
  (log.filterMap Entry.stored?).getLast?

theorem getLast?_filterMap_concat {α β : Type} (f : α → Option β) (l : List α) (a : α) :
    ((l ++ [a]).filterMap f).getLast? = (f a).or (l.filterMap f).getLast? := by
  rw [List.filterMap_append, List.getLast?_append]
  cases h : f a <;> simp [h]

/-! ## The two copies of the theme -/

theorem rootAttribute_showing (key : String) (p : ThemedPage) (request : Request)
    (theme : Theme) :
    (p.showing key request theme).document.rootAttribute attributeName =
      some theme.name :=
  assign_self p.document.rootAttribute attributeName (some theme.name)

/-- The root attribute shows the theme that was given last. -/
theorem rootAttribute_after (key : String) (p : ThemedPage) (ops : List Operation) :
    (p.after key ops).document.rootAttribute attributeName =
      (lastShown? (p.log key ops)).elim (p.document.rootAttribute attributeName)
        (some ·.name) := by
  induction ops using List.reverseRecOn with
  | nil => rfl
  | append_singleton ops op ih =>
      rw [after_concat, log_concat, lastShown?, getLast?_filterMap_concat, perform_eq]
      cases op.failure? with
      | some e => exact ih
      | none => exact rootAttribute_showing ..

/-- The item under the key is the theme that was toggled to last. -/
theorem item_after (key : String) (p : ThemedPage) (ops : List Operation) :
    (p.after key ops).items key =
      (lastStored? (p.log key ops)).elim (p.items key) (some ·.name) := by
  induction ops using List.reverseRecOn with
  | nil => rfl
  | append_singleton ops op ih =>
      rw [after_concat, log_concat, lastStored?, getLast?_filterMap_concat, perform_eq]
      obtain ⟨request, outage⟩ := op
      cases Operation.failure? ⟨request, outage⟩ with
      | some e => cases request <;> exact ih
      | none =>
          cases request with
          | init prefersDark => exact ih
          | toggle => exact assign_self ..

theorem items_perform_of_ne (key : String) (p : ThemedPage) (op : Operation)
    {other : String} (hother : other ≠ key) :
    (p.perform key op).2.items other = p.items other := by
  rw [perform_eq]
  cases op.failure? with
  | some e => rfl
  | none =>
      cases hrequest : op.request with
      | init prefersDark => rfl
      | toggle => exact if_neg hother

theorem items_after_of_ne (key : String) (p : ThemedPage) (ops : List Operation)
    {other : String} (hother : other ≠ key) :
    (p.after key ops).items other = p.items other := by
  induction ops using List.reverseRecOn with
  | nil => rfl
  | append_singleton ops op ih =>
      rw [after_concat, items_perform_of_ne key _ op hother, ih]

theorem mutations_after (key : String) (p : ThemedPage) (ops : List Operation) :
    (p.after key ops).document.mutations =
      p.document.mutations + ((p.log key ops).filterMap Entry.shown?).length := by
  induction ops using List.reverseRecOn with
  | nil => rfl
  | append_singleton ops op ih =>
      rw [after_concat, log_concat, List.filterMap_append, List.length_append, perform_eq]
      cases op.failure? with
      | some e => exact ih
      | none => exact congrArg (· + 1) ih

/-! ## Failures -/

theorem perform_eq_error_iff (key : String) (p : ThemedPage) (op : Operation)
    (e : StorageError) :
    (p.perform key op).1 = .error e ↔ op.failure? = some e := by
  rw [perform_eq]
  cases op.failure? <;> simp

theorem perform_of_error {key : String} {p : ThemedPage} {op : Operation}
    {e : StorageError} (h : (p.perform key op).1 = .error e) :
    (p.perform key op).2 = p := by
  rw [perform_eq, (perform_eq_error_iff key p op e).mp h]

theorem perform_of_ok {key : String} {p : ThemedPage} {op : Operation} {theme : Theme}
    (h : (p.perform key op).1 = .ok theme) : theme = p.themeFor key op.request := by
  rw [perform_eq] at h
  cases hfailure : op.failure? with
  | some e =>
      rw [hfailure] at h
      cases h
  | none =>
      rw [hfailure] at h
      cases h
      rfl

/-! ## Toggles -/

/-- A theme that was stored is found again, whatever the system prefers. -/
theorem themeFor_init_of_stored {key : String} {p : ThemedPage} {theme : Theme}
    (h : p.items key = some theme.name) (prefersDark : Bool) :
    p.themeFor key (.init prefersDark) = theme := by
  rw [themeFor, preference?, h, Option.bind_some, Theme.ofName_name]
  rfl

/-- Toggles that succeed take a theme to the other one and back, and those that fail do not
count. -/
theorem rootAttribute_after_toggles {key : String} {p : ThemedPage} {toggles : List Operation}
    (htoggles : ∀ op ∈ toggles, op.request = .toggle) {theme : Theme}
    (hshown : p.document.rootAttribute attributeName = some theme.name) :
    (p.after key toggles).document.rootAttribute attributeName =
      some (if Even ((p.log key toggles).filterMap Entry.shown?).length then theme
        else theme.toggled).name := by
  induction toggles generalizing p theme with
  | nil => exact hshown
  | cons op toggles ih =>
      obtain ⟨hrequest, hrest⟩ := List.forall_mem_cons.mp htoggles
      rw [log, List.filterMap_cons]
      show ((p.perform key op).2.after key toggles).document.rootAttribute attributeName = _
      have hperform := p.perform_eq key op
      cases hfailure : op.failure? with
      | some e =>
          rw [hfailure] at hperform
          rw [hperform]
          exact ih hrest hshown
      | none =>
          rw [hfailure] at hperform
          have hnext : p.themeFor key op.request = theme.toggled := by
            rw [hrequest, themeFor, hshown, afterToggle_name]
          rw [hnext] at hperform
          rw [hperform, ih hrest (rootAttribute_showing key p op.request theme.toggled),
            toggled_toggled]
          simp only [Entry.shown?, Except.toOption, List.length_cons, Nat.even_add_one, ite_not]

/-! ## The whole history -/

/-- What holds of a page after some operations, and of the operation after them. -/
structure KeepsTheme (key : String) (p : ThemedPage) (ops : List Operation) : Prop where
  rootAttribute : (p.after key ops).document.rootAttribute attributeName =
    (lastShown? (p.log key ops)).elim (p.document.rootAttribute attributeName) (some ·.name)
  item : (p.after key ops).items key =
    (lastStored? (p.log key ops)).elim (p.items key) (some ·.name)
  other_items : ∀ other, other ≠ key → (p.after key ops).items other = p.items other
  mutations : (p.after key ops).document.mutations =
    p.document.mutations + ((p.log key ops).filterMap Entry.shown?).length
  /-- An operation fails exactly if the access to the storage that it needs fails. -/
  fails_iff : ∀ op e, ((p.after key ops).perform key op).1 = .error e ↔ op.failure? = some e
  failed : ∀ op e, ((p.after key ops).perform key op).1 = .error e →
    ((p.after key ops).perform key op).2 = p.after key ops
  /-- Once a theme was toggled to, a page being loaded gets it. -/
  preferred : ∀ stored, lastStored? (p.log key ops) = some stored →
    ∀ prefersDark outage theme,
      ((p.after key ops).perform key ⟨.init prefersDark, outage⟩).1 = .ok theme →
        theme = stored
  toggled : ∀ toggles : List Operation, (∀ op ∈ toggles, op.request = .toggle) →
    ∀ theme : Theme,
      (p.after key ops).document.rootAttribute attributeName = some theme.name →
        (p.after key (ops ++ toggles)).document.rootAttribute attributeName =
          some (if Even (((p.after key ops).log key toggles).filterMap Entry.shown?).length
            then theme else theme.toggled).name

/-- Whatever is stored under whatever key, whatever the root shows, and whatever accesses
fail, the attribute follows the operations that succeed, and the item the toggles that do. -/
theorem keepsTheme (key : String) (p : ThemedPage) (ops : List Operation) :
    p.KeepsTheme key ops := by
  refine ⟨p.rootAttribute_after key ops, p.item_after key ops, ?_, p.mutations_after key ops,
    ?_, ?_, ?_, ?_⟩
  · intro other hother
    exact p.items_after_of_ne key ops hother
  · intro op e
    exact perform_eq_error_iff key _ op e
  · intro op e herror
    exact perform_of_error herror
  · intro stored hstored prefersDark outage theme hok
    have hitem := p.item_after key ops
    rw [hstored] at hitem
    rw [perform_of_ok hok]
    exact themeFor_init_of_stored hitem prefersDark
  · intro toggles htoggles theme hshown
    rw [after_append]
    exact rootAttribute_after_toggles htoggles hshown

end ThemedPage
end Page
end LivePage
