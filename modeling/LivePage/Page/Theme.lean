import LivePage.Page.Document
import LivePage.Page.Storage
import LivePage.Text.Quoted

/-!
# Themes

The theme of a page is an attribute of its root.  When the page is loaded the
stored preference decides, then the preference of the system.  A button toggles
the theme, stores the new one, and shows it if that does not fail.
-/

namespace LivePage
namespace Page

/-- A theme. -/
inductive Theme where
  | light
  | dark
  deriving DecidableEq, Repr

/-- The text that is no theme's name. -/
structure UnknownTheme where
  name : String
  deriving DecidableEq, Repr

def UnknownTheme.text (e : UnknownTheme) : String :=
  "Unknown theme: " ++ String.ofList (Text.quote e.name.toList) ++
    " (expected \"light\" or \"dark\")"

namespace Theme

/-- The root attribute that holds the theme. -/
def attributeName : String := "data-theme"

/-- The key under which the preference is stored. -/
def storageKey : String := "theme"

/-- The theme where nothing decides. -/
def standard : Theme := .light

def name : Theme → String
  | .light => "light"
  | .dark => "dark"

def toggled : Theme → Theme
  | .light => .dark
  | .dark => .light

def ofName (name : String) : Except UnknownTheme Theme :=
  if name = "light" then .ok .light
  else if name = "dark" then .ok .dark
  else .error ⟨name⟩

/-- The theme after a toggle, from the value of the attribute before it.  No attribute counts
as light, and a value that is no theme's name as dark. -/
def afterToggle (shown : Option String) : Theme :=
  if shown.getD "light" = "light" then .dark else .light

/-- The text of an error in reading or writing the preference. -/
def preferenceErrorText (e : StorageError) : String :=
  "Theme preference: " ++ e.text

end Theme

/-- A stored preference: an item of a storage. -/
structure ThemeStore where
  storage : Storage
  key : String := Theme.storageKey

namespace ThemeStore

/-- The stored preference.  A value that is no theme's name counts as none. -/
def get (s : ThemeStore) : Except StorageError (Option Theme) :=
  (s.storage.get s.key).map fun value => value.bind fun name => (Theme.ofName name).toOption

def set (s : ThemeStore) (theme : Theme) : Except StorageError Unit × ThemeStore :=
  let (result, storage) := s.storage.set s.key theme.name
  (result, { s with storage })

end ThemeStore

namespace Theme

/-- The theme of a page being loaded. -/
def resolve (store : ThemeStore) (prefersDark : Bool) : Except StorageError Theme :=
  store.get.map fun stored => stored.getD (if prefersDark then .dark else .standard)

/-- Shows a theme. -/
def apply (d : Document) (theme : Theme) : Document :=
  d.setRootAttribute attributeName theme.name

/-- Shows the theme of a page being loaded. -/
def init (d : Document) (store : ThemeStore) (prefersDark : Bool) :
    Except StorageError Theme × Document :=
  match resolve store prefersDark with
  | .error e => (.error e, d)
  | .ok theme => (.ok theme, apply d theme)

/-- Toggles the theme, stores the new one and then shows it. -/
def toggle (d : Document) (store : ThemeStore) :
    Except StorageError Theme × Document × ThemeStore :=
  let theme := afterToggle (d.rootAttribute attributeName)
  match store.set theme with
  | (.error e, store) => (.error e, d, store)
  | (.ok (), store) => (.ok theme, apply d theme, store)

end Theme

/-- The button that toggles the theme of a page, if the page has it. -/
structure ThemeButton where
  isPresent : Bool
  deriving DecidableEq, Repr

namespace ThemeButton

def elementId : String := "btn-toggle-theme"

def buttonClick : Listener := ⟨.element elementId, .click⟩

/-- Listens to the button, if the page has it. -/
def mount (d : Document) : ThemeButton × Document :=
  if d.hasElement elementId then (⟨true⟩, d.addListener buttonClick) else (⟨false⟩, d)

/-- Whether an event is a click on the button. -/
def hears (b : ThemeButton) (e : Event) : Bool :=
  b.isPresent && e.listener = buttonClick

/-- Answers an event, unless it is no click on the button. -/
def handle (b : ThemeButton) (d : Document) (store : ThemeStore) (e : Event) :
    Except StorageError (Option Theme) × Document × ThemeStore :=
  if b.hears e then
    let (result, d, store) := Theme.toggle d store
    (result.map some, d, store)
  else (.ok none, d, store)

end ThemeButton
end Page
end LivePage
