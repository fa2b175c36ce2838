import LivePage.Page.Sidebar
import LivePage.Page.Theme

/-!
# Components of a page

The sidebar and the theme button of one page.  An event goes to the sidebar
first, and to the theme button if the sidebar does not answer it.
-/

namespace LivePage
namespace Page

/-- When the components of a page are mounted. -/
inductive MountTiming where
  | now
  | onLoad
  deriving DecidableEq, Repr

/-- A page that has finished loading is mounted at once. -/
def MountTiming.ofReadyState (state : String) : MountTiming :=
  if state = "complete" then .now else .onLoad

/-- The components of a page, as far as they are mounted. -/
structure Components where
  sidebar : Option Sidebar := none
  themeButton : Option ThemeButton := none
  deriving DecidableEq, Repr

namespace Components

def mount (d : Document) (options : SidebarOptions) : Components × Document :=
  let (sidebar, d) := Sidebar.mount d options
  let (themeButton, d) := ThemeButton.mount d
  ({ sidebar, themeButton := some themeButton }, d)

/-- Whether the components have been mounted. -/
def isMounted (c : Components) : Bool :=
  c.themeButton.isSome

/-- A page in use: its components, its document and the stored preference. -/
structure State where
  components : Components
  document : Document
  store : ThemeStore

/-- Gives an event to the sidebar.  Tells whether it answered. -/
def State.tellSidebar (s : State) (e : Event) : Bool × State :=
  match s.components.sidebar with
  | none => (false, s)
  | some sidebar =>
    let (answered, sidebar, document) := sidebar.handle s.document e
    (answered, { s with components := { s.components with sidebar := some sidebar }, document })

/-- Gives an event to the theme button.  Tells whether it answered. -/
def State.tellThemeButton (s : State) (e : Event) : Except StorageError Bool × State :=
  match s.components.themeButton with
  | none => (.ok false, s)
  | some button =>
    let (result, document, store) := button.handle s.document s.store e
    (result.map Option.isSome, { s with document, store })

/-- Gives an event to the component that answers it.  Tells whether one did. -/
def State.dispatch (s : State) (e : Event) : Except StorageError Bool × State :=
  match s.tellSidebar e with
  | (true, s) => (.ok true, s)
  | (false, s) => s.tellThemeButton e

end Components
end Page
end LivePage
