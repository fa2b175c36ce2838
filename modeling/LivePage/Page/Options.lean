import LivePage.LiveReload.Client
import LivePage.Page.Sidebar
import LivePage.Text.Blank

/-!
# Options of a page

A site sets up the components of its pages with attributes of the root.  An
attribute that is missing or invalid leaves its option as it is, and white space
at the ends of a value does not count.
-/

namespace LivePage
namespace Page

/-- What the components of a page are set to do. -/
structure Options where
  sidebar : SidebarOptions := {}
  liveReload : LiveReload.Options := {}
  deriving DecidableEq, Repr

namespace Options

/-- The root attribute for the width of the sidebar. -/
def widthAttribute : String := "data-sidebar-width"

/-- The root attribute for whether dragging keeps to the viewport. -/
def clampAttribute : String := "data-sidebar-clamp"

/-- The root attribute for the endpoint of the event stream. -/
def endpointAttribute : String := "data-live-reload-endpoint"

/-- A width that a sidebar can have: finite and above zero. -/
def isWidth (x : Binary64) : Bool :=
  x.isFinite && Binary64.lt 0 x

def readWidth? (value : String) : Option Binary64 :=
  (Binary64.ofText? (Text.trim value.toList)).filter isWidth

def readFlag? (value : String) : Option Bool :=
  let word := Text.trim value.toList
  if word = "true".toList then some true
  else if word = "false".toList then some false
  else none

def readEndpoint? (value : String) : Option String :=
  match Text.trim value.toList with
  | '/' :: path => some (String.ofList ('/' :: path))
  | _ => none

/-- The options that the attributes of a root set. -/
def ofAttributes (root : String → Option String) : Options where
  sidebar :=
    { width := ((root widthAttribute).bind readWidth?).getD defaultWidth
      clampToViewport := ((root clampAttribute).bind readFlag?).getD false }
  liveReload :=
    { endpoint := ((root endpointAttribute).bind readEndpoint?).getD
        LiveReload.defaultEndpoint }

def ofDocument (d : Document) : Options :=
  ofAttributes d.rootAttribute

end Options
end Page
end LivePage
