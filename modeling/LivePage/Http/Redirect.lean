import LivePage.Http.Address
import LivePage.Text.Cut

/-!
# Redirects

Where a redirect leads is given as an address, or relative to the address before:
to its scheme, to its server, or to the directory of its path.  No part of it is
rewritten, except that the dots of a path relative to a directory are resolved.
-/

namespace LivePage
namespace Http

/-- Walks along path segments from a directory, whose own segments are given
latest first. -/
def walk (directory : List (List Char)) : List (List Char) → List (List Char)
  | [] => directory
  | segment :: segments =>
    if segment = ['.'] then walk directory segments
    else if segment = ['.', '.'] then walk directory.tail segments
    else walk (segment :: directory) segments

/-- A path from its segments, which are given latest first. -/
def joinPath (segments : List (List Char)) : List Char :=
  List.intercalate ['/'] segments.reverse

/-- The path that leads from the directory of one path along another. -/
def resolvePath (base path : List Char) : List Char :=
  let isSlash (c : Char) : Bool := c = '/'
  joinPath (walk (Text.cutAll isSlash base).reverse.tail (Text.cutAll isSlash path))

namespace Address

/-- The address of a path and a query on the same server. -/
def withTarget? (a : Address) (cs : List Char) : Option Address :=
  if cs.head? = some '/' then
    (readTarget cs).toOption.map fun (path, query) => { a with path, query }
  else none

/-- The address that a redirect from `a` leads to. -/
def redirect? (a : Address) (location : List Char) : Option Address :=
  match ofText location with
  | .ok next => some next
  | .error _ =>
    match location with
    | '/' :: '/' :: _ => (ofText (a.scheme ++ ':' :: location)).toOption
    | '/' :: _ => a.withTarget? location
    | _ => a.withTarget? (resolvePath a.fullPath location)

end Address
end Http
end LivePage
