import Mathlib.Data.List.Basic
import LivePage.Http.Exchange

/-!
# The requests that a server gets

A client that follows redirects may send several requests for one address.  All of
them carry the same headers.
-/

namespace LivePage
namespace Http
namespace Server

/-- What asking a server does to it: it gets some requests, all with the given headers,
and at least one where it answers. -/
structure Sends (headers : List (String × String)) (s : Server)
    (outcome : Except RequestFault Response × Server) (sent : List Request) : Prop where
  requests : outcome.2.requests = s.requests ++ sent
  headers : ∀ request ∈ sent, request.headers = headers
  answered : ∀ response, outcome.1 = .ok response → sent ≠ []

variable {headers : List (String × String)} {s s' : Server}

/-- An answer may be given up once the server has got the requests. -/
theorem Sends.giveUp {result : Except RequestFault Response} {sent : List Request}
    (h : Sends headers s (result, s') sent) (fault : RequestFault) :
    Sends headers s (.error fault, s') sent where
  requests := h.requests
  headers := h.headers
  answered _ h := by cases h

end Server
end Http
end LivePage
