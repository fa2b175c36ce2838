import LivePage.Http.Redirect
import LivePage.Http.Response

/-!
# Exchanges

A server that answers one request on each connection from a list of replies, and
refuses connections once the list is used up; and a client that requests an
address from it and follows redirects.

Such a client is left to a library, for which these modules stand, from addresses
to compressed bodies.  Assumed of it are few things: that every request has the
headers that are asked for, that a body is read as it was sent, and that a failure
is told as a fault, before anything is sent where a header value cannot be.  The
server stands for whoever answers; all that is known of it is what it sends.
-/

namespace LivePage
namespace Http

/-- A request. -/
structure Request where
  target : String
  headers : List (String × String)
  deriving DecidableEq, Repr

namespace Request

def line (r : Request) : String :=
  "GET " ++ r.target ++ " HTTP/1.1"

def header? (r : Request) (name : String) : Option String :=
  r.headers.lookup name

end Request

/-- Why a request got no answer. -/
inductive RequestFault where
  /-- What should be requested has no address. -/
  | badAddress (fault : AddressFault)
  /-- The scheme of the address cannot be requested. -/
  | unknownScheme (scheme : String)
  /-- A header value cannot be sent. -/
  | badHeaderValue
  | hostNotFound
  | connectionFailed
  | tooManyRedirects
  | redirectFailed
  /-- A redirect says not where to. -/
  | missingLocation
  | badLocation (location : String)
  | badResponse (fault : ResponseFault)
  /-- A redirect cannot be read to its end. -/
  | badBody (fault : BodyFault)
  | io (message : String)
  deriving DecidableEq, Repr

def RequestFault.text : RequestFault → String
  | .badAddress fault => "http: " ++ fault.text
  | .unknownScheme scheme => "bad uri: unknown scheme: " ++ scheme
  | .badHeaderValue => "http: failed to parse header value"
  | .hostNotFound => "host not found"
  | .connectionFailed => "connection failed"
  | .tooManyRedirects => "too many redirects"
  | .redirectFailed => "redirect failed"
  | .missingLocation => "protocol: missing a location header"
  | .badLocation location => "protocol: location header is malformed: " ++ location
  | .badResponse fault => fault.text
  | .badBody .disconnected => "io: " ++ disconnectedText
  | .badBody fault => fault.text
  | .io message => "io: " ++ message

/-- The fault of a request to a place where nothing listens. -/
def RequestFault.refused : RequestFault := .io "Connection refused (os error 111)"

/-- A server. -/
structure Server where
  /-- Where the server listens. -/
  host : List Char
  port : Nat
  /-- What the server has yet to send, one entry to each connection. -/
  replies : List (List UInt8)
  /-- The requests so far. -/
  requests : List Request := []
  deriving DecidableEq, Repr

namespace Server

/-- Whether a server listens at a port of a host. -/
def isAt (s : Server) (host : List Char) (port : Nat) : Bool :=
  s.host = host && s.port = port

/-- Sends one request.  With `allowsCut`, the head of a redirect may end too early. -/
def exchange (s : Server) (allowsCut : Bool) (a : Address) (headers : List (String × String)) :
    Except RequestFault Response × Server :=
  match a.port?, s.replies with
  | none, _ => (.error (.unknownScheme (String.ofList a.scheme)), s)
  | some _, [] => (.error .refused, s)
  | some port, reply :: replies =>
    if s.isAt a.host port then
      let request : Request := { target := String.ofList a.target, headers }
      ((Response.ofOctets allowsCut reply).mapError .badResponse,
        { s with replies, requests := s.requests ++ [request] })
    else (.error .refused, s)

/-- Where a redirect that answers a request of `a` leads to.  Its body is read
first. -/
def onward (a : Address) (r : Response) : Except RequestFault Address := do
  if let some fault := r.body.fault? then throw (.badBody fault)
  match (headerValues r.headers "location").getLast? with
  | none => throw .missingLocation
  | some value =>
    let malformed : RequestFault := .badLocation (String.ofList (Utf8.decodeLossy value))
    match (headerText? value).bind a.redirect? with
    | none => throw malformed
    | some next => return next

/-- Requests an address and follows at most the given number of redirects. -/
def get (headers : List (String × String)) :
    Nat → Server → Address → Except RequestFault Response × Server
  | limit, s, a =>
    match s.exchange (limit ≠ 0) a headers with
    | (.error fault, s) => (.error fault, s)
    | (.ok response, s) =>
      if isRedirect response.status then
        match limit, onward a response with
        | 0, _ => (.error .tooManyRedirects, s)
        | _, .error fault => (.error fault, s)
        | limit + 1, .ok next => get headers limit s next
      else (.ok response, s)

end Server
end Http
end LivePage
