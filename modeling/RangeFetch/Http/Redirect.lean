import RangeFetch.Http.Options
import RangeFetch.Http.Response
import RangeFetch.Http.Url

namespace RangeFetch.Http

open Text

/-- The parts of a location; some may be left out, and then are those of the request. -/
structure Reference where
  scheme : Option (List Char)
  authority : Option (List Char)
  path : List Char
  query : Option (List Char)
  fragment : Option (List Char)
  deriving DecidableEq

namespace Reference

def cutAt (mark : Char) (text : List Char) : List Char × Option (List Char) :=
  match cutWhere (· == mark) text with
  | some (front, back) => (front, some back)
  | none => (text, none)

def ofText (text : List Char) : Reference :=
  let (unmarked, fragment) := cutAt '#' text
  let (front, query) := cutAt '?' unmarked
  let (scheme, place) := match cutAt ':' (front.takeWhile (· != '/')) with
    | (name, some _) => (some name, front.drop (name.length + 1))
    | _ => (none, front)
  match place with
  | '/' :: '/' :: rest =>
    ⟨scheme, some (rest.takeWhile (· != '/')), rest.dropWhile (· != '/'), query, fragment⟩
  | _ => ⟨scheme, none, place, query, fragment⟩

def isPlain (c : Char) : Bool := c.isAlphanum || "-._~!$&'()*+,;=".toList.contains c

/-- Plain characters, those in `more`, and escaped bytes. -/
def isWritten (more : List Char) : List Char → Bool
  | [] => true
  | '%' :: a :: b :: rest => (hexValue? a).isSome && (hexValue? b).isSome && isWritten more rest
  | c :: rest => (isPlain c || more.contains c) && isWritten more rest

def isScheme : List Char → Bool
  | [] => false
  | first :: rest => first.isAlpha && rest.all Url.isSchemeChar

/-- A login before an at sign, a host, and a number after a colon. -/
def isAuthority (text : List Char) : Bool :=
  let place := (text.reverse.takeWhile (· != '@')).reverse
  let login := text.take (text.length - place.length - 1)
  let (host, service) := Url.splitPlace false place
  isWritten [':'] login && (service.getD []).all Char.isDigit &&
    (if host.head? = some '[' then (Host.bracketed? host).isSome else isWritten [] host)

def isValid (r : Reference) : Bool :=
  r.scheme.all isScheme && r.authority.all isAuthority && isWritten [':', '@', '/'] r.path &&
    r.query.all (isWritten [':', '@', '/', '?']) && r.fragment.all (isWritten [':', '@', '/', '?'])

def isRequestable (r : Reference) : Bool :=
  match r.authority, r.scheme with
  | some authority, _ =>
    let place := (authority.reverse.takeWhile (· != '@')).reverse
    place != [] && !place.contains '%'
  | none, none => true
  | none, some _ =>
    r.query.isNone && r.fragment.isNone && r.path.all fun c => c != '/' && c != ':' && c != '%'

/-- How going there ends. A peer does not encrypt what it sends. -/
def failure (r : Reference) : HttpFailure :=
  match r.scheme.map fun name => String.ofList (name.map Char.toLower) with
  | none => .redirected
  | some name =>
    if name = "https" ∧ r.authority.isSome then .unreachable
    else if name = "http" then .redirected
    else .foreignScheme

end Reference

namespace Response

/-- Statuses of answers that name another place. -/
def sendsAway (status : Nat) : Bool := [301, 302, 303, 307, 308].contains status

def destination? (response : Response) (target : String) : Option Reference :=
  if !sendsAway response.status then none
  else
    match (Header.first? "location" response.headers).bind ContentRange.text? with
    | none => none
    | some text =>
      let reference := Reference.ofText text
      if reference.isValid && reference.isRequestable && (Reference.ofText target.toList).isValid
      then some reference
      else none

end Response

end RangeFetch.Http
