import RangeFetch.Http.Host

namespace RangeFetch.Http

open Text

structure Url where
  scheme : String
  /-- As it is read; empty where the URL names none. -/
  host : List Char
  /-- Path and query; nothing where the scheme is not one that names a host. -/
  target : String
  deriving DecidableEq

namespace Url

def isSchemeChar (c : Char) : Bool := c.isAlphanum || c = '+' || c = '-' || c = '.'

/-- The scheme in lower case, and what follows its colon. -/
def splitScheme (text : List Char) : Option (String × List Char) :=
  let name := text.takeWhile isSchemeChar
  match name, text.dropWhile isSchemeChar with
  | first :: _, ':' :: rest =>
    if first.isAlpha then some (String.ofList (name.map Char.toLower), rest) else none
  | _, _ => none

def namesHost (scheme : String) : Bool := ["http", "https", "ws", "wss", "ftp"].contains scheme

def isServiceNumber (digits : List Char) : Bool :=
  digits.all Char.isDigit &&
    (match number? 10 digits with
      | some n => n ≤ 65535
      | none => false)

def upperHex (n : Nat) : Char := (Nat.digitChar n).toUpper

def escapeByte (b : UInt8) : List Char := ['%', upperHex (b.toNat / 16), upperHex (b.toNat % 16)]

/-- Escapes the characters that satisfy `reserved`, and all that are not ASCII or do not show. -/
def escape (reserved : Char → Bool) (text : List Char) : List Char :=
  text.flatMap fun c =>
    if c.toNat ≤ 0x1f || 0x7e < c.toNat || reserved c then
      c.toString.toUTF8.toList.flatMap escapeByte
    else [c]

def reservedInPath (c : Char) : Bool :=
  [' ', '"', '<', '>', '\x60', '#', '?', '\x7b', '\x7d'].contains c

def reservedInQuery (c : Char) : Bool := [' ', '"', '<', '>', '#', '\x27'].contains c

/-- A path segment with the escaped dots written out, in lower case. -/
def plainDots : List Char → List Char
  | '%' :: '2' :: 'e' :: rest => '.' :: plainDots rest
  | '%' :: '2' :: 'E' :: rest => '.' :: plainDots rest
  | c :: rest => c :: plainDots rest
  | [] => []

/-- A letter with a colon or a bar, which stands for a drive. -/
def isDrive (segment : List Char) : Bool :=
  match segment with
  | [letter, mark] => letter.isAlpha && (mark = ':' || mark = '|')
  | _ => false

/-- The segments above a place, the last one first. A drive has nothing above it. -/
def above (before : List (List Char)) : List (List Char) :=
  if before.head?.any isDrive then before else before.drop 1

/-- Segments after those before them, the last one first: one dot stays here, two dots go up. -/
def walk (before : List (List Char)) : List (List Char) → List (List Char)
  | [] => before
  | segment :: rest =>
    let atEnd := rest.isEmpty
    let dots := plainDots segment
    if dots = ['.', '.'] then
      walk (if atEnd then [] :: above before else above before) rest
    else if dots = ['.'] then walk (if atEnd then [] :: before else before) rest
    else walk (escape reservedInPath segment :: before) rest

def path (text : List Char) : List Char :=
  let segments := splitWhere (fun c => c == '/' || c == '\\') (text.drop 1)
  (walk [] segments).reverse.flatMap ('/' :: ·)

def requestTarget (text : List Char) : List Char :=
  let unmarked := text.takeWhile (· != '#')
  let query := unmarked.dropWhile (· != '?')
  path (unmarked.takeWhile (· != '?')) ++
    match query with
    | _ :: rest => '?' :: escape reservedInQuery rest
    | [] => []

/-- What surrounds a URL is not part of it, and neither are line ends and tabs. -/
def trim (text : List Char) : List Char :=
  let isOuter := fun c : Char => c.toNat ≤ 0x20
  (((text.dropWhile isOuter).reverse.dropWhile isOuter).reverse).filter
    fun c => c != '\t' && c != '\n' && c != '\r'

/-- Characters that end the part of a URL that names the host. Where `slanted` holds, a backslash
is a slash. -/
def endsAuthority (slanted : Bool) (c : Char) : Bool :=
  c == '/' || c == '?' || c == '#' || (slanted && c == '\\')

/-- A host, and what follows its colon; a colon between brackets belongs to the host. -/
def splitPlace (isInside : Bool) : List Char → List Char × Option (List Char)
  | [] => ([], none)
  | c :: rest =>
    if c = ':' && !isInside then ([], some rest)
    else
      let (host, service) := splitPlace (c = '[' || (isInside && c != ']')) rest
      (c :: host, service)

/-- The host of an authority, without the name and password that may stand before it. -/
def hostOf? (read : List Char → Option (List Char)) (slanted : Bool) (authority rest : List Char) :
    Option (List Char) :=
  let place := (authority.reverse.takeWhile (· != '@')).reverse
  let login := authority.take (authority.length - place.length - 1)
  let (host, service) := splitPlace false place
  let digits := (service.getD []).takeWhile (slanted || · != '\\')
  if host.isEmpty then
    let isLost := slanted || service.isSome || (!login.isEmpty && login != [':']) ||
      (login.isEmpty && authority.contains '@' && !rest.isEmpty)
    if isLost then none else some []
  else if isServiceNumber digits then read host
  else none

def fileHost? (text : List Char) : Option (List Char) :=
  let isSlash := fun c : Char => c == '/' || c == '\\'
  if (text.take 2).length = 2 && (text.take 2).all isSlash then
    let host := (text.drop 2).takeWhile (!endsAuthority true ·)
    if host.isEmpty || isDrive host then some [] else Host.read? host
  else some []

def parse? (text : String) : Option Url :=
  match splitScheme (trim text.toList) with
  | none => none
  | some (scheme, rest) =>
    let isSlash := fun c : Char => c == '/' || c == '\\'
    if namesHost scheme then
      let body := rest.dropWhile isSlash
      let after := body.dropWhile (!endsAuthority true ·)
      (hostOf? Host.read? true (body.takeWhile (!endsAuthority true ·)) after).map fun host =>
        ⟨scheme, host, String.ofList (requestTarget after)⟩
    else if scheme = "file" then (fileHost? rest).map fun host => ⟨scheme, host, ""⟩
    else match rest with
      | '/' :: '/' :: body =>
        let after := body.dropWhile (!endsAuthority false ·)
        (hostOf? Host.opaque? false (body.takeWhile (!endsAuthority false ·)) after).map fun host =>
          ⟨scheme, host, ""⟩
      | _ => some ⟨scheme, [], ""⟩

def isSendable (url : Url) : Bool :=
  !url.host.any fun c => c = '"' || c = '\x60' || c = '\x7b' || c = '\x7d'

end Url

end RangeFetch.Http
