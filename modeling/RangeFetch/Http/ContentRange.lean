import RangeFetch.Bytes
import RangeFetch.Limits

namespace RangeFetch.Http

structure Header where
  name : String
  value : Bytes
  deriving DecidableEq

def Header.first? (name : String) (headers : List Header) : Option Bytes :=
  (headers.find? fun h => h.name.map Char.toLower == name).map (·.value)

namespace ContentRange

def name : String := "content-range"

def value? (headers : List Header) : Option Bytes := Header.first? name headers

/-- Visible ASCII, blank or tab. -/
def isVisible (b : UInt8) : Bool := (0x20 ≤ b && b < 0x7f) || b == 0x09

def text? (value : Bytes) : Option (List Char) :=
  if value.all isVisible then some (value.map fun b => Char.ofNat b.toNat) else none

def isBlank (c : Char) : Bool := c == ' ' || c == '\t'

def trim (text : List Char) : List Char :=
  ((text.dropWhile isBlank).reverse.dropWhile isBlank).reverse

/-- What follows `unit`, if the text starts with it. -/
def afterUnit? (unit text : List Char) : Option (List Char) :=
  if unit.isPrefixOf text then some (text.drop unit.length) else none

def beforeDash? (text : List Char) : Option (List Char) :=
  if text.contains '-' then some (text.takeWhile (· != '-')) else none

def digitValue (c : Char) : Nat := c.toNat - '0'.toNat

def decimal (digits : List Char) : Nat := digits.foldl (fun n c => 10 * n + digitValue c) 0

/-- An offset in decimal digits, with or without a plus before them. -/
def offset? (text : List Char) : Option Nat :=
  let digits := match text with
    | '+' :: rest => rest
    | _ => text
  if digits.isEmpty || !digits.all Char.isDigit then none
  else if decimal digits < Limits.offsetBound then some (decimal digits) else none

/-- The first position that a value of the header states. -/
def start? (value : Bytes) : Option Nat :=
  match text? value with
  | none => none
  | some text =>
    match afterUnit? "bytes".toList (trim text) with
    | none => none
    | some rest =>
      match beforeDash? (rest.dropWhile isBlank) with
      | none => none
      | some first => offset? (trim first)

def startOf (headers : List Header) : Option Nat :=
  match value? headers with
  | some value => start? value
  | none => none

end ContentRange

end RangeFetch.Http
