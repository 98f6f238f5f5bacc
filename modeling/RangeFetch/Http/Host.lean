import RangeFetch.Domain.Name

namespace RangeFetch.Http.Host

open Text

def isReserved (c : Char) : Bool :=
  c.toNat = 0 || c = '\t' || c = '\n' || c = '\r' || c = ' ' || c = '#' || c = '/' || c = ':' ||
    c = '<' || c = '>' || c = '?' || c = '@' || c = '[' || c = '\\' || c = ']' || c = '^' || c = '|'

/-- The bytes that a text stands for, two digits after a percent sign being one of them. -/
def unescape : List Char → List UInt8
  | '%' :: a :: b :: rest =>
    match hexValue? a, hexValue? b with
    | some x, some y => UInt8.ofNat (16 * x + y) :: unescape rest
    | _, _ => 0x25 :: unescape (a :: b :: rest)
  | c :: rest => c.toString.toUTF8.toList ++ unescape rest
  | [] => []

/-- One part of an address: decimal, octal after a zero, hexadecimal after `0x`. -/
def addressPart? : List Char → Option Nat
  | [] => none
  | '0' :: 'x' :: digits => number? 16 digits
  | '0' :: 'X' :: digits => number? 16 digits
  | '0' :: d :: digits => number? 8 (d :: digits)
  | digits => number? 10 digits

/-- Up to four parts; the last one fills the rest of 32 bits. -/
def isAddress4 (parts : List (List Char)) : Bool :=
  match parts.mapM addressPart? with
  | none => false
  | some values =>
    values.length ≤ 4 && values.dropLast.all (· ≤ 255) &&
      values.getLastD 0 < Nat.pow 256 (5 - values.length)

/-- The labels without the empty one after a final dot. -/
def withoutRoot (labels : List (List Char)) : List (List Char) :=
  if 1 < labels.length && labels.getLastD [] == [] then labels.dropLast else labels

def isNumber (label : List Char) : Bool :=
  (label != [] && label.all (fun c => '0' ≤ c && c ≤ '9')) ||
    (match label with
      | '0' :: 'x' :: digits => digits.all (fun c => (hexValue? c).isSome)
      | '0' :: 'X' :: digits => digits.all (fun c => (hexValue? c).isSome)
      | _ => false)

/-- A decimal number up to 255 without leading zeros. -/
def isOctet (digits : List Char) : Bool :=
  digits != [] && (digits.length == 1 || digits.head? != some '0') &&
    (match number? 10 digits with
      | some n => n ≤ 255
      | none => false)

/-- Groups of up to four hexadecimal digits; the last may be four octets and then counts twice. -/
def groupCount? (groups : List (List Char)) : Option Nat :=
  let isGroup := fun g : List Char =>
    g != [] && g.length ≤ 4 && g.all (fun c => (hexValue? c).isSome)
  let last := groups.getLastD []
  let octets := splitWhere (· == '.') last
  if groups.all isGroup then some groups.length
  else if groups.dropLast.all isGroup && octets.length == 4 && octets.all isOctet then
    some (groups.length + 1)
  else none

def cutAtGap : List Char → Option (List Char × List Char)
  | ':' :: ':' :: rest => some ([], rest)
  | c :: rest => (cutAtGap rest).map fun p => (c :: p.1, p.2)
  | [] => none

def isAddress6 (text : List Char) : Bool :=
  let count := fun part : List Char =>
    if part == [] then some 0 else groupCount? (splitWhere (· == ':') part)
  match cutAtGap text with
  | none => count text == some 8
  | some (front, back) =>
    match count front, count back with
    | some a, some b => a + b ≤ 7 && !front.contains '.'
    | _, _ => false

/-- An address between brackets, as it stands. -/
def bracketed? (text : List Char) : Option (List Char) :=
  if text.getLast? == some ']' && isAddress6 (text.drop 1).dropLast then some text else none

def name? (text : List Char) : Option (List Char) :=
  match String.fromUTF8? ⟨(unescape text).toArray⟩ with
  | none => none
  | some plain =>
    match Domain.readName plain.toList with
    | none => none
    | some labels =>
      let name := ['.'].intercalate labels
      let parts := withoutRoot labels
      if name.isEmpty || (isNumber (parts.getLastD []) && !isAddress4 parts) then none
      else some name

def read? (text : List Char) : Option (List Char) :=
  if text.head? = some '[' then bracketed? text else name? text

def opaque? (text : List Char) : Option (List Char) :=
  if text.head? = some '[' then bracketed? text
  else if text.any isReserved then none
  else some text

end RangeFetch.Http.Host
