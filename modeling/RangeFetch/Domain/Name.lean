import RangeFetch.Domain.Direction
import RangeFetch.Domain.Joining
import RangeFetch.Domain.Punycode

namespace RangeFetch.Domain

open Text

/-- ASCII characters that no domain name has. -/
def isForbidden (c : Char) : Bool :=
  c.toNat ≤ 0x20 || c.toNat = 0x7f || "%#/:<>?@[\\]^|".toList.contains c

def isAscii (c : Char) : Bool := c.toNat ≤ 0x7f

def encodedMark : List Char := "xn--".toList

/-- A label starts with no mark, and joiners stand where they may. -/
def checked (label : List Char) : Option (List Char) :=
  if (label.head?.any isMark) || !joinersFit [] label then none else some label

/-- The label that ASCII characters stand for. It holds others, and is in its one spelling. -/
def decoded (digits : List Char) : Option (List Char) :=
  match if digits.all isAscii then Punycode.decode? digits else none with
  | none => none
  | some label =>
    let isPlain := fun c =>
      if isAscii c then !isForbidden c && c != '.' else mapChar? c = some [c]
    if !label.all isAscii && label.all isPlain && normalize label = label then checked label
    else none

def readLabel (label : List Char) : Option (List Char) :=
  if label.any isForbidden then none
  else if encodedMark.isPrefixOf label then decoded (label.drop encodedMark.length)
  else checked label

/-- The labels that a text without ASCII dots stands for; other signs may stand for dots. -/
def readText (text : List Char) : Option (List (List Char)) :=
  match text.mapM mapChar? with
  | none => none
  | some mapped => (splitWhere (· == '.') (normalize mapped.flatten)).mapM readLabel

def readName (text : List Char) : Option (List (List Char)) :=
  match (splitWhere (· == '.') text).mapM readText with
  | none => none
  | some parts =>
    let labels := parts.flatten
    if labels.any isBidirectional && !labels.all keepsDirection then none else some labels

end RangeFetch.Domain
