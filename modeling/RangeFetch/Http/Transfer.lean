import RangeFetch.Http.Head
import RangeFetch.Text.Basic

namespace RangeFetch.Http

inductive Framing where
  | length (count : Nat)
  | chunked
  | untilClose
  deriving DecidableEq

/-- What has come of a body, in pieces, and how that ends. -/
structure Arrival where
  pieces : List Bytes
  ending : Reading Unit

namespace Framing

/-- The largest length that a body can have. -/
def maxLength : Nat := Limits.maxOffset - 2

/-- Parts of a value between commas, without the blanks around them. -/
def listed (value : Bytes) : Option (List (List Char)) :=
  (ContentRange.text? value).map fun text =>
    (Text.splitWhere (· == ',') text).map ContentRange.trim

/-- The one length that all values name. -/
def lengthOf? (values : List Bytes) : Option Nat :=
  match values.mapM listed with
  | none => none
  | some parts =>
    match parts.flatten.mapM fun p => if p.isEmpty then none else Text.number? 10 p with
    | some (first :: rest) =>
      if first ≤ maxLength && rest.all (· == first) then some first else none
    | _ => none

def endsChunked (values : List Bytes) : Bool :=
  match (values.getLast?.bind listed).bind (·.getLast?) with
  | some encoding => encoding.map Char.toLower == "chunked".toList
  | none => false

/-- How the body of an answer ends, or nothing if its head contradicts itself. -/
def ofHead? (h : Head) : Option Framing :=
  let encodings := h.values "transfer-encoding"
  let lengths := h.values "content-length"
  if h.status = 101 ∨ h.status = 204 ∨ h.status = 304 then some (.length 0)
  else if !encodings.isEmpty then
    if h.minorVersion = 0 then none
    else if endsChunked encodings then some .chunked
    else some .untilClose
  else if lengths.isEmpty then some .untilClose
  else (lengthOf? lengths).map .length

end Framing

namespace Chunked

open Reader Head

def isHexDigit (b : UInt8) : Bool := (Text.hexValue? (Char.ofNat b.toNat)).isSome

/-- The length of a chunk, which is an offset. -/
def chunkLength : Reader Nat := fun bytes =>
  let digits := bytes.takeWhile isHexDigit
  match digits, Text.number? 16 (digits.map fun b => Char.ofNat b.toNat) with
  | _ :: _, some n =>
    if n < Limits.offsetBound then .found n (bytes.drop digits.length) else .malformed
  | _, _ => if bytes.isEmpty then .unfinished else .malformed

def fullLineEnd : Reader Unit := do
  let _ ← byteWhere (· = cr)
  let _ ← byteWhere (· = lf)

/-- All extensions of a body together are shorter than this. -/
def extensionLimit : Nat := 16384

/-- The rest of the line of a length: the number of bytes that extensions have. -/
def extensions : Reader Nat := do
  let _ ← bytesWhile isBlank
  let b ← byte
  if b = 59 then
    let text ← bytesWhile fun b => b != cr && b != lf
    fullLineEnd
    return text.length
  else if b = cr then
    let _ ← byteWhere (· = lf)
    return 0
  else fail

def trailerLimit : Nat := 16384

/-- The number of lines up to an empty one, and the bytes of all of them; lines end with both a
carriage return and a line feed. -/
def trailerLines (isLineStart : Bool) : Bytes → Reading (Nat × Bytes)
  | [] => .unfinished
  | [13] => .unfinished
  | 13 :: 10 :: rest =>
    if isLineStart then .found (0, [cr, lf]) rest
    else match trailerLines true rest with
      | .found (count, text) after => .found (count + 1, cr :: lf :: text) after
      | .unfinished => .unfinished
      | .malformed => .malformed
  | 13 :: _ => .malformed
  | b :: rest =>
    match trailerLines false rest with
    | .found (count, text) after => .found (count, b :: text) after
    | .unfinished => .unfinished
    | .malformed => .malformed

/-- Trailing headers; nothing is made of them, but they have to be some. -/
def trailer : Reader Unit := fun bytes =>
  match trailerLines true bytes with
  | .unfinished => .unfinished
  | .malformed => .malformed
  | .found (count, text) rest =>
    if count = 0 then .found () rest
    else if headerLimit ≤ count || trailerLimit ≤ text.length then .malformed
    else match headerLines count text with
      | .found _ _ => .found () rest
      | _ => .malformed

/-- The chunks in `bytes`, at most `count`, after so many bytes of extensions. -/
def read (count extended : Nat) (bytes : Bytes) : Arrival :=
  match count, (do let n ← chunkLength; let e ← extensions; return (n, e)) bytes with
  | _, .unfinished => ⟨[], .unfinished⟩
  | _, .malformed => ⟨[], .malformed⟩
  | 0, _ => ⟨[], .unfinished⟩
  | more + 1, .found (size, extension) rest =>
    let extended := extended + extension
    if extensionLimit ≤ extended then ⟨[], .malformed⟩
    else if size = 0 then ⟨[], trailer rest⟩
    else
      let piece := rest.take size
      if piece.length < size then ⟨if piece.isEmpty then [] else [piece], .unfinished⟩
      else match fullLineEnd (rest.drop size) with
        | .found _ after =>
          let others := read more extended after
          ⟨piece :: others.pieces, others.ending⟩
        | .unfinished => ⟨[piece], .unfinished⟩
        | .malformed => ⟨[piece], .malformed⟩

end Chunked

def Framing.receive (f : Framing) (bytes : Bytes) (isClosed : Bool) : Arrival :=
  let pieceOf := fun piece : Bytes => if piece.isEmpty then [] else [piece]
  match f with
  | length count =>
    ⟨pieceOf (bytes.take count),
      if bytes.length < count then .unfinished else .found () (bytes.drop count)⟩
  | chunked => Chunked.read (bytes.length + 1) 0 bytes
  | untilClose => ⟨pieceOf bytes, if isClosed then .found () [] else .unfinished⟩

end RangeFetch.Http
