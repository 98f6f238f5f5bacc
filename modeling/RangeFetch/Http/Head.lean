import RangeFetch.Http.ContentRange

namespace RangeFetch.Http

inductive Reading (α : Type) where
  | found (value : α) (rest : Bytes)
  | unfinished
  | malformed

def Reader (α : Type) : Type := Bytes → Reading α

namespace Reader

variable {α β : Type}

def give (value : α) : Reader α := fun bytes => .found value bytes

def fail : Reader α := fun _ => .malformed

def andThen (first : Reader α) (next : α → Reader β) : Reader β := fun bytes =>
  match first bytes with
  | .found value rest => next value rest
  | .unfinished => .unfinished
  | .malformed => .malformed

instance : Monad Reader where
  pure := give
  bind := andThen

def byte : Reader UInt8
  | [] => .unfinished
  | b :: rest => .found b rest

def byteWhere (p : UInt8 → Bool) : Reader UInt8 := do
  let b ← byte
  if p b then give b else fail

/-- The bytes up to the first one that does not satisfy `p`. That one has to have come. -/
def bytesWhile (p : UInt8 → Bool) : Reader Bytes := fun bytes =>
  match bytes.dropWhile p with
  | [] => .unfinished
  | rest => .found (bytes.takeWhile p) rest

end Reader

namespace Head

open Reader

def cr : UInt8 := 13
def lf : UInt8 := 10
def space : UInt8 := 32
def tab : UInt8 := 9

/-- A line ends with a line feed, before which there may be a carriage return. -/
def lineEnd : Reader Unit := do
  let b ← byte
  if b = cr then let _ ← byteWhere (· = lf)
  else if b != lf then fail

def skipEmptyLines : Reader Unit
  | [] => .unfinished
  | 10 :: rest => skipEmptyLines rest
  | [13] => .unfinished
  | 13 :: 10 :: rest => skipEmptyLines rest
  | 13 :: _ => .malformed
  | bytes => .found () bytes

def versionMark : Bytes := "HTTP/1.".toUTF8.toList

/-- The minor version, 0 or 1. -/
def versionDigit : Reader Nat := fun bytes =>
  if versionMark.isPrefixOf bytes then
    match bytes.drop versionMark.length with
    | [] => .unfinished
    | 48 :: rest => .found 0 rest
    | 49 :: rest => .found 1 rest
    | _ => .malformed
  else if bytes.isPrefixOf versionMark then .unfinished
  else .malformed

def isDigit (b : UInt8) : Bool := 48 ≤ b && b ≤ 57

def statusCode : Reader Nat := do
  let a ← byteWhere isDigit
  let b ← byteWhere isDigit
  let c ← byteWhere isDigit
  return (a.toNat - 48) * 100 + (b.toNat - 48) * 10 + (c.toNat - 48)

def isText (b : UInt8) : Bool := b = tab || (space ≤ b && b != 0x7f)

/-- The rest of a status line: words after a space, or nothing. -/
def reason : Reader Unit := do
  let b ← byte
  if b = space then
    let _ ← bytesWhile isText
    lineEnd
  else if b = cr then let _ ← byteWhere (· = lf)
  else if b != lf then fail

def isNameByte (b : UInt8) : Bool :=
  isDigit b || (65 ≤ b && b ≤ 90) || (97 ≤ b && b ≤ 122) ||
    ("!#$%&'*+-.^_\x60|~".toUTF8.toList).contains b

def isBlank (b : UInt8) : Bool := b = space || b = tab

def header : Reader Header := do
  let first ← byteWhere isNameByte
  let name ← bytesWhile isNameByte
  let _ ← byteWhere (· = 58)
  let _ ← bytesWhile isBlank
  let value ← bytesWhile isText
  lineEnd
  return ⟨String.ofList ((first :: name).map fun b => Char.ofNat b.toNat),
    (value.reverse.dropWhile isBlank).reverse⟩

def isOver : Bytes → Bool
  | 10 :: _ => true
  | 13 :: _ => true
  | _ => false

/-- Headers up to the empty line, at most `count`. -/
def headerLines (count : Nat) : Reader (List Header) := fun bytes =>
  if isOver bytes then (do lineEnd; return []) bytes
  else if bytes.isEmpty then .unfinished
  else match count with
    | 0 => .malformed
    | more + 1 => (do let h ← header; let rest ← headerLines more; return h :: rest) bytes

def headerLimit : Nat := 100

end Head

structure Head where
  minorVersion : Nat
  status : Nat
  headers : List Header
  deriving DecidableEq

namespace Head

open Reader

/-- A head, the status of which is at least 100. -/
def read : Reader Head := do
  skipEmptyLines
  let minor ← versionDigit
  let _ ← byteWhere (· = space)
  let status ← statusCode
  reason
  let headers ← headerLines headerLimit
  if status < 100 then fail else return ⟨minor, status, headers⟩

/-- The head announces another one. -/
def isInterim (h : Head) : Bool := h.status < 200 && h.status != 101

def values (h : Head) (name : String) : List Bytes :=
  (h.headers.filter fun f => f.name.map Char.toLower == name).map (·.value)

/-- The head that is not followed by another; there are fewer than `count` heads. -/
def readFinal : Nat → Reader Head
  | 0 => fail
  | count + 1 => do
    let h ← read
    if h.isInterim then readFinal count else return h

end Head

end RangeFetch.Http
