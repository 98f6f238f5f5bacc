import RangeFetch.Text.Basic

/-!
Sets of code points, and replacements for them, written down as tables. In a table numbers are
hexadecimal and entries are separated by blanks and line ends.
-/

namespace RangeFetch.Text

def entries (table : String) : List (List Char) :=
  (splitWhere (fun c => c == ' ' || c == '\n') table.toList).filter (· != [])

/-- A set of code points, as closed ranges. -/
structure CodePoints where
  ranges : List (Nat × Nat)

namespace CodePoints

/-- A code point, or the first and the last one of a range with a dash between them. -/
def range? (entry : List Char) : Option (Nat × Nat) :=
  match splitWhere (· == '-') entry with
  | [single] => (number? 16 single).map fun n => (n, n)
  | [first, last] =>
    match number? 16 first, number? 16 last with
    | some a, some b => some (a, b)
    | _, _ => none
  | _ => none

def ofTable (table : String) : CodePoints := ⟨(entries table).filterMap range?⟩

def contains (s : CodePoints) (c : Char) : Bool :=
  s.ranges.any fun r => r.1 ≤ c.toNat && c.toNat ≤ r.2

end CodePoints

structure Spelling where
  first : Nat
  texts : List (List Char)

/-- Texts that stand for single code points. -/
structure Spellings where
  blocks : List Spelling

namespace Spellings

/-- The code points of a text, with dots between them. -/
def text? (part : List Char) : Option (List Char) :=
  ((splitWhere (· == '.') part).mapM (number? 16)).map fun codes => codes.map Char.ofNat

/-- The first code point, a colon, and the texts with commas between them. -/
def spelling? (entry : List Char) : Option Spelling :=
  match splitWhere (· == ':') entry with
  | [first, texts] =>
    match number? 16 first, (splitWhere (· == ',') texts).mapM text? with
    | some n, some ts => some ⟨n, ts⟩
    | _, _ => none
  | _ => none

def ofTable (table : String) : Spellings := ⟨(entries table).filterMap spelling?⟩

def text (s : Spellings) (c : Char) : Option (List Char) :=
  s.blocks.findSome? fun b => if c.toNat < b.first then none else b.texts[c.toNat - b.first]?

def codePoint? (s : Spellings) (text : List Char) : Option Char :=
  s.blocks.findSome? fun b =>
    (b.texts.findIdx? (· == text)).map fun i => Char.ofNat (b.first + i)

end Spellings

/-- A run of code points, `stride` apart, that map to a run from `target` on. -/
structure Shift where
  first : Nat
  last : Nat
  stride : Nat
  target : Nat

namespace Shift

/-- The run, `/2` if it has every second code point, a colon, and the first target. -/
def shift? (entry : List Char) : Option Shift :=
  match splitWhere (· == ':') entry with
  | [run, target] =>
    let stride := if run.contains '/' then 2 else 1
    match CodePoints.range? (run.takeWhile (· != '/')), number? 16 target with
    | some (first, last), some t => some ⟨first, last, stride, t⟩
    | _, _ => none
  | _ => none

def ofTable (table : String) : List Shift := (entries table).filterMap shift?

def image? (s : Shift) (c : Char) : Option Char :=
  if s.first ≤ c.toNat ∧ c.toNat ≤ s.last ∧ (c.toNat - s.first) % s.stride = 0 then
    some (Char.ofNat (s.target + (c.toNat - s.first)))
  else none

end Shift

end RangeFetch.Text
