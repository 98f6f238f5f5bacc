import RangeFetch.Text.Basic

namespace RangeFetch.Domain.Punycode

def digit? (c : Char) : Option Nat :=
  if 'a' ≤ c ∧ c ≤ 'z' then some (c.toNat - 97)
  else if 'A' ≤ c ∧ c ≤ 'Z' then some (c.toNat - 65)
  else if '0' ≤ c ∧ c ≤ '9' then some (c.toNat - 48 + 26)
  else none

def threshold (position bias : Nat) : Nat :=
  if position ≤ bias then 1 else if bias + 26 ≤ position then 26 else position - bias

/-- Divides a distance until it is small, and counts 36 for each time. -/
def shrink (delta count : Nat) : Nat × Nat :=
  if 455 < delta then shrink (delta / 35) (count + 36) else (delta, count)
termination_by delta
decreasing_by exact Nat.div_lt_self (by omega) (by omega)

/-- The bias after a distance; `size` characters are there by then. -/
def adapt (delta size : Nat) (isFirst : Bool) : Nat :=
  let halved := if isFirst then delta / 700 else delta / 2
  let (rest, count) := shrink (halved + halved / size) 0
  count + 36 * rest / (rest + 38)

structure Decoder where
  output : List Char
  code : Nat
  /-- Where the last distance ended, and where the present one has come to. -/
  origin : Nat
  index : Nat
  bias : Nat
  /-- Of the next digit of the number: 36 for each digit, and its weight. -/
  position : Nat
  weight : Nat

namespace Decoder

def bound : Nat := 4294967296

def start (plain : List Char) : Decoder := ⟨plain, 128, 0, 0, 72, 36, 1⟩

def insert? (d : Decoder) : Option Decoder :=
  let size := d.output.length + 1
  let code := d.code + d.index / size
  let place := d.index % size
  if code.isValidChar then
    some
      { output := d.output.take place ++ Char.ofNat code :: d.output.drop place
        code := code
        origin := place + 1
        index := place + 1
        bias := adapt (d.index - d.origin) size (d.origin == 0)
        position := 36
        weight := 1 }
  else none

def push? (d : Decoder) (c : Char) : Option Decoder :=
  match digit? c with
  | none => none
  | some digit =>
    let moved := { d with index := d.index + digit * d.weight }
    let least := threshold d.position d.bias
    if bound ≤ moved.index then none
    else if digit < least then moved.insert?
    else if bound ≤ d.weight * (36 - least) then none
    else some { moved with position := d.position + 36, weight := d.weight * (36 - least) }

def isComplete (d : Decoder) : Bool := d.position = 36

end Decoder

/-- The plain characters, which the last dash ends, and the digits. -/
def cut (text : List Char) : List Char × List Char :=
  let digits := (text.reverse.takeWhile (· != '-')).reverse
  let plain := text.take (text.length - digits.length - 1)
  if plain.isEmpty then ([], text) else (plain, digits)

def decode? (text : List Char) : Option (List Char) :=
  let (plain, digits) := cut text
  match digits.foldlM (fun d c => d.push? c) (Decoder.start (plain.map Char.toLower)) with
  | some d => if d.isComplete then some d.output else none
  | none => none

end RangeFetch.Domain.Punycode
