import RangeFetch.Source.Memory

/-!
Content is cut into deliveries in a loop, one piece each turn. Positions and counts are words of 64
bits. A turn fails where a sum would be no word, or a piece would lie outside the content.
-/

namespace RangeFetch

/-- The bytes from `first` up to `limit`, if the data has them. -/
def Bytes.slice? (data : Bytes) (first limit : Nat) : Option Bytes :=
  if first ≤ limit ∧ limit ≤ data.length then some ((data.drop first).take (limit - first))
  else none

structure Cutting where
  position : Nat
  sent : Nat
  pieces : List Bytes

namespace Cutting

inductive Turn where
  | again (c : Cutting)
  | done
  | failed

def sum? (a b : Nat) : Option Nat := if a + b < Limits.offsetBound then some (a + b) else none

/-- How long the next piece is: no longer than a delivery, nor than what is left of the data and of
the limit. -/
def pieceLength (size : Nat) (limit : Option Nat) (data : Bytes) (c : Cutting) : Nat :=
  let length := min size (data.length - c.position)
  match limit with
  | some limit => min length (limit - c.sent)
  | none => length

def push? (data : Bytes) (length : Nat) (c : Cutting) : Option Cutting :=
  (sum? c.position length).bind fun position =>
    (data.slice? c.position position).bind fun piece =>
      (sum? c.sent length).map fun sent => ⟨position, sent, c.pieces ++ [piece]⟩

/-- Under a limit the next piece may come out empty, and then the loop ends. -/
def turn (size : Nat) (limit : Option Nat) (data : Bytes) (c : Cutting) : Turn :=
  if c.position < data.length then
    let length := c.pieceLength size limit data
    if limit.isSome ∧ length = 0 then .done
    else match c.push? data length with
      | some c' => .again c'
      | none => .failed
  else .done

/-- The pieces, if the loop ends within so many turns and none of them fails. -/
def run? (size : Nat) (limit : Option Nat) (data : Bytes) : Nat → Cutting → Option (List Bytes)
  | 0, _ => none
  | turns + 1, c =>
    match c.turn size limit data with
    | .again c' => run? size limit data turns c'
    | .done => some c.pieces
    | .failed => none

end Cutting

def Faults.deliveries? (f : Faults) (deliverySize : Nat) (data : Bytes) (start turns : Nat) :
    Option (List Item) :=
  (Cutting.run? (max deliverySize 1) f.cutoff data turns ⟨start, 0, []⟩).map fun pieces =>
    pieces.map .bytes ++
      if f.failAfter.isSome && f.failAfter == f.cutoff then [.failed breakage] else []

end RangeFetch
