import RangeFetch.Source.Stream

namespace RangeFetch.Http.Body

/-- One item, less what is still to be dropped; and what is to be dropped after it. -/
def dropFrom (remaining : Nat) : Item → Nat × Item
  | .bytes delivered =>
    let dropped := min remaining delivered.length
    (remaining - dropped, .bytes (delivered.drop dropped))
  | .failed e => (remaining, .failed e)

def dropAlong (remaining : Nat) : List Item → List Item
  | [] => []
  | item :: rest => (dropFrom remaining item).2 :: dropAlong (dropFrom remaining item).1 rest

def remainingAfter (remaining : Nat) : List Item → Nat
  | [] => remaining
  | item :: rest => remainingAfter (dropFrom remaining item).1 rest

/-- The items of a body without its first bytes; none of them is empty. -/
def skip (count : Nat) (items : List Item) : List Item :=
  (dropAlong count items).filter (· != .bytes [])

/-- A body that came in one piece. -/
def whole (bytes : Bytes) : List Item := if bytes.isEmpty then [] else [.bytes bytes]

end RangeFetch.Http.Body
