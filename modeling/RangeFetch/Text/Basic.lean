namespace RangeFetch.Text

def splitWhere (isSeparator : Char → Bool) : List Char → List (List Char)
  | [] => [[]]
  | c :: rest =>
    if isSeparator c then [] :: splitWhere isSeparator rest
    else match splitWhere isSeparator rest with
      | first :: more => (c :: first) :: more
      | [] => [[c]]

/-- The text before and after the first character that satisfies `isSeparator`. -/
def cutWhere (isSeparator : Char → Bool) : List Char → Option (List Char × List Char)
  | [] => none
  | c :: rest =>
    if isSeparator c then some ([], rest)
    else (cutWhere isSeparator rest).map fun p => (c :: p.1, p.2)

def hexValue? (c : Char) : Option Nat :=
  if '0' ≤ c ∧ c ≤ '9' then some (c.toNat - 48)
  else if 'a' ≤ c ∧ c ≤ 'f' then some (c.toNat - 87)
  else if 'A' ≤ c ∧ c ≤ 'F' then some (c.toNat - 55)
  else none

/-- A number in a base up to 16; no digits read as zero. -/
def number? (base : Nat) (digits : List Char) : Option Nat :=
  digits.foldl
    (fun acc c => match acc, hexValue? c with
      | some n, some d => if d < base then some (n * base + d) else none
      | _, _ => none)
    (some 0)

end RangeFetch.Text
