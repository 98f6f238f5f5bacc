import RangeFetch.Text.Marks
import RangeFetch.Text.Unprintable

namespace RangeFetch.Text

def hexDigits (n : Nat) : List Char := Nat.toDigits 16 n

/-- The character as it stands between quotes. -/
def escaped (c : Char) : List Char :=
  if c = '\x00' then ['\\', '0']
  else if c = '\t' then ['\\', 't']
  else if c = '\r' then ['\\', 'r']
  else if c = '\n' then ['\\', 'n']
  else if c = '"' then ['\\', '"']
  else if c = '\\' then ['\\', '\\']
  else if unprintable.contains c || needsBase c then
    '\\' :: 'u' :: '\x7b' :: hexDigits c.toNat ++ ['\x7d']
  else [c]

def quoted (s : String) : String :=
  String.ofList ('"' :: s.toList.flatMap escaped ++ ['"'])

/-- A record with its fields in order; `more` tells that it has others, which are not shown. -/
def record (name : String) (fields : List (String × String)) (more : Bool) : String :=
  let shown := fields.map (fun f => s!"{f.1}: {f.2}") ++ if more then [".."] else []
  name ++ " \x7b " ++ ", ".intercalate shown ++ " \x7d"

/-- A range of offsets, the end excluded. -/
def span (start limit : Nat) : String := s!"{start}..{limit}"

end RangeFetch.Text
