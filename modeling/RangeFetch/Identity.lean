import RangeFetch.Text.Record
import RangeFetch.Xxh3

namespace RangeFetch

structure FileIdentity where
  hash : String
  size : Nat
  deriving DecidableEq

namespace FileIdentity

def ofContent (content : Bytes) : FileIdentity :=
  ⟨(Xxh3.digest content).toHex, content.length⟩

def describe (id : FileIdentity) : String := s!"{id.hash} ({id.size} bytes)"

def record (id : FileIdentity) : String :=
  Text.record "FileIdentity" [("hash", Text.quoted id.hash), ("size", toString id.size)] false

end FileIdentity

end RangeFetch
