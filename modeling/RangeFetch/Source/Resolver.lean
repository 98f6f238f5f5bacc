import RangeFetch.Identity
import RangeFetch.Source.Error

namespace RangeFetch

/-- The base without slashes at its end, one slash, and the hash. -/
def contentUrl (base hash : String) : String :=
  String.ofList ((base.toList.reverse.dropWhile (· == '/')).reverse ++ '/' :: hash.toList)

structure PeerList where
  peers : List String
  /-- How often a peer has been chosen. -/
  turn : Nat

namespace PeerList

def ofList (peers : List String) : PeerList := ⟨peers, 0⟩

def resolve (l : PeerList) (id : FileIdentity) : Except SourceError String × PeerList :=
  match l.peers[l.turn % l.peers.length]? with
  | some base => (.ok (contentUrl base id.hash), ⟨l.peers, l.turn + 1⟩)
  | none => (.error (.unavailable id.hash), l)

end PeerList

inductive Resolver where
  | base (url : String)
  | peers (list : PeerList)
  | store
  | refusing (error : SourceError)

end RangeFetch
