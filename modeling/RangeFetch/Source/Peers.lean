import RangeFetch.Source.Resolver
import RangeFetch.Source.Supplier

namespace RangeFetch.PeerList

/-- The peer whose turn it is after so many others. -/
def peer (l : PeerList) (i : Nat) : String := l.peers.getD ((l.turn + i) % l.peers.length) ""

def requests (l : PeerList) (id : FileIdentity) (start n : Nat) : List Request :=
  (List.range n).map fun i => .starting (contentUrl (l.peer i) id.hash) start

def skip (l : PeerList) (i : Nat) : PeerList := ⟨l.peers, l.turn + i⟩

variable (l : PeerList)

@[simp] theorem peers_skip (i : Nat) : (l.skip i).peers = l.peers := rfl

theorem peer_skip (i : Nat) : (l.skip i).peer 0 = l.peer i := rfl

theorem requests_succ (id : FileIdentity) (start n : Nat) :
    l.requests id start (n + 1) =
      l.requests id start n ++ [.starting (contentUrl (l.peer n) id.hash) start] := by
  rw [requests, List.range_succ, List.map_append]
  rfl

theorem requests_prefix (id : FileIdentity) (start : Nat) {i n : Nat} (le : i ≤ n) :
    l.requests id start i <+: l.requests id start n := by
  induction le with
  | refl => exact List.prefix_rfl
  | step _ ih =>
    rw [requests_succ]
    exact ih.trans (List.prefix_append _ _)

variable {l}

theorem peer_of_ne_nil (some : l.peers ≠ []) (i : Nat) :
    l.peers[(l.turn + i) % l.peers.length]? = .some (l.peer i) := by
  have inside : (l.turn + i) % l.peers.length < l.peers.length :=
    Nat.mod_lt _ (List.length_pos_iff.mpr some)
  rw [peer, List.getD_eq_getElem?_getD, List.getElem?_eq_getElem inside]
  rfl

theorem peer_mem (some : l.peers ≠ []) (i : Nat) : l.peer i ∈ l.peers :=
  List.mem_of_getElem? (peer_of_ne_nil some i)

theorem resolve_of_ne_nil (some : l.peers ≠ []) (id : FileIdentity) :
    l.resolve id = (.ok (contentUrl (l.peer 0) id.hash), l.skip 1) := by
  have there := peer_of_ne_nil some 0
  rw [Nat.add_zero] at there
  rw [resolve, there]
  rfl

/-- The peers give out streams, each answering the requests to its own addresses. -/
def supplier {ε : Type} (issue : ε → Request → Option (Except SourceError OpenedStream × ε)) :
    Supplier (PeerList × ε) where
  resolve := fun w id => ((w.1.resolve id).1, ((w.1.resolve id).2, w.2))
  issue := fun w r => (issue w.2 r).map fun answered => (answered.1, (w.1, answered.2))

end RangeFetch.PeerList
