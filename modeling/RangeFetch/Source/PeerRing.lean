import RangeFetch.Source.Peers

/-!
A list of peers as it is kept. Its turns are counted in a word of 64 bits, which begins again at
zero after the last one. To take a turn is one act, so resolutions that overlap stand in the order
in which they take theirs.
-/

namespace RangeFetch

/-- What a resolution was asked for, where in the list it read, and what it answered. -/
structure Resolution where
  identity : FileIdentity
  position : Option Nat
  answer : Except SourceError String

/-- How many of these resolutions read this position of the list. -/
def timesRead (position : Nat) (seen : List Resolution) : Nat :=
  (seen.map (·.position)).count (some position)

structure PeerRing where
  peers : List String
  turn : UInt64

namespace PeerRing

def ofList (peers : List String) : PeerRing := ⟨peers, 0⟩

def skip (r : PeerRing) (i : Nat) : PeerRing := ⟨r.peers, r.turn + .ofNat i⟩

def position (r : PeerRing) : Nat := r.turn.toNat % r.peers.length

/-- Reads the position whose turn it is. An empty list is left as it is. -/
def resolve (r : PeerRing) (id : FileIdentity) : Resolution × PeerRing :=
  if none : r.peers = [] then (⟨id, .none, .error (.unavailable id.hash)⟩, r)
  else
    let base := r.peers.get ⟨r.position, Nat.mod_lt _ (List.length_pos_iff.mpr none)⟩
    (⟨id, some r.position, .ok (contentUrl base id.hash)⟩, ⟨r.peers, r.turn + 1⟩)

def resolveAll : PeerRing → List FileIdentity → List Resolution
  | _, [] => []
  | r, id :: rest => (r.resolve id).1 :: (r.resolve id).2.resolveAll rest

variable (r : PeerRing)

@[simp] theorem skip_zero : r.skip 0 = r := by
  rw [skip, show UInt64.ofNat 0 = 0 from rfl, UInt64.add_zero]

theorem skip_one_skip (i : Nat) : (r.skip 1).skip i = r.skip (i + 1) := by
  rw [skip, skip, skip, Nat.add_comm, UInt64.ofNat_add, UInt64.add_assoc]

variable {r}

theorem resolve_of_nil (none : r.peers = []) (id : FileIdentity) :
    r.resolve id = (⟨id, .none, .error (.unavailable id.hash)⟩, r) := dif_pos none

theorem exists_base (some : r.peers ≠ []) : ∃ base, r.peers[r.position]? = .some base :=
  ⟨_, List.getElem?_eq_getElem (Nat.mod_lt _ (List.length_pos_iff.mpr some))⟩

theorem resolve_of_base {base : String} (there : r.peers[r.position]? = some base)
    (id : FileIdentity) :
    r.resolve id = (⟨id, some r.position, .ok (contentUrl base id.hash)⟩, r.skip 1) := by
  obtain ⟨inside, rfl⟩ := List.getElem?_eq_some_iff.mp there
  have nonempty : r.peers ≠ [] := List.ne_nil_of_length_pos (Nat.zero_lt_of_lt inside)
  exact dif_neg nonempty

end PeerRing

namespace PeerList

def ring (l : PeerList) : PeerRing := ⟨l.peers, .ofNat l.turn⟩

def resolveAll : PeerList → List FileIdentity → List (Except SourceError String)
  | _, [] => []
  | l, id :: rest => (l.resolve id).1 :: (l.resolve id).2.resolveAll rest

theorem ring_skip (l : PeerList) (i : Nat) : (l.skip i).ring = l.ring.skip i := by
  rw [ring, skip, UInt64.ofNat_add]
  rfl

end PeerList

end RangeFetch
