import Mathlib.Data.Int.CardIntervalMod
import RangeFetch.Proofs.Source.Addresses
import RangeFetch.Source.PeerRing

namespace RangeFetch

/-- The resolutions take the `n` positions of a list in turn, with `a` turns before them. -/
def TakeTurns (n a : Nat) (seen : List Resolution) : Prop :=
  ∀ i s, seen[i]? = some s → s.position = some ((a + i) % n)

theorem count_turns {n p : Nat} (inside : p < n) (a m : Nat) :
    (a / n + if p < a % n then 1 else 0) + Nat.count (fun i => (a + i) % n = p) m =
      (a + m) / n + if p < (a + m) % n then 1 else 0 := by
  have counted (b : Nat) :
      Nat.count (fun i => i % n = p) b = b / n + if p < b % n then 1 else 0 := by
    have card := Nat.count_modEq_card b (Nat.zero_lt_of_lt inside) p
    simp only [Nat.ModEq, Nat.mod_eq_of_lt inside] at card
    exact card
  rw [← counted, ← counted, Nat.count_add]

namespace TakeTurns

variable {n a p q : Nat} {seen : List Resolution}

theorem positions (h : TakeTurns n a seen) :
    seen.map (·.position) = (List.range seen.length).map fun i => some ((a + i) % n) := by
  refine List.ext_getElem (by simp) fun i inside _ => ?_
  rw [List.length_map] at inside
  rw [List.getElem_map, List.getElem_map, List.getElem_range]
  exact h i _ (List.getElem?_eq_getElem inside)

theorem timesRead_eq (h : TakeTurns n a seen) (p : Nat) :
    timesRead p seen = Nat.count (fun i => (a + i) % n = p) seen.length := by
  rw [timesRead, h.positions, List.count_eq_countP, List.countP_map, Nat.count]
  refine List.countP_congr fun i _ => ?_
  simp

theorem timesRead_eq_one (h : TakeTurns n a seen) (whole : seen.length = n) (inside : p < n) :
    timesRead p seen = 1 := by
  have turns := count_turns inside a n
  rw [Nat.add_mod_right, Nat.add_div_right a (Nat.zero_lt_of_lt inside)] at turns
  rw [h.timesRead_eq, whole]
  omega

theorem timesRead_le (h : TakeTurns n a seen) (first : p < n) (second : q < n) :
    timesRead p seen ≤ timesRead q seen + 1 := by
  have turns := count_turns first a seen.length
  have turns' := count_turns second a seen.length
  rw [h.timesRead_eq, h.timesRead_eq]
  -- both have the whole rounds; where the window begins and ends, one of them may have one more
  split_ifs at turns turns' <;> omega

theorem window_of {window : List Resolution} (h : TakeTurns n a seen) (part : window <:+: seen) :
    ∃ b, TakeTurns n b window := by
  obtain ⟨k, -, same⟩ := List.infix_iff_getElem?.mp part
  refine ⟨a + k, fun i s there => ?_⟩
  obtain ⟨inside, rfl⟩ := List.getElem?_eq_some_iff.mp there
  rw [Nat.add_assoc, Nat.add_comm k]
  exact h (i + k) _ (same i inside)

end TakeTurns

namespace PeerRing

variable {r : PeerRing}

theorem map_identity_resolveAll (r : PeerRing) (ids : List FileIdentity) :
    (r.resolveAll ids).map (·.identity) = ids := by
  induction ids generalizing r with
  | nil => rfl
  | cons id rest ih =>
    rw [resolveAll, List.map_cons, ih, resolve]
    split <;> rfl

theorem resolveAll_of_nil (none : r.peers = []) (ids : List FileIdentity) :
    r.resolveAll ids = ids.map fun id => ⟨id, .none, .error (.unavailable id.hash)⟩ := by
  induction ids with
  | nil => rfl
  | cons id rest ih => rw [resolveAll, resolve_of_nil none, ih, List.map_cons]

theorem resolveAll_of_ne_nil (some : r.peers ≠ []) (ids : List FileIdentity) :
    r.resolveAll ids = ids.mapIdx fun i id => ((r.skip i).resolve id).1 := by
  induction ids generalizing r with
  | nil => rfl
  | cons id rest ih =>
    obtain ⟨base, there⟩ := exists_base some
    have later := ih (r := r.skip 1) some
    simp only [skip_one_skip] at later
    rw [resolveAll, List.mapIdx_cons, skip_zero, ← later, resolve_of_base there]

theorem position_skip_ofList (peers : List String) (i : Nat) :
    ((ofList peers).skip i).position = i % 2 ^ 64 % peers.length := by
  have turn : ((ofList peers).skip i).turn.toNat = i % 2 ^ 64 := by
    rw [skip, ofList, UInt64.zero_add, UInt64.toNat_ofNat']
  rw [position, turn]
  rfl

theorem getElem?_resolveAll {peers : List String} (some : peers ≠ []) {ids : List FileIdentity}
    (few : ids.length ≤ 2 ^ 64) {i : Nat} {id : FileIdentity} (asked : ids[i]? = .some id) :
    ∃ base, peers[i % peers.length]? = .some base ∧
      ((ofList peers).resolveAll ids)[i]? =
        .some ⟨id, .some (i % peers.length), .ok (contentUrl base id.hash)⟩ := by
  have inside := (List.getElem?_eq_some_iff.mp asked).1
  have turn : ((ofList peers).skip i).position = i % peers.length := by
    rw [position_skip_ofList, Nat.mod_eq_of_lt (Nat.lt_of_lt_of_le inside few)]
  obtain ⟨base, there⟩ := exists_base (r := (ofList peers).skip i) some
  refine ⟨base, by rw [← turn]; exact there, ?_⟩
  rw [resolveAll_of_ne_nil (r := ofList peers) some, List.getElem?_mapIdx, asked, Option.map_some,
    resolve_of_base there, turn]

theorem takeTurns_resolveAll {peers : List String} (some : peers ≠ []) {ids : List FileIdentity}
    (few : ids.length ≤ 2 ^ 64) :
    TakeTurns peers.length 0 ((ofList peers).resolveAll ids) := by
  intro i s seen
  have same := map_identity_resolveAll (ofList peers) ids
  have asked : ids[i]? = .some s.identity := by
    rw [← same, List.getElem?_map, seen]
    rfl
  obtain ⟨base, -, there⟩ := getElem?_resolveAll some few asked
  rw [seen] at there
  rw [Option.some.inj there, Nat.zero_add]

/-- After the last word the count begins again at zero. The rotation goes on as before just if the
number of peers divides that of the words. -/
theorem position_goes_on_iff (peers : List String) :
    ((ofList peers).skip (2 ^ 64)).position =
        (((ofList peers).skip (2 ^ 64 - 1)).position + 1) % peers.length ↔
      peers.length ∣ 2 ^ 64 := by
  have words := Nat.two_pow_pos 64
  rw [position_skip_ofList, position_skip_ofList, Nat.mod_self, Nat.zero_mod,
    Nat.mod_eq_of_lt (Nat.sub_lt words Nat.one_pos), Nat.mod_add_mod, Nat.sub_add_cancel words]
  exact ⟨fun h => Nat.dvd_of_mod_eq_zero h.symm, fun h => (Nat.mod_eq_zero_of_dvd h).symm⟩

end PeerRing

namespace PeerList

theorem turn_resolve_le (l : PeerList) (id : FileIdentity) :
    (l.resolve id).2.turn ≤ l.turn + 1 := by
  rw [resolve]
  split
  · exact Nat.le_refl _
  · exact Nat.le_succ _

theorem ring_resolve (l : PeerList) (id : FileIdentity) (word : l.turn < 2 ^ 64) :
    (l.ring.resolve id).1.answer = (l.resolve id).1 ∧
      (l.ring.resolve id).2 = (l.resolve id).2.ring := by
  by_cases none : l.peers = []
  · have unread : l.resolve id = (.error (.unavailable id.hash), l) := by
      rw [resolve, none]
      rfl
    rw [PeerRing.resolve_of_nil (r := l.ring) none, unread]
    exact ⟨rfl, rfl⟩
  · have position : l.ring.position = (l.turn + 0) % l.peers.length := by
      rw [PeerRing.position, ring, UInt64.toNat_ofNat', Nat.mod_eq_of_lt word, Nat.add_zero]
    have there : l.ring.peers[l.ring.position]? = some (l.peer 0) := by
      rw [position]
      exact peer_of_ne_nil none 0
    rw [PeerRing.resolve_of_base there, resolve_of_ne_nil none, ring_skip]
    exact ⟨rfl, rfl⟩

theorem ring_resolveAll (l : PeerList) (ids : List FileIdentity)
    (few : l.turn + ids.length ≤ 2 ^ 64) :
    (l.ring.resolveAll ids).map (·.answer) = l.resolveAll ids := by
  induction ids generalizing l with
  | nil => rfl
  | cons id rest ih =>
    rw [List.length_cons] at few
    have turn := l.turn_resolve_le id
    obtain ⟨answer, next⟩ := l.ring_resolve id (by omega)
    rw [PeerRing.resolveAll, List.map_cons, answer, next, ih _ (by omega), resolveAll]

end PeerList

/-- The `i`-th resolution on a list of peers answers with an address at the peer `i` modulo its
length, so any window of turns is shared evenly; an empty list fails with the hash. Slashes at the
end of a base do not change its addresses, and different hashes have different ones. -/
theorem peers_share_turns (peers : List String) (ids : List FileIdentity) :
    let n := peers.length
    let seen := (PeerRing.ofList peers).resolveAll ids
    seen.map (·.identity) = ids ∧
      (peers = [] → ∀ s ∈ seen, s.answer = .error (.unavailable s.identity.hash)) ∧
      (peers ≠ [] → ids.length ≤ 2 ^ 64 →
        (∀ i id, ids[i]? = some id → ∃ base, peers[i % n]? = some base ∧
          seen[i]? = some ⟨id, some (i % n), .ok (contentUrl base id.hash)⟩) ∧
        ∀ window, window <:+: seen →
          (window.length = n → ∀ p < n, timesRead p window = 1) ∧
          ∀ p < n, ∀ q < n, timesRead p window ≤ timesRead q window + 1) ∧
      (ids.length ≤ 2 ^ 64 → seen.map (·.answer) = (PeerList.ofList peers).resolveAll ids) ∧
      ∀ base hash,
        (∃ front k, base = front ++ slashes k ∧ ¬ EndsInSlash front ∧
          contentUrl base hash = front ++ "/" ++ hash) ∧
        (∀ k, contentUrl (base ++ slashes k) hash = contentUrl base hash) ∧
        ∀ other, other ≠ hash → contentUrl base other ≠ contentUrl base hash := by
  intro n seen
  refine ⟨PeerRing.map_identity_resolveAll _ ids, fun none => ?_, fun some few => ⟨?_, ?_⟩,
    fun few => ?_, fun base hash => ⟨?_, contentUrl_append_slashes base hash, ?_⟩⟩
  · intro s mem
    have all : seen = ids.map fun id => ⟨id, .none, .error (.unavailable id.hash)⟩ :=
      PeerRing.resolveAll_of_nil none ids
    rw [all, List.mem_map] at mem
    obtain ⟨id, -, rfl⟩ := mem
    rfl
  · intro i id asked
    exact PeerRing.getElem?_resolveAll some few asked
  · intro window part
    obtain ⟨a, turns⟩ := (PeerRing.takeTurns_resolveAll some few).window_of part
    exact ⟨fun whole p => turns.timesRead_eq_one whole, fun p first q => turns.timesRead_le first⟩
  · exact (PeerList.ofList peers).ring_resolveAll ids (by rwa [PeerList.ofList, Nat.zero_add])
  · obtain ⟨front, k, parts, bare⟩ := exists_front base
    refine ⟨front, k, parts, bare, ?_⟩
    rw [parts, contentUrl_append_slashes, contentUrl_of_not_endsInSlash bare]
  · intro other different same
    exact different (contentUrl_injective base same)

theorem three_peers_share_turns :
    let peers := ["http://a//", "/", "http://a//"]
    let ids : List FileIdentity := ["h", "k", "h", "l", "h", "h", "k"].map (⟨·, 4⟩)
    let seen := (PeerRing.ofList peers).resolveAll ids
    let window (m : Nat) := (seen.drop 2).take m
    peers ≠ [] ∧ ids.length ≤ 2 ^ 64 ∧ ids[6]? = some ⟨"k", 4⟩ ∧
      seen[6]? = some ⟨⟨"k", 4⟩, some 0, .ok "http://a/k"⟩ ∧
      seen.map (·.answer) = (PeerList.ofList peers).resolveAll ids ∧
      (window 3).length = 3 ∧ timesRead 1 (window 3) = 1 ∧
      timesRead 2 (window 4) ≤ timesRead 1 (window 4) + 1 ∧
      (∀ s ∈ (PeerRing.ofList []).resolveAll ids,
        s.answer = .error (.unavailable s.identity.hash)) ∧
      contentUrl "//" "h" ≠ contentUrl "//" "k" := by
  intro peers ids seen window
  have few : ids.length ≤ 2 ^ 64 := by decide
  obtain ⟨same, -, taken, counted, joined⟩ := peers_share_turns peers ids
  obtain ⟨answers, shared⟩ := taken (by decide) few
  obtain ⟨base, there, sixth⟩ := answers 6 ⟨"k", 4⟩ rfl
  rw [show 6 % peers.length = 0 by decide] at there sixth
  have url : contentUrl base "k" = "http://a/k" := by
    rw [← Option.some.inj there]
    decide
  have part (m : Nat) : window m <:+: seen :=
    (List.take_prefix m _).isInfix.trans (List.drop_suffix 2 seen).isInfix
  have length : seen.length = 7 := by rw [← List.length_map, same]; rfl
  have whole : (window 3).length = 3 := by
    rw [List.length_take, List.length_drop, length]
    rfl
  refine ⟨by decide, few, rfl, ?_, counted few, whole, (shared _ (part 3)).1 whole 1 (by decide),
    (shared _ (part 4)).2 2 (by decide) 1 (by decide), (peers_share_turns [] ids).2.1 rfl,
    (joined "//" "k").2.2 "h" (by decide)⟩
  rw [← url]
  exact sixth

end RangeFetch
