import RangeFetch.Proofs.Download.Custody

namespace RangeFetch

open Downloader (Happening Event)

namespace History

variable {h h' : History} {start limit : Nat}

theorem sound_run (xs : List Happening) (h : History) (sound : h.downloader.Sound) :
    (h.run xs).downloader.Sound :=
  downloader_induction (fun _ _ _ _ takes => takes.sound) (fun _ => Downloader.Sound.stop)
    (fun d e => (d.step_moves e).sound) xs h sound

/-- How often a signal has fired or may still fire, or its chunk was handed back. -/
def times (h : History) (n : Nat) : Nat :=
  Firing.times n h.fired + Chunk.times n h.downloader.outstanding + Chunk.times n h.handedBack

/-- Each signal is in one place, and no other signals are. -/
def Placed (h : History) : Prop := ∀ n, h.times n = if n < h.asked.length then 1 else 0

theorem Asks.asked (asks : Asks h start limit h') : h'.asked = h.asked ++ [(start, limit)] := by
  cases asks <;> rfl

theorem Asks.times (asks : Asks h start limit h') (n : Nat) :
    h'.times n = h.times n + (h.asked.length == n).toNat := by
  cases asks with
  | backwards fresh =>
    simp only [History.times, Firing.times_append, Firing.times_cons, Firing.times_nil,
      Chunk.of_request_error fresh]
    omega
  | accepts fresh takes =>
    have custody := takes.custody n
    obtain ⟨signal, -⟩ := Chunk.of_request fresh
    rw [Chunk.times_cons, Chunk.times_nil, signal] at custody
    simp only [History.times, Firing.times_append]
    omega
  | handsBack fresh refuses =>
    obtain ⟨signal, -⟩ := Chunk.of_request fresh
    simp only [History.times, Chunk.times_append, Chunk.times_cons, Chunk.times_nil,
      refuses.signal_of_error, signal]
    omega

theorem Asks.handedBack_of_ne (asks : Asks h start limit h') {n : Nat}
    (other : h.asked.length ≠ n) :
    Chunk.times n h'.handedBack = Chunk.times n h.handedBack := by
  cases asks with
  | backwards fresh => rfl
  | accepts fresh takes => rfl
  | handsBack fresh refuses =>
    have signal := refuses.signal_of_error.trans (Chunk.of_request fresh).1
    simp [signal, other]

theorem fired_prefix_run (xs : List Happening) (h : History) : h.fired <+: (h.run xs).fired := by
  induction xs generalizing h with
  | nil => exact List.prefix_rfl
  | cons x rest ih =>
    refine List.IsPrefix.trans ?_ (ih (h.step x))
    cases x with
    | stop => exact List.prefix_rfl
    | move e => exact List.prefix_append _ _
    | ask start limit =>
      have asks := h.ask_asks start limit
      change h.fired <+: (h.ask start limit).fired
      generalize h.ask start limit = h' at asks
      cases asks with
      | backwards fresh => exact List.prefix_append _ _
      | accepts fresh takes => exact List.prefix_append _ _
      | handsBack fresh refuses => exact List.prefix_rfl

theorem times_move (h : History) (e : Event) (n : Nat) : (h.move e).times n = h.times n := by
  have custody := (h.downloader.step_moves e).custody n
  simp only [times, move, Firing.times_append]
  omega

theorem placed_run (xs : List Happening) (h : History) (inv : h.Placed) : (h.run xs).Placed := by
  induction xs generalizing h with
  | nil => exact inv
  | cons x rest ih =>
    apply ih
    intro n
    have place := inv n
    cases x with
    | stop => exact place
    | move e => exact (h.times_move e n).trans place
    | ask start limit =>
      have asks := h.ask_asks start limit
      change (h.ask start limit).times n = if n < (h.ask start limit).asked.length then 1 else 0
      rw [asks.times n, asks.asked, List.length_append, List.length_singleton, place]
      by_cases latest : h.asked.length = n
      · simp [latest]
      · have other : n < h.asked.length + 1 ↔ n < h.asked.length := by omega
        simp [other, latest]

theorem placed_start (identity : FileIdentity) (options : DownloadOptions) :
    (History.start identity options).Placed := fun _ => rfl

theorem times_run_of_lt {n : Nat} (xs : List Happening) (h : History)
    (asked : n < h.asked.length) :
    (h.run xs).times n = h.times n ∧
      Chunk.times n (h.run xs).handedBack = Chunk.times n h.handedBack := by
  induction xs generalizing h with
  | nil => exact ⟨rfl, rfl⟩
  | cons x rest ih =>
    cases x with
    | stop => exact ih _ asked
    | move e =>
      obtain ⟨total, handedBack⟩ := ih (h.move e) asked
      exact ⟨total.trans (h.times_move e n), handedBack⟩
    | ask start limit =>
      have asks := h.ask_asks start limit
      have other : h.asked.length ≠ n := Nat.ne_of_gt asked
      have later : n < (h.ask start limit).asked.length := by
        rw [asks.asked, List.length_append]
        omega
      obtain ⟨total, handedBack⟩ := ih (h.ask start limit) later
      refine ⟨total.trans ?_, handedBack.trans (asks.handedBack_of_ne other)⟩
      simp [asks.times, other]

theorem times_fired_run {n : Nat} (xs : List Happening) (h : History)
    (asked : n < h.asked.length) (settled : Chunk.times n h.downloader.outstanding = 0) :
    Firing.times n (h.run xs).fired = Firing.times n h.fired := by
  obtain ⟨total, handedBack⟩ := times_run_of_lt xs h asked
  have fired : Firing.times n h.fired ≤ Firing.times n (h.run xs).fired :=
    (fired_prefix_run xs h).sublist.countP_le
  simp only [times] at total
  omega

/-- The signal of an outstanding chunk has not fired. Once the chunk is not outstanding any more,
it has fired once. -/
theorem Placed.times_of_outstanding {c : Chunk} (inv : h.Placed)
    (outstanding : c ∈ h.downloader.outstanding) :
    c.signal < h.asked.length ∧ Firing.times c.signal h.fired = 0 ∧ ∀ xs : List Happening,
      Chunk.times c.signal (h.run xs).downloader.outstanding = 0 →
        Firing.times c.signal (h.run xs).fired = 1 := by
  have place := inv c.signal
  have there : 0 < Chunk.times c.signal h.downloader.outstanding :=
    List.countP_pos_iff.mpr ⟨c, outstanding, by simp⟩
  rw [times] at place
  have asked : c.signal < h.asked.length := by
    by_cases known : c.signal < h.asked.length
    · exact known
    · rw [if_neg known] at place
      omega
  rw [if_pos asked] at place
  refine ⟨asked, by omega, fun xs gone => ?_⟩
  obtain ⟨total, handedBack⟩ := times_run_of_lt xs h asked
  simp only [times] at total
  omega

end History

end RangeFetch
