import RangeFetch.Proofs.Download.Pacing
import RangeFetch.Proofs.Download.Placement

namespace RangeFetch

open Downloader (Happening Event)

namespace Downloader

variable {d d' : Downloader} {e : Event} {c : Chunk} {fired : List Firing}

/-- How many more requests may come for the chunk that is under way, if it is one of those that are
looked at. -/
def spare (d : Downloader) (p : Chunk → Bool) : Nat :=
  match d.phase with
  | .requesting c => if p c then d.options.maxRangeRestarts - d.rangeRestarts else 0
  | .streaming c _ =>
    if p c && d.rangeRestarts != 0 then d.options.maxRangeRestarts + 1 - d.rangeRestarts else 0
  | _ => 0

variable (p : Chunk → Bool)

theorem spare_of_request (before : ∀ c, d.phase ≠ .requesting c)
    (after : d'.phase = .requesting c)
    (few : d'.rangeRestarts ≤ d'.options.maxRangeRestarts) :
    (d.requester? d').toList.countP p + d'.spare p =
      if p c then d'.options.maxRangeRestarts + 1 - d'.rangeRestarts else 0 := by
  rw [requester?_eq_some before after, spare, after, Option.toList_some, List.countP_singleton]
  by_cases looked : p c = true
  · simp only [looked, if_true]
    omega
  · simp [looked]

theorem spare_of_none (after : ∀ c, d'.phase ≠ .requesting c) (none : d'.rangeRestarts = 0) :
    (d.requester? d').toList.countP p + d'.spare p = 0 := by
  rw [requester?_eq_none after, spare]
  cases phase : d'.phase with
  | requesting c => exact absurd phase (after c)
  | _ => simp [none]

theorem Fills.of_aligned {delivery : Delivery} {stream : Stream}
    (h : Fills d c delivery stream d' fired) (aligned : c.cursor = delivery.start) :
    ∀ c', d'.phase ≠ .requesting c' := by
  cases h with
  | seeks elsewhere => exact absurd aligned elsewhere
  | unfilled _ _ => simp
  | filled _ _ _ _ => simp
  | leaves _ _ _ _ => simp

theorem Moves.spare (h : Moves d e d' fired) (inv : d.Paced) :
    (d.requester? d').toList.countP p + d'.spare p ≤
      d.spare p + (d.options.maxRangeRestarts + 1) * (d.taken? e).toList.countP p := by
  cases h with
  | stays idle unanswered =>
    simp [requester?_self]
  | ends why =>
    rw [requester?_eq_none (by simp [finish])]
    exact Nat.zero_le _
  | @wakes c rest phase running first =>
    have none := inv.free (.inl phase)
    rw [spare_of_request p (by simp [phase]) rfl (by simp [request, shift, none]),
      taken?_take running first (.inl phase), Option.toList_some, List.countP_singleton]
    by_cases looked : p c = true <;> simp [looked, request, shift, none]
  | continues phase running first aligned used =>
    have none := inv.free (.inr ⟨_, _, phase⟩)
    refine Nat.le_trans (Nat.le_of_eq (spare_of_none p ?_ none)) (Nat.zero_le _)
    simp
  | @follows c rest leftover stream d' fired phase running first apart fills =>
    have none := inv.free (.inr ⟨_, _, phase⟩)
    rw [taken?_take running first (.inr ⟨_, _, phase⟩), Option.toList_some, List.countP_singleton]
    by_cases aligned : c.cursor = leftover.start
    · have same : d'.rangeRestarts = 0 := fills.stream.1.trans none
      rw [spare_of_none p (fills.of_aligned aligned) same]
      exact Nat.zero_le _
    · obtain ⟨rfl, -⟩ := fills.of_elsewhere aligned
      rw [spare_of_request p (by simp [phase]) rfl (by simp [seek, request, shift, none])]
      by_cases looked : p c = true <;> simp [looked, seek, request, shift, none]
  | connects phase aligned =>
    refine Nat.le_trans (Nat.le_of_eq (spare_of_none p ?_ rfl)) (Nat.zero_le _)
    simp
  | misconnects phase elsewhere seldom =>
    rw [requester?_eq_none (by simp)]
    simp [Downloader.spare, phase]
  | skips phase next =>
    rw [requester?_eq_none (by simp)]
    simp [Downloader.spare, phase]
  | @delivers c stream rest delivered d' fired phase next some fills =>
    -- only a stream that has opened elsewhere is given up for a chunk that it was opened for
    rcases inv.streaming _ _ phase with ⟨aligned, none⟩ | ⟨elsewhere, misled, few⟩
    · have same : d'.rangeRestarts = 0 := fills.stream.1.trans none
      rw [spare_of_none p (fills.of_aligned aligned) same]
      exact Nat.zero_le _
    · obtain ⟨rfl, -⟩ := fills.of_elsewhere elsewhere
      have asks : (d.seek c).phase = .requesting c := rfl
      rw [spare_of_request p (by simp [phase]) asks few]
      simp [Downloader.spare, phase, seek, request, Nat.ne_of_gt misled]
  | fails phase =>
    rw [requester?_eq_none (by simp)]
    exact Nat.zero_le _
  | stops phase =>
    rw [requester?_eq_none (by simp)]
    exact Nat.zero_le _

theorem Fills.requests {b : Downloader} {delivery : Delivery} {stream : Stream}
    (h : Fills d c delivery stream d' fired) (before : ∀ c, b.phase ≠ .requesting c) :
    d'.stats.requests = d.stats.requests + (b.requester? d').toList.length := by
  cases h with
  | seeks elsewhere =>
    rw [requester?_eq_some before rfl]
    rfl
  | unfilled aligned short =>
    rw [requester?_eq_none (by simp)]
    rfl
  | filled aligned enough counted atEnd =>
    rw [requester?_eq_none (by simp), counted]
    rfl
  | leaves aligned enough counted more =>
    rw [requester?_eq_none (by simp), counted]
    rfl

theorem Moves.requests (h : Moves d e d' fired) :
    d'.stats.requests = d.stats.requests + (d.requester? d').toList.length := by
  cases h with
  | stays idle unanswered => rw [requester?_self]; rfl
  | ends why =>
    rw [requester?_eq_none (by simp [finish])]
    exact why.same_requests.1
  | wakes phase running first =>
    rw [requester?_eq_some (by simp [phase]) rfl]
    rfl
  | follows phase running first apart fills => exact fills.requests (by simp [phase])
  | delivers phase next some fills => exact fills.requests (by simp [phase])
  | _ =>
    rw [requester?_eq_none (by simp)]
    rfl

theorem Moves.pending (h : Moves d e d' fired) (n : Nat) :
    Chunk.times n (d.taken? e).toList + Chunk.times n d'.queue.pending ≤
      Chunk.times n d.queue.pending := by
  have first {c : Chunk} {rest : List Chunk} (running : d.queue.stopped = false)
      (first : d.queue.pending = c :: rest)
      (waits : d.phase = .idle ∨ ∃ leftover stream, d.phase = .between leftover stream) :
      Chunk.times n (d.taken? .take).toList + Chunk.times n rest ≤
        Chunk.times n d.queue.pending := by
    rw [taken?_take running first waits, first, Option.toList_some]
    simp only [Chunk.times_cons, Chunk.times_nil]
    omega
  cases h with
  | stays idle unanswered => simp [idle]
  | ends why => simp [why.taken?, finish, ChunkQueue.close]
  | wakes phase running head => exact first running head (.inl phase)
  | continues phase running head aligned used => exact first running head (.inr ⟨_, _, phase⟩)
  | follows phase running head apart fills =>
    rw [fills.same.2.2]
    exact first running head (.inr ⟨_, _, phase⟩)
  | delivers phase next some fills =>
    rw [fills.same.2.2]
    simp [taken?]
  | _ => simp [taken?]

end Downloader

namespace History

variable {h h' : History} {first limit : Nat} {requesters : List Chunk}

theorem Asks.keeps (asks : Asks h first limit h') :
    h'.downloader.phase = h.downloader.phase ∧ h'.downloader.options = h.downloader.options ∧
      h'.downloader.rangeRestarts = h.downloader.rangeRestarts ∧
      h'.downloader.stats.requests = h.downloader.stats.requests ∧ h'.taken = h.taken ∧
      h'.requested = h.requested := by
  cases asks with
  | backwards fresh => exact ⟨rfl, rfl, rfl, rfl, rfl, rfl⟩
  | handsBack fresh refuses => exact ⟨rfl, rfl, rfl, rfl, rfl, rfl⟩
  | accepts fresh takes => cases takes <;> exact ⟨rfl, rfl, rfl, rfl, rfl, rfl⟩

theorem Asks.pending (asks : Asks h first limit h') (n : Nat) :
    Chunk.times n h'.downloader.queue.pending ≤
      Chunk.times n h.downloader.queue.pending + (h.asked.length == n).toNat := by
  cases asks with
  | backwards fresh => exact Nat.le_add_right _ _
  | handsBack fresh refuses => exact Nat.le_add_right _ _
  | accepts fresh takes =>
    cases takes with
    | completes past => exact Nat.le_add_right _ _
    | queues within closed =>
      have signal := (Chunk.of_request fresh).1
      apply Nat.le_of_eq
      rw [Downloader.times_insert, Chunk.times_cons, Chunk.signal_clampTo, signal]

/-- What has been requested so far, by chunks, and what may still be. -/
structure Metered (h : History) (requesters : List Chunk) : Prop where
  sound : h.downloader.Sound
  paced : h.downloader.Paced
  spent : ∀ p, requesters.countP p + h.downloader.spare p ≤
    (h.downloader.options.maxRangeRestarts + 1) * h.taken.countP p
  offsets : h.requested = requesters.map Chunk.cursor
  requests : h.downloader.stats.requests = requesters.length
  /-- No chunk is taken twice. -/
  takenOnce : ∀ n, Chunk.times n h.taken + Chunk.times n h.downloader.queue.pending ≤
    if n < h.asked.length then 1 else 0

theorem Metered.ask (inv : h.Metered requesters) (first limit : Nat) :
    (h.ask first limit).Metered requesters := by
  have asks := h.ask_asks first limit
  have sound : (h.ask first limit).downloader.Sound := sound_run [.ask first limit] h inv.sound
  obtain ⟨phase, options, restarts, requests, taken, requested⟩ := asks.keeps
  refine ⟨sound, inv.paced.keep options phase restarts, ?_, ?_, ?_, ?_⟩
  · intro p
    have spent := inv.spent p
    rw [Downloader.spare] at spent ⊢
    rw [phase, options, restarts, taken]
    exact spent
  · rw [requested, inv.offsets]
  · rw [requests, inv.requests]
  · intro n
    have once := inv.takenOnce n
    have pending := asks.pending n
    rw [taken, asks.asked, List.length_append, List.length_singleton]
    -- the signal of this offer is new, and its chunk has not been taken
    by_cases latest : h.asked.length = n
    · have one : (h.asked.length == n).toNat ≤ 1 := Bool.toNat_le _
      rw [if_neg (by omega)] at once
      rw [if_pos (by omega)]
      omega
    · have other : n < h.asked.length + 1 ↔ n < h.asked.length := by omega
      rw [beq_false_of_ne latest, Bool.toNat_false] at pending
      simp only [other]
      omega

theorem Metered.stop (inv : h.Metered requesters) : (h.step .stop).Metered requesters := by
  obtain ⟨sound, paced, spent, offsets, requests, takenOnce⟩ := inv
  exact ⟨sound.stop, paced.keep rfl rfl rfl, spent, offsets, requests, takenOnce⟩

theorem Metered.move (inv : h.Metered requesters) (e : Event) :
    (h.move e).Metered
      (requesters ++ (h.downloader.requester? (h.downloader.step e).1).toList) := by
  have moves := h.downloader.step_moves e
  refine ⟨moves.sound inv.sound, moves.paced inv.sound inv.paced, ?_, ?_, ?_, ?_⟩
  · intro p
    have before := inv.spent p
    have spare := moves.spare p inv.paced
    have options : (h.move e).downloader.options = h.downloader.options := moves.same.2.1
    rw [options, List.countP_append, History.move, List.countP_append, Nat.mul_add]
    dsimp only
    omega
  · rw [History.move, inv.offsets, List.map_append, Downloader.requested?_eq_map]
    cases h.downloader.requester? (h.downloader.step e).1 <;> rfl
  · rw [History.move, moves.requests, inv.requests, List.length_append]
  · intro n
    have once := inv.takenOnce n
    have pending := moves.pending n
    refine Nat.le_trans ?_ once
    simp only [History.move, Chunk.times_append]
    omega

theorem metered_run (xs : List Happening) (identity : FileIdentity) (options : DownloadOptions) :
    ((start identity options).run xs).Metered ((start identity options).requesters xs) := by
  have atFirst : (start identity options).Metered [] := by
    refine ⟨Downloader.sound_start identity options, Downloader.paced_start identity options,
      fun p => ?_, rfl, rfl, fun n => ?_⟩
    · exact Nat.zero_le _
    · exact Nat.zero_le _
  exact collect_induction (P := Metered) (fun _ _ first limit inv => inv.ask first limit)
    (fun _ _ inv => inv.stop) (fun _ _ e inv => inv.move e) xs _ [] atFirst

theorem options_run (xs : List Happening) (identity : FileIdentity) (options : DownloadOptions) :
    ((start identity options).run xs).downloader.options = options := by
  refine downloader_induction (P := fun d => d.options = options) ?_ ?_ ?_ xs _ rfl
  · intro d c d' fired takes same
    cases takes <;> exact same
  · exact fun d same => same
  · exact fun d e same => (d.step_same e).2.1.trans same

theorem Metered.count_le (inv : h.Metered requesters) (c : Chunk) :
    requesters.count c ≤ h.downloader.options.maxRangeRestarts + 1 ∧
      (c ∈ requesters → c ∈ h.taken) := by
  have spent : requesters.count c ≤
      (h.downloader.options.maxRangeRestarts + 1) * h.taken.count c :=
    Nat.le_trans (Nat.le_add_right _ _) (inv.spent (· == c))
  -- signals tell chunks apart, so none is taken twice
  have alike : h.taken.count c ≤ Chunk.times c.signal h.taken := by
    apply List.countP_mono_left
    intro c' _ same
    rw [eq_of_beq same]
    exact beq_self_eq_true _
  have once : Chunk.times c.signal h.taken ≤ 1 := by
    have once := inv.takenOnce c.signal
    split at once <;> omega
  constructor
  · have one : h.taken.count c ≤ 1 := Nat.le_trans alike once
    calc requesters.count c ≤ (h.downloader.options.maxRangeRestarts + 1) * h.taken.count c := spent
      _ ≤ (h.downloader.options.maxRangeRestarts + 1) * 1 := Nat.mul_le_mul_left _ one
      _ = h.downloader.options.maxRangeRestarts + 1 := Nat.mul_one _
  · intro requests
    have some := List.count_pos_iff.mpr requests
    apply List.count_pos_iff.mp
    apply Nat.pos_of_ne_zero
    intro none
    rw [none, Nat.mul_zero] at spent
    omega

/-- Against every source, however it lies about offsets: a stream that opened elsewhere than asked
fills nothing, and neither do more of them come in a row than are allowed and one, nor more requests
for one chunk. The source is blamed with the last of them, and else only where it blames itself. -/
theorem astray_streams_bounded (identity : FileIdentity) (options : DownloadOptions)
    (xs : List Happening) :
    let h := (start identity options).run xs
    let opened := (start identity options).connections xs
    let requesters := (start identity options).requesters xs
    (∀ last, opened.getLast? = some last → last.isAstray = true → ∀ e,
        (∀ c ∈ (h.move e).downloader.outstanding, c ∈ h.downloader.outstanding) ∧
          (∀ x ∈ (h.downloader.step e).2, ∃ error, x.result = .failed error) ∧
          (h.move e).downloader.stats.bytesDelivered = h.downloader.stats.bytesDelivered ∧
          (h.move e).downloader.stats.chunksCompleted = h.downloader.stats.chunksCompleted) ∧
      h.downloader.rangeRestarts = Connection.astrayInARow opened ∧
      Connection.astrayInARow opened ≤ options.maxRangeRestarts + 1 ∧
      (h.downloader.phase = .idle → Connection.astrayInARow opened = 0) ∧
      (h.downloader.phase.isOver = false → ∀ e first attempts,
        (∃ shown rest, (h.move e).downloader.phase =
            .failing shown (.source (.rangeNotHonored first attempts)) rest) ↔
          h.downloader.reported? e = some (.rangeNotHonored first attempts) ∨
          ∃ last, h.downloader.connection? e = some last ∧ last.requested = first ∧
            Connection.astrayInARow (opened ++ [last]) = options.maxRangeRestarts + 1 ∧
            attempts = options.maxRangeRestarts + 1) ∧
      (∀ c ∈ h.taken, requesters.count c ≤ options.maxRangeRestarts + 1) ∧
      (∀ c ∈ requesters, c ∈ h.taken) ∧ h.requested = requesters.map Chunk.cursor ∧
      h.downloader.stats.requests = h.requested.length ∧
      h.downloader.stats.requests ≤ (options.maxRangeRestarts + 1) * h.taken.length := by
  intro h opened requesters
  have attached : h.downloader.Attached opened := attached_run xs identity options
  have inv : h.Metered requesters := metered_run xs identity options
  have same : h.downloader.options = options := options_run xs identity options
  have most := inv.paced.most
  rw [attached.restarts, same] at most
  refine ⟨?_, attached.restarts, most, ?_, ?_, ?_, ?_, inv.offsets, ?_, ?_⟩
  · intro last latest astray e
    have misled := Connection.astrayInARow_pos latest astray
    rw [← attached.restarts] at misled
    exact (h.downloader.step_moves e).unfilled inv.paced misled
  · intro idle
    rw [← attached.restarts]
    exact inv.paced.free (.inl idle)
  · intro busy e first attempts
    rw [← same]
    exact Downloader.notHonored_iff inv.paced attached busy e first attempts
  · intro c _
    rw [← same]
    exact (inv.count_le c).1
  · exact fun c => (inv.count_le c).2
  · rw [inv.offsets, List.length_map, inv.requests]
  · have spent := inv.spent fun _ => true
    rw [List.countP_true, same] at spent
    rw [inv.requests]
    exact Nat.le_trans (Nat.le_add_right _ _) spent

def misleading : List Happening :=
  [.ask 2 4, .move .take, .move (.opened (.ok ⟨0, [.bytes [0, 1]], .eof⟩)), .move .deliver,
    .move (.opened (.ok ⟨2, [.bytes [2, 3]], .silent⟩)), .move .deliver, .ask 0 1, .move .take,
    .move (.opened (.ok ⟨4, [.bytes [], .bytes [4]], .eof⟩)), .move .deliver, .move .deliver]

theorem misleading_bounded :
    let options := DownloadOptions.standard.set (.restarts 1)
    let h := (start ⟨"", 6⟩ options).run misleading
    let again := Event.opened (.ok ⟨4, [.bytes [4]], .eof⟩)
    ((start ⟨"", 6⟩ options).connections misleading).map Connection.isAstray =
        [true, false, true] ∧
      (h.move again).downloader.stats.bytesDelivered = 2 ∧
      (∃ shown rest, (h.move again).downloader.phase =
        .failing shown (.source (.rangeNotHonored 0 2)) rest) ∧
      h.downloader.stats.requests = 4 ∧ h.taken.length = 2 ∧
      h.downloader.stats.requests ≤ (options.maxRangeRestarts + 1) * h.taken.length := by
  intro options h again
  obtain ⟨unfilled, -, -, -, guard, -, -, -, -, requests⟩ :=
    astray_streams_bounded ⟨"", 6⟩ options misleading
  have reached : (start ⟨"", 6⟩ options).run misleading = h := rfl
  simp only [reached] at unfilled guard requests
  have last : ((start ⟨"", 6⟩ options).connections misleading).getLast? =
      some ⟨0, ⟨4, [.bytes [], .bytes [4]], .eof⟩⟩ := by decide
  have delivered := (unfilled _ last rfl again).2.2.1
  have answers : h.downloader.connection? again = some ⟨0, ⟨4, [.bytes [4]], .eof⟩⟩ := by decide
  have failing := (guard (by decide) again 0 2).mpr
    (.inr ⟨_, answers, rfl, by decide, by decide⟩)
  exact ⟨by decide, delivered.trans (by decide), failing, by decide, by decide, requests⟩

/-- A source that answers a request with this very error: the downloader passes it on, with the
source's numbers and without any stream. -/
theorem blamed_without_streams :
    let h := (start ⟨"", 6⟩ .standard).run [.ask 2 4, .move .take]
    let blame := Event.opened (.error (.rangeNotHonored 5 99))
    let opened := (start ⟨"", 6⟩ .standard).connections [.ask 2 4, .move .take, .move blame]
    (∃ shown rest, (h.move blame).downloader.phase =
        .failing shown (.source (.rangeNotHonored 5 99)) rest) ∧
      opened = [] ∧
      Connection.astrayInARow opened ≠ DownloadOptions.standard.maxRangeRestarts + 1 := by
  intro h blame opened
  exact ⟨⟨_, _, rfl⟩, rfl, by decide⟩

end History

end RangeFetch
