import RangeFetch.Proofs.File.Accounting
import RangeFetch.Proofs.File.Pursuit

namespace RangeFetch

namespace SharedFile

variable {s s' : SharedFile} {c : Chunk} {i n : Nat} {call : Call} {identity : FileIdentity}

/-- A read that is answered with an error has its signal fired with what that error tells. -/
def Agrees (s : SharedFile) : Prop :=
  ∀ n e, (n, .error e) ∈ s.answers → ⟨n, .failed e.told⟩ ∈ s.fired

theorem Agrees.keep (inv : s.Agrees) (answers : s'.answers = s.answers)
    (fires : s.fired ⊆ s'.fired) : s'.Agrees := by
  intro n e mem
  rw [answers] at mem
  exact fires (inv n e mem)

theorem Told.told_eq (told : s.Told) (mem : call ∈ s.calls) {e : FileError}
    (has : call.stage.errand? = some (.refused c e)) : e.told = e.forChunk := by
  rcases told.refused call mem c e has with rfl | ⟨text, rfl⟩ <;> rfl

theorem Proceeds.agrees (h : Proceeds s i s') (told : s.Told) (inv : s.Agrees) : s'.Agrees := by
  cases h with
  | stays => exact inv
  | sets found signal taken fires turn slot same => exact inv.keep rfl fires
  | @returns call errand found stage =>
    intro n e mem
    rcases List.mem_append.mp mem with old | new
    · exact List.mem_append_left _ (inv n e old)
    · cases errand with
      | refused c error =>
        cases List.mem_singleton.mp new
        have same := told.told_eq (List.mem_of_getElem? found) (congrArg CallStage.errand? stage)
        rw [same]
        exact List.mem_append_right _ (List.mem_singleton_self _)
      | queued signal => cases List.mem_singleton.mp new
      | release => cases new

theorem agrees_ask (inv : s.Agrees) (caller : Option Nat) (first limit : Nat) :
    (s.ask caller first limit).Agrees := by
  rcases s.ask_cases caller first limit with ⟨result, answer, file, -, tells, h⟩ | ⟨c, -, h⟩
  · rw [h]
    intro n e mem
    rcases List.mem_append.mp mem with old | new
    · exact List.mem_append_left _ (inv n e old)
    · cases List.mem_singleton.mp new
      rw [← tells e rfl]
      exact List.mem_append_right _ (List.mem_singleton_self _)
  · rw [h]
    exact inv

theorem agrees_step (told : s.Told) (inv : s.Agrees) (x : Happening) : (s.step x).Agrees := by
  cases x with
  | ask caller first limit => exact agrees_ask inv caller first limit
  | release caller =>
    rw [step, release]
    split <;> exact inv
  | advance i => exact (s.advance_proceeds i).agrees told inv
  | launchFails i text => exact (s.launchFails_proceeds i text).agrees told inv
  | move k e => exact inv.keep rfl (List.subset_append_left _ _)

theorem agrees_run (xs : List Happening) (kept : s.Kept) (inv : s.Agrees) :
    (s.run xs).Agrees := by
  induction xs generalizing s with
  | nil => exact inv
  | cons x rest ih => exact ih ((s.step_happens x).kept kept) (agrees_step kept.told inv x)

theorem eq_singleton_of_mem {α : Type} {l : List α} {a : α} (mem : a ∈ l) (most : l.length ≤ 1) :
    l = [a] := by
  obtain ⟨b, one⟩ :=
    List.length_eq_one_iff.mp (Nat.le_antisymm most (List.length_pos_of_mem mem))
  rw [one] at mem ⊢
  rw [List.mem_singleton.mp mem]

theorem Placed.resultsOf_eq (placed : s.Placed) {result : Completion}
    (mem : ⟨n, result⟩ ∈ s.fired) : s.resultsOf n = [result] := by
  have most := placed.timesFired_le_one n
  rw [timesFired, Firing.times, List.countP_eq_length_filter] at most
  rw [resultsOf, eq_singleton_of_mem (List.mem_filter.mpr ⟨mem, by simp⟩) most]
  rfl

theorem AnsweredOnce.answersOf_eq (once : s.AnsweredOnce) {answer : Except FileError Unit}
    (mem : answer ∈ s.answersOf n) : s.answersOf n = [answer] := by
  have total := once n
  have most : (if n < s.asked.length then 1 else 0) ≤ 1 := by split <;> omega
  rw [timesAnswered_eq] at total
  exact eq_singleton_of_mem mem (by omega)

theorem Kept.fresh (kept : s.Kept) (once : s.AnsweredOnce) :
    s.callsOf s.asked.length = [] ∧ s.takersOf s.asked.length = [] ∧
      s.answersOf s.asked.length = [] := by
  have total := once s.asked.length
  rw [if_neg (Nat.lt_irrefl _), timesAnswered_eq, timesCalled_eq] at total
  refine ⟨List.eq_nil_of_length_eq_zero (by omega), ?_, List.eq_nil_of_length_eq_zero (by omega)⟩
  rw [takersOf, List.map_eq_nil_iff, List.filter_eq_nil_iff]
  rintro ⟨k, n⟩ mem same
  -- what was accepted has fired or is outstanding, and is then among those asked for
  obtain rfl : n = s.asked.length := by simpa using same
  have place := kept.placed s.asked.length
  rw [if_neg (Nat.lt_irrefl _), times] at place
  have held := kept.accepted.outstanding_or_fired mem
  omega

theorem pursued_ask (kept : s.Kept) (once : s.AnsweredOnce) (housed : s.Housed identity)
    (turns : s.turns ≤ 1) (caller : Option Nat) {first limit : Nat} (ordered : first ≤ limit)
    (open_ : s.file.released = false) (within : first < identity.size) :
    ∃ c : Chunk, c.signal = s.asked.length ∧ c.offset = first ∧
      c.limit = min limit identity.size ∧ c.buffer = [] ∧
      (s.step (.ask caller first limit)).Pursued identity c ∧
      (s.step (.ask caller first limit)).aheadOf c.signal = 5 := by
  obtain ⟨calls, takers, answers⟩ := kept.fresh once
  have asks := ask_of_within caller ordered open_ (by rw [housed.file]; exact within)
  have only : (s.ask caller first limit).callsOf s.asked.length =
      [⟨caller, .entering ⟨s.asked.length, first, limit, [], ordered⟩, []⟩] := by
    rw [callsOf] at calls
    rw [asks, callsOf, List.filter_append, calls]
    simp [CallStage.signal?]
  refine ⟨Chunk.clampTo ⟨s.asked.length, first, limit, [], ordered⟩ identity.size, rfl, rfl, ?_, rfl,
    ⟨(s.step_happens _).kept kept, (s.step_acts _).answeredOnce once,
      (s.step_happens _).housed housed, turns_le_one_step turns _,
      (released_of_harmless rfl).trans open_, within, ?_⟩, ?_⟩
  · rw [Chunk.limit_clampTo, Chunk.cursor_of_fresh rfl, Nat.max_eq_left (Nat.le_of_lt within)]
  · refine .inHand only rfl ?_ (fun stage => by cases stage) ?_ ?_
    · rw [step, asks, housed.file]
    · rw [step, asks]
      exact takers
    · rw [step, asks]
      exact answers
  · rw [step, Chunk.signal_clampTo, aheadOf, only]
    rfl

theorem agrees_start (identity : FileIdentity) (options : DownloadOptions) :
    (start identity options).Agrees := by
  intro n e mem
  cases mem

/-- What a call for a read answers agrees with its signal. A backwards range, a released file and a
read past the end are answered at once. While nobody releases the file, any other read is accepted
by one downloader, after five steps and two for each time that its chunk is handed back. -/
theorem answer_agrees_with_signal (identity : FileIdentity) (options : DownloadOptions)
    (before : List Happening) (caller : Option Nat) (first limit : Nat) :
    let s := (start identity options).run before
    let s₁ := s.step (.ask caller first limit)
    let n := s.asked.length
    (limit < first → s₁ = s.answered first limit (.failed (.invalidRange first limit))
      (.error (.invalidRange first limit))) ∧
    (first ≤ limit → s.file.released = true →
      s₁ = s.answered first limit (.failed .cancelled) (.error .released)) ∧
    (first ≤ limit → s.file.released = false → identity.size ≤ first →
      s₁ = { s.answered first limit (.served ⟨first, []⟩) (.ok ()) with
        file := s.file.countComplete } ∧
      s₁.file.stats = { s.file.stats with chunksCompleted := s.file.stats.chunksCompleted + 1 }) ∧
    (first ≤ limit → s.file.released = false → first < identity.size →
      s₁.file = s.file ∧ s₁.fired = s.fired ∧
      ∃ c : Chunk, c.signal = n ∧ c.offset = first ∧ c.limit = min limit identity.size ∧
        c.buffer = [] ∧ ∀ after : List Happening, (∀ x ∈ after, x.isHarmless = true) →
          let s₂ := s₁.run after
          s₂.Stands c ∧
          (s₂.answersOf n = [.ok ()] ↔
            s₁.howMany (goesOn n) after = 5 + 2 * s₁.howMany (isHandedBack n) after) ∧
          ∀ x : Happening, x.isHarmless = true →
            (s₂.signalOf? x = some n →
              (∃ i, x = .advance i ∧ Attends s₂ c i (s₂.step x)) ∧
                (s₂.step x).fired = s₂.fired) ∧
            (s₂.signalOf? x ≠ some n →
              ∀ call ∈ s₂.callsOf n, call.stage.hasTurn = true →
                (s₂.step x).file.inUse = s₂.file.inUse)) ∧
    ∀ after : List Happening,
      let s₂ := s₁.run after
      (∀ answer ∈ s₂.answersOf n, s₂.answersOf n = [answer]) ∧
      (∀ result, ⟨n, result⟩ ∈ s₂.fired → s₂.resultsOf n = [result]) ∧
      ∀ e, .error e ∈ s₂.answersOf n → s₂.resultsOf n = [.failed e.told] := by
  intro s s₁ n
  have kept : s.Kept := run_induction (fun _ _ h => h.kept) before (kept_start identity options)
  have once : s.AnsweredOnce := answeredOnce_run before identity options
  have housed : s.Housed identity :=
    run_induction (fun _ _ h => h.housed) before (housed_start identity options)
  have turns : s.turns ≤ 1 := turns_le_one_run before (Nat.zero_le _)
  have agrees : s.Agrees :=
    agrees_run before (kept_start identity options) (agrees_start identity options)
  refine ⟨ask_of_backwards caller, ask_of_released caller, ?_, ?_, ?_⟩
  · intro ordered open_ past
    have asks := ask_of_past caller ordered open_ (by rw [housed.file]; exact past)
    refine ⟨asks, ?_⟩
    change (s.ask caller first limit).file.stats = _
    rw [asks]
    exact s.file.stats_countComplete
  · intro ordered open_ within
    have asks := ask_of_within caller ordered open_ (by rw [housed.file]; exact within)
    refine ⟨congrArg (·.file) asks, congrArg (·.fired) asks, ?_⟩
    obtain ⟨c, signal, offset, clamped, empty, pursued, ahead⟩ :=
      pursued_ask kept once housed turns caller ordered open_ within
    refine ⟨c, signal, offset, clamped, empty, fun after harmless => ?_⟩
    obtain ⟨inv, law⟩ := pursued.run after harmless
    have returned := inv.stands.answersOf_eq_iff
    have same : c.signal = n := signal
    rw [← same]
    refine ⟨inv.stands, ?_, fun x harmless' => ⟨fun own => ?_, fun other call mem turn => ?_⟩⟩
    · have steps : s₁.howMany (goesOn c.signal) after + (s₁.run after).aheadOf c.signal =
          5 + 2 * s₁.howMany (isHandedBack c.signal) after := by
        rw [← ahead]
        exact law
      rw [returned]
      change (s₁.run after).aheadOf c.signal = 0 ↔ _
      omega
    · obtain ⟨i, advances, -, attends⟩ := inv.attends_of_own harmless' own
      exact ⟨⟨i, advances, attends⟩, attends.fired⟩
    · exact inUse_of_turn inv.turns mem turn other
  · intro after s₂
    have kept₂ : s₂.Kept :=
      run_induction (fun _ _ h => h.kept) after ((s.step_happens _).kept kept)
    have once₂ : s₂.AnsweredOnce :=
      acts_induction (fun _ _ _ h => h.answeredOnce) after ((s.step_acts _).answeredOnce once)
    have agrees₂ : s₂.Agrees :=
      agrees_run after ((s.step_happens _).kept kept) (agrees_step kept.told agrees _)
    refine ⟨fun answer => once₂.answersOf_eq, fun result => kept₂.placed.resultsOf_eq, ?_⟩
    intro e mem
    obtain ⟨⟨m, answer⟩, told, rfl⟩ := List.mem_map.mp mem
    obtain ⟨there, own⟩ := List.mem_filter.mp told
    have same : m = n := by simpa using own
    rw [same] at there
    exact kept₂.placed.resultsOf_eq (agrees₂ n e there)

/-- A read is served. The next one finds the downloader running, which then waits in vain and
closes before it is offered the chunk; a second one is started, and the first one ends. -/
def handingBack : List Happening :=
  [.advance 0, .advance 0, .move 0 .take, .advance 0, .advance 0, .advance 0, .advance 0,
    .advance 0, .move 0 .failNext, .advance 0]

theorem handingBack_answers :
    let s := (start ⟨"", 6⟩ .standard).run (reading 0 2 ++
      [.move 0 .take, .move 0 (.opened (.ok ⟨0, [.bytes [0, 1]], .silent⟩)), .move 0 .deliver])
    let s₂ := (s.step (.ask none 2 9)).run handingBack
    s₂.answersOf 1 = [.ok ()] ∧ s₂.takersOf 1 = [1] ∧
      s.step (.ask none 4 2) =
        s.answered 4 2 (.failed (.invalidRange 4 2)) (.error (.invalidRange 4 2)) := by
  intro s s₂
  obtain ⟨-, -, -, within, -⟩ := answer_agrees_with_signal ⟨"", 6⟩ .standard (reading 0 2 ++
    [.move 0 .take, .move 0 (.opened (.ok ⟨0, [.bytes [0, 1]], .silent⟩)), .move 0 .deliver])
    none 2 9
  obtain ⟨backwards, -⟩ := answer_agrees_with_signal ⟨"", 6⟩ .standard (reading 0 2 ++
    [.move 0 .take, .move 0 (.opened (.ok ⟨0, [.bytes [0, 1]], .silent⟩)), .move 0 .deliver])
    none 4 2
  obtain ⟨-, -, c, -, -, -, -, goes⟩ := within (by decide) (by decide) (by decide)
  obtain ⟨-, returned, -⟩ := goes handingBack (by decide)
  exact ⟨returned.mpr (by decide), by decide, backwards (by decide)⟩

end SharedFile

end RangeFetch
