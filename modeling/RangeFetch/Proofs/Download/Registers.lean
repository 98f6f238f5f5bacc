import RangeFetch.Proofs.Download.Lockstep
import RangeFetch.Proofs.Download.Restarts

namespace RangeFetch

namespace Downloader

variable {d d' : Downloader} {e : Event} {c : Chunk} {fired : List Firing}
  {connections : List Connection}

/-- A chunk that has bytes is at hand, and the open stream stands where it goes on. -/
structure Fresh (d : Downloader) : Prop where
  pending : ∀ c ∈ d.queue.pending, c.buffer = []
  requesting : ∀ c, d.phase = .requesting c → c.buffer = []
  streaming : ∀ c stream, d.phase = .streaming c stream → c.cursor ≠ stream.offset → c.buffer = []

theorem fresh_start (identity : FileIdentity) (options : DownloadOptions) :
    (start identity options).Fresh := by
  refine ⟨?_, ?_, ?_⟩ <;> simp [start, ChunkQueue.empty]

theorem Fresh.stop (h : d.Fresh) : d.stop.Fresh := ⟨h.pending, h.requesting, h.streaming⟩

theorem fresh_of_free (pending : ∀ c ∈ d.queue.pending, c.buffer = [])
    (free : d.phase.current? = none) : d.Fresh := by
  refine ⟨pending, fun c phase => ?_, fun c stream phase => ?_⟩
  · rw [phase] at free
    cases free
  · rw [phase] at free
    cases free

theorem Fills.aligned {delivery : Delivery} {stream s : Stream} {c' : Chunk}
    (h : Fills d c delivery stream d' fired) (reaches : delivery.limit = stream.offset)
    (phase : d'.phase = .streaming c' s) : c'.cursor = s.offset := by
  cases h with
  | unfilled aligned short =>
    cases phase
    rw [Chunk.cursor_write, Chunk.accepts, Nat.min_eq_left (Nat.le_of_lt short), aligned]
    exact reaches
  | _ => cases phase

theorem Fills.fresh {delivery : Delivery} {stream : Stream}
    (h : Fills d c delivery stream d' fired) (reaches : delivery.limit = stream.offset)
    (pending : ∀ c ∈ d.queue.pending, c.buffer = [])
    (empty : c.cursor ≠ delivery.start → c.buffer = []) : d'.Fresh := by
  refine ⟨?_, ?_, fun c' s phase apart => absurd (h.aligned reaches phase) apart⟩
  · rw [h.same.2.2]
    exact pending
  · intro c' phase
    cases h with
    | seeks elsewhere =>
      cases phase
      exact empty elsewhere
    | _ => cases phase

theorem Moves.fresh (h : Moves d e d' fired) (sound : d.Sound) (inv : d.Fresh) : d'.Fresh := by
  obtain ⟨pending, requesting, streaming⟩ := inv
  cases h with
  | stays idle unanswered => exact ⟨pending, requesting, streaming⟩
  | ends why => exact fresh_of_free (by simp [finish, ChunkQueue.close]) rfl
  | wakes phase running first =>
    rw [first] at pending
    obtain ⟨empty, others⟩ := List.forall_mem_cons.mp pending
    refine ⟨others, fun c' same => ?_, fun _ _ same => by cases same⟩
    cases same
    exact empty
  | continues phase running first aligned used =>
    rw [first] at pending
    obtain ⟨empty, others⟩ := List.forall_mem_cons.mp pending
    refine ⟨others, fun _ same => (by cases same), fun c' s same _ => ?_⟩
    cases same
    exact empty
  | follows phase running first apart fills =>
    rw [first] at pending
    obtain ⟨empty, others⟩ := List.forall_mem_cons.mp pending
    exact fills.fresh (sound.between _ _ phase).1 others fun _ => empty
  | connects phase aligned =>
    refine ⟨pending, fun _ same => (by cases same), fun c' s same _ => ?_⟩
    cases same
    exact requesting _ phase
  | misconnects phase elsewhere seldom =>
    refine ⟨pending, fun _ same => (by cases same), fun c' s same _ => ?_⟩
    cases same
    exact requesting _ phase
  | skips phase next =>
    refine ⟨pending, fun _ same => (by cases same), fun c' s same apart => ?_⟩
    cases same
    have stands := (Stream.of_next_bytes next).2.1
    exact streaming _ _ phase (by rw [stands] at apart; exact apart)
  | delivers phase next some fills =>
    exact fills.fresh (Stream.of_next_bytes next).2.1.symm pending (streaming _ _ phase)
  | fails phase => exact fresh_of_free pending rfl
  | stops phase => exact fresh_of_free pending rfl

theorem Enqueues.fresh (h : Enqueues d c (.ok (d', fired))) (empty : c.buffer = [])
    (inv : d.Fresh) : d'.Fresh := by
  cases h with
  | completes past => exact ⟨inv.pending, inv.requesting, inv.streaming⟩
  | queues within closed =>
    refine ⟨fun b hb => ?_, inv.requesting, inv.streaming⟩
    rcases List.mem_cons.mp ((ChunkQueue.insert_perm _ _).mem_iff.mp hb) with rfl | old
    · exact empty
    · exact inv.pending b old

/-- A stream that does not suit the chunk has not been read. -/
def Unread (d : Downloader) (connections : List Connection) : Prop :=
  ∀ c stream, d.phase = .streaming c stream → c.cursor ≠ stream.offset →
    ∀ last, connections.getLast? = some last → stream.offset = last.stream.offset

theorem Moves.unread (h : Moves d e d' fired) (sound : d.Sound) (inv : d.Unread connections) :
    d'.Unread (connections ++ (d.connection? e).toList) := by
  intro c' s phase' apart
  cases h with
  | stays idle unanswered =>
    rw [append_of_unanswered unanswered]
    exact inv c' s phase' apart
  | continues phase running first aligned used =>
    cases phase'
    have reaches := (sound.between _ _ phase).1
    rw [Delivery.limit, used] at reaches
    exact absurd (aligned.trans reaches) apart
  | follows phase running first _ fills =>
    exact absurd (fills.aligned (sound.between _ _ phase).1 phase') apart
  | connects phase aligned =>
    cases phase'
    exact absurd aligned.symm apart
  | misconnects phase elsewhere seldom =>
    -- the stream stands where it has just opened
    cases phase'
    intro last latest
    rw [connection?_opened phase, Option.toList_some, List.getLast?_concat] at latest
    cases latest
    rfl
  | skips phase next =>
    -- an empty item leaves the stream where it was
    cases phase'
    have stands : s.offset = _ := (Stream.of_next_bytes next).2.1
    rw [append_of_unanswered rfl]
    intro last latest
    rw [stands] at apart ⊢
    exact inv _ _ phase apart last latest
  | delivers phase next _ fills =>
    exact absurd (fills.aligned (Stream.of_next_bytes next).2.1.symm phase') apart
  | _ => cases phase'

theorem Fills.seeks_eq {delivery : Delivery} {stream : Stream}
    (h : Fills d c delivery stream d' fired) :
    d'.stats.seeks = d.stats.seeks ∨ ∃ c, d'.phase = .requesting c := by
  cases h with
  | seeks elsewhere => exact .inr ⟨_, rfl⟩
  | unfilled aligned short => exact .inl rfl
  | filled aligned enough counted atEnd => exact .inl (by rw [counted])
  | leaves aligned enough counted more => exact .inl (by rw [counted])

theorem Moves.seeks_eq (h : Moves d e d' fired) :
    d'.stats.seeks = d.stats.seeks ∨ ∃ c, d'.phase = .requesting c := by
  cases h with
  | ends why => exact .inl why.same_requests.2
  | follows phase running first apart fills => exact fills.seeks_eq
  | delivers phase next some fills => exact fills.seeks_eq
  | _ => exact .inl rfl

theorem Moves.stream_of_free (h : Moves d e d' fired) (free : d.phase.current? = none) :
    d'.phase.stream? = none ∨ d'.phase.stream? = d.phase.stream? := by
  cases h with
  | stays idle unanswered => exact .inr rfl
  | ends why => exact .inl rfl
  | wakes phase running first => exact .inl rfl
  | continues phase running first aligned used =>
    rw [phase]
    exact .inr rfl
  | follows phase running first apart fills =>
    rw [phase]
    exact fills.stream.2
  | fails phase => exact .inl rfl
  | stops phase => exact .inl rfl
  | _ => simp_all [Phase.current?]

end Downloader

theorem Phase.body?_place (p : Phase) : p.place.body? = p.stream?.map Stream.body := by
  cases p with
  | between leftover stream =>
    cases empty : leftover.isEmpty <;> simp [place, stream?, empty, RequestLoop.Place.body?]
  | _ => rfl

namespace History

open Downloader (Happening Event)

/-- What is shown of a downloader by its registers, after every run. -/
structure Steady (h : History) (connections : List Connection) : Prop where
  sound : h.downloader.Sound
  fresh : h.downloader.Fresh
  unread : h.downloader.Unread connections

theorem Asks.fresh {h h' : History} {first limit : Nat} (asks : Asks h first limit h')
    (inv : h.downloader.Fresh) : h'.downloader.Fresh := by
  cases asks with
  | backwards fresh => exact inv
  | handsBack fresh refuses => exact inv
  | accepts fresh takes =>
    obtain ⟨-, -, -, empty, -⟩ := Chunk.of_request fresh
    exact takes.fresh empty inv

theorem steady_run (xs : List Happening) (identity : FileIdentity) (options : DownloadOptions) :
    ((start identity options).run xs).Steady ((start identity options).connections xs) := by
  have atFirst : (start identity options).Steady [] := by
    refine ⟨Downloader.sound_start identity options, Downloader.fresh_start identity options, ?_⟩
    intro c stream phase
    cases phase
  refine collect_induction (P := Steady) ?_ ?_ ?_ xs _ [] atFirst
  · intro h seen first limit inv
    have asks := h.ask_asks first limit
    refine ⟨sound_run [.ask first limit] h inv.sound, asks.fresh inv.fresh, ?_⟩
    intro c stream phase
    rw [asks.keeps.1] at phase
    exact inv.unread c stream phase
  · exact fun h seen inv => ⟨inv.sound.stop, inv.fresh.stop, inv.unread⟩
  · intro h seen e inv
    have moves := h.downloader.step_moves e
    exact ⟨moves.sound inv.sound, moves.fresh inv.sound inv.fresh,
      moves.unread inv.sound inv.unread⟩

end History

namespace Downloader

variable {d : Downloader} {l : RequestLoop}

theorem requesting_of_place {start : Nat} (runs : d.RunsAs l) (at_ : l.place = .requesting start) :
    ∃ c, d.phase = .requesting c ∧ l.current = some c ∧ c.cursor = start := by
  obtain ⟨stale, rfl⟩ := runs
  cases phase : d.phase with
  | requesting c =>
    rw [registers_of phase] at at_ ⊢
    exact ⟨c, rfl, rfl, by simpa [loop, Phase.place] using at_⟩
  | between leftover stream =>
    rcases pauses_of_between stale phase with ⟨body, pauses⟩ | ⟨buffer, body, pauses⟩ <;>
      simp [pauses] at at_
  | _ =>
    rw [registers_of phase] at at_
    simp [loop, Phase.place] at at_

theorem streaming_of_place {body : Body} (runs : d.RunsAs l) (at_ : l.place = .reading body) :
    ∃ c stream, d.phase = .streaming c stream ∧ l.current = some c ∧ stream.body = body ∧
      l.downloadOffset = stream.offset := by
  obtain ⟨stale, rfl⟩ := runs
  cases phase : d.phase with
  | streaming c stream =>
    rw [registers_of phase] at at_ ⊢
    exact ⟨c, stream, rfl, rfl, by simpa [loop, Phase.place] using at_, rfl⟩
  | between leftover stream =>
    rcases pauses_of_between stale phase with ⟨body, pauses⟩ | ⟨buffer, body, pauses⟩ <;>
      simp [pauses] at at_
  | _ =>
    rw [registers_of phase] at at_
    simp [loop, Phase.place] at at_

theorem place_of_requesting {c : Chunk} (runs : d.RunsAs l) (phase : d.phase = .requesting c) :
    l.current = some c ∧ l.place = .requesting c.cursor := by
  obtain ⟨stale, rfl⟩ := runs
  rw [registers_of phase]
  exact ⟨rfl, rfl⟩

theorem current_of_idle (runs : d.RunsAs l) (at_ : l.place = .idle) : l.current = none := by
  obtain ⟨stale, rfl⟩ := runs
  cases phase : d.phase with
  | between leftover stream =>
    rw [registers_of phase]
    rfl
  | _ =>
    rw [registers_of phase] at at_ ⊢
    simp_all [loop, Phase.place, Phase.current?]

end Downloader

namespace LoopHistory

open Downloader (Happening Event)

/-- What the registers hold, for every source and in every order of events: streams are asked for
from the cursor of a current chunk without bytes, and read for one that goes on where the stream
stands, unless the stream missed it. No step lacks its chunk, and the loop is the downloader. -/
theorem registers_hold (identity : FileIdentity) (options : DownloadOptions)
    (xs : List Happening) :
    let t := (start identity options).run xs
    let l := t.loop
    (l.place = .idle → l.current = none) ∧
      (∀ start, l.place = .requesting start →
        ∃ c, l.current = some c ∧ c.cursor = start ∧ c.buffer = []) ∧
      (∀ body, l.place = .reading body → ∃ (c : Chunk) (last : Connection) (pieces : List Bytes),
        l.current = some c ∧ t.connections.getLast? = some last ∧
          last.stream.body = ⟨pieces.map .bytes ++ body.items, body.ending⟩ ∧
          l.downloadOffset = last.stream.offset + pieces.flatten.length ∧
          (c.cursor = l.downloadOffset ∨
            last.isAstray = true ∧ ∀ piece ∈ pieces, piece = [])) ∧
      (∀ e, (l.step e).1.stats.seeks = l.stats.seeks ∨
        ∃ c, (l.step e).1.current = some c ∧ c.buffer = [] ∧
          (l.step e).1.place = .requesting c.cursor) ∧
      (l.current = none → ∀ e,
        (l.step e).1.place.body? = none ∨ (l.step e).1.place.body? = l.place.body?) ∧
      l.fallbacks = [] ∧ t.Mirrors ((History.start identity options).run xs) := by
  intro t l
  let h := (History.start identity options).run xs
  have steady := History.steady_run xs identity options
  have attached := History.attached_run xs identity options
  have paced := (History.metered_run xs identity options).paced
  obtain ⟨mirrors, connections⟩ := mirrors_run xs (start identity options) (.start identity options)
    (mirrors_start identity options) (Downloader.sound_start identity options)
  obtain ⟨stale, same⟩ : h.downloader.RunsAs l := mirrors.loop
  have runs : h.downloader.RunsAs l := mirrors.loop
  have moved (e : Event) : (h.downloader.step e).1.RunsAs (l.step e).1 :=
    same ▸ (Downloader.movesAs_step steady.sound stale e).1
  refine ⟨Downloader.current_of_idle runs, fun start at_ => ?_, fun body at_ => ?_, fun e => ?_,
    fun free e => ?_, by rw [same]; rfl, mirrors⟩
  · obtain ⟨c, phase, current, cursor⟩ := Downloader.requesting_of_place runs at_
    exact ⟨c, current, cursor, steady.fresh.requesting c phase⟩
  · obtain ⟨c, stream, phase, current, rfl, offset⟩ := Downloader.streaming_of_place runs at_
    obtain ⟨last, latest, pieces, items, stands, ending⟩ :=
      attached.stream stream (by rw [phase]; rfl)
    refine ⟨c, last, pieces, current, ?_, ?_, offset.trans stands, ?_⟩
    · exact (congrArg List.getLast? connections).trans latest
    · rw [Stream.body, items, ← ending]
      rfl
    · by_cases aligned : c.cursor = stream.offset
      · exact .inl (aligned.trans offset.symm)
      · -- the count of restarts tells that the last stream opened elsewhere
        right
        have misled : 0 < h.downloader.rangeRestarts := by
          rcases paced.streaming c stream phase with ⟨same, -⟩ | ⟨-, misled, -⟩
          · exact absurd same aligned
          · exact misled
        rw [attached.restarts] at misled
        have unread := steady.unread c stream phase aligned last latest
        have none : pieces.flatten = [] := List.length_eq_zero_iff.mp (by omega)
        exact ⟨Connection.isAstray_of_pos latest misled, List.flatten_eq_nil_iff.mp none⟩
  · have moves := h.downloader.step_moves e
    have counted : (l.step e).1.stats.seeks = (h.downloader.step e).1.stats.seeks := by
      obtain ⟨later, next⟩ := moved e
      rw [next]
      rfl
    rcases moves.seeks_eq with still | ⟨c, phase⟩
    · rw [counted, still, same]
      exact .inl rfl
    · obtain ⟨current, place⟩ := Downloader.place_of_requesting (moved e) phase
      exact .inr ⟨c, current, (moves.fresh steady.sound steady.fresh).requesting c phase, place⟩
  · have free : h.downloader.phase.current? = none := by
      rw [same] at free
      exact free
    obtain ⟨later, next⟩ := moved e
    have body {d : Downloader} {n : Nat} :
        (d.registers n).place.body? = d.phase.stream?.map Stream.body := d.phase.body?_place
    rw [next, same, body, body]
    rcases (h.downloader.step_moves e).stream_of_free free with none | still
    · exact .inl (by rw [none]; rfl)
    · exact .inr (by rw [still])

/-- The stream for a read from offset one opens at the beginning of the file, and its first item is
empty. -/
def rewinding : List Happening :=
  [.ask 1 9, .move .take, .move (.opened (.ok ⟨0, [.bytes [], .bytes [10, 11]], .silent⟩)),
    .move .deliver]

theorem rewinding_registers :
    let t := (start ⟨"", 4⟩ .standard).run rewinding
    let l := t.loop
    l.place = .reading ⟨[.bytes [10, 11]], .silent⟩ ∧
      (∃ (c : Chunk) (last : Connection) (pieces : List Bytes),
        l.current = some c ∧ t.connections.getLast? = some last ∧
          last.stream.body = ⟨pieces.map .bytes ++ [.bytes [10, 11]], .silent⟩ ∧
          l.downloadOffset = last.stream.offset + pieces.flatten.length ∧
          (c.cursor = l.downloadOffset ∨ last.isAstray = true ∧ ∀ piece ∈ pieces, piece = [])) ∧
      (l.step .deliver).1.stats.seeks = 1 ∧
      (∃ c, (l.step .deliver).1.current = some c ∧ c.buffer = [] ∧
        (l.step .deliver).1.place = .requesting c.cursor) ∧
      l.fallbacks = [] := by
  intro t l
  obtain ⟨-, -, reading, seeks, -, met, -⟩ := registers_hold ⟨"", 4⟩ .standard rewinding
  have at_ : l.place = .reading ⟨[.bytes [10, 11]], .silent⟩ := by decide
  have sought : (l.step .deliver).1.stats.seeks = 1 := by decide
  have before : l.stats.seeks = 0 := by decide
  refine ⟨at_, reading _ at_, sought, ?_, met⟩
  rcases seeks .deliver with same | requests
  · have : (l.step .deliver).1.stats.seeks = l.stats.seeks := same
    omega
  · exact requests

end LoopHistory

end RangeFetch
