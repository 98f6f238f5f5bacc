import RangeFetch.Download.History

namespace RangeFetch

structure Connection where
  requested : Nat
  stream : Stream
  deriving DecidableEq

namespace Connection

def isAstray (c : Connection) : Bool := c.stream.offset != c.requested

/-- How many streams in a row, up to the last one, opened elsewhere than asked. -/
def astrayInARow (l : List Connection) : Nat := (l.reverse.takeWhile isAstray).length

theorem astrayInARow_concat (l : List Connection) (c : Connection) :
    astrayInARow (l ++ [c]) = if c.isAstray then astrayInARow l + 1 else 0 := by
  cases h : c.isAstray <;> simp [astrayInARow, h]

theorem astrayInARow_pos {l : List Connection} {last : Connection} (latest : l.getLast? = some last)
    (astray : last.isAstray = true) : 0 < astrayInARow l := by
  obtain ⟨earlier, rfl⟩ := List.getLast?_eq_some_iff.mp latest
  rw [astrayInARow_concat, if_pos astray]
  omega

theorem isAstray_of_pos {l : List Connection} {last : Connection} (latest : l.getLast? = some last)
    (misled : 0 < astrayInARow l) : last.isAstray = true := by
  obtain ⟨earlier, rfl⟩ := List.getLast?_eq_some_iff.mp latest
  rw [astrayInARow_concat] at misled
  split at misled
  · assumption
  · cases misled

end Connection

namespace Downloader

/-- The request that a move answers by a stream. -/
def connection? (d : Downloader) : Event → Option Connection
  | .opened (.ok stream) => d.wanted?.map fun start => ⟨start, stream⟩
  | _ => none

/-- The error that the source itself answers with, to a request or in place of an item. -/
def reported? (d : Downloader) : Event → Option SourceError
  | .opened (.error e) => d.wanted?.map fun _ => e
  | .deliver =>
    match d.phase with
    | .streaming _ stream =>
      match stream.next with
      | .failed e => some e
      | _ => none
    | _ => none
  | _ => none

/-- The chunk that the request is for that a downloader has come to. -/
def requester? (before after : Downloader) : Option Chunk :=
  match before.wanted?, after.phase with
  | none, .requesting c => some c
  | _, _ => none

variable {d d' : Downloader} {e : Event} {c : Chunk}

theorem connection?_opened {stream : Stream} (phase : d.phase = .requesting c) :
    d.connection? (.opened (.ok stream)) = some ⟨c.cursor, stream⟩ := by
  rw [connection?, wanted?_of_requesting phase]
  rfl

theorem of_connection? {last : Connection} (h : d.connection? e = some last) :
    ∃ c, d.phase = .requesting c ∧ e = .opened (.ok last.stream) ∧ last.requested = c.cursor := by
  unfold connection? at h
  split at h
  · obtain ⟨start, wanted, rfl⟩ := Option.map_eq_some_iff.mp h
    obtain ⟨c, phase, rfl⟩ := requesting_of_wanted? wanted
    exact ⟨c, phase, rfl, rfl⟩
  · cases h

theorem requester?_eq_none (h : ∀ c, d'.phase ≠ .requesting c) : d.requester? d' = none := by
  unfold requester?
  split
  · rename_i c _ phase
    exact absurd phase (h c)
  · rfl

theorem requester?_eq_some (before : ∀ c, d.phase ≠ .requesting c)
    (after : d'.phase = .requesting c) : d.requester? d' = some c := by
  rw [requester?, wanted?_eq_none before, after]

theorem requested?_eq_map (d d' : Downloader) :
    d.requested? d' = (d.requester? d').map Chunk.cursor := by
  unfold requested? requester?
  cases d.wanted? with
  | some start => rfl
  | none => cases phase : d'.phase <;> simp [wanted?, phase]

theorem requester?_self (d : Downloader) : d.requester? d = none := by
  unfold requester? wanted?
  cases d.phase <;> rfl

end Downloader

open Downloader (Happening Event)

namespace History

variable {α : Type}

def collect (see : Downloader → Event → List α) : History → List Happening → List α
  | _, [] => []
  | h, .move e :: rest => see h.downloader e ++ (h.move e).collect see rest
  | h, x :: rest => (h.step x).collect see rest

/-- What the downloader itself fires; an offer that is answered at once is not among it. -/
def firedByMoves (h : History) (xs : List Happening) : List Firing :=
  h.collect (fun d e => (d.step e).2) xs

def connections (h : History) (xs : List Happening) : List Connection :=
  h.collect (fun d e => (d.connection? e).toList) xs

def requesters (h : History) (xs : List Happening) : List Chunk :=
  h.collect (fun d e => (d.requester? (d.step e).1).toList) xs

theorem collect_induction {see : Downloader → Event → List α} {P : History → List α → Prop}
    (asks : ∀ h seen start limit, P h seen → P (h.ask start limit) seen)
    (stops : ∀ h seen, P h seen → P (h.step .stop) seen)
    (moves : ∀ h seen e, P h seen → P (h.move e) (seen ++ see h.downloader e)) :
    ∀ (xs : List Happening) (h : History) (seen : List α), P h seen →
      P (h.run xs) (seen ++ h.collect see xs) := by
  intro xs
  induction xs with
  | nil =>
    intro h seen hp
    rw [collect, List.append_nil]
    exact hp
  | cons x rest ih =>
    intro h seen hp
    cases x with
    | ask start limit => exact ih _ seen (asks h seen start limit hp)
    | stop => exact ih _ seen (stops h seen hp)
    | move e =>
      have later := ih _ _ (moves h seen e hp)
      rw [List.append_assoc] at later
      exact later

end History

end RangeFetch
