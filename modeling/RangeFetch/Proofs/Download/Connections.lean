import RangeFetch.Proofs.Download.Moves

namespace RangeFetch

namespace Stream

/-- What is left of a stream that has given some of its items, each of them bytes. -/
def IsRestOf (rest whole : Stream) : Prop :=
  ∃ pieces : List Bytes, whole.items = pieces.map .bytes ++ rest.items ∧
    rest.offset = whole.offset + pieces.flatten.length ∧ rest.ending = whole.ending

theorem IsRestOf.refl (s : Stream) : s.IsRestOf s := ⟨[], rfl, rfl, rfl⟩

theorem IsRestOf.next {s rest whole : Stream} {delivered : Bytes} (h : s.IsRestOf whole)
    (next : s.next = .bytes delivered rest) : rest.IsRestOf whole := by
  obtain ⟨pieces, items, offset, ending⟩ := h
  obtain ⟨items', offset', ending'⟩ := of_next_bytes next
  refine ⟨pieces ++ [delivered], ?_, ?_, ending'.trans ending⟩
  · rw [items, items']
    simp
  · have length : (pieces ++ [delivered]).flatten.length =
        pieces.flatten.length + delivered.length := by simp
    rw [offset', offset, length, Nat.add_assoc]

end Stream

/-- The stream that is open. -/
def Phase.stream? : Phase → Option Stream
  | .streaming _ stream => some stream
  | .between _ stream => some stream
  | _ => none

namespace Downloader

/-- How a downloader comes from the requests that were answered by streams. -/
structure Attached (d : Downloader) (connections : List Connection) : Prop where
  restarts : d.rangeRestarts = Connection.astrayInARow connections
  stream : ∀ s, d.phase.stream? = some s →
    ∃ last, connections.getLast? = some last ∧ s.IsRestOf last.stream

variable {d d' d₀ : Downloader} {e : Event} {c : Chunk} {error : ChunkError}
  {fired : List Firing} {connections : List Connection}

theorem Attached.keep (h : d.Attached connections) (restarts : d'.rangeRestarts = d.rangeRestarts)
    (stream : ∀ s', d'.phase.stream? = some s' →
      ∃ s, d.phase.stream? = some s ∧ ∀ whole, s.IsRestOf whole → s'.IsRestOf whole) :
    d'.Attached connections := by
  refine ⟨restarts.trans h.restarts, fun s' open' => ?_⟩
  obtain ⟨s, open_, goesOn⟩ := stream s' open'
  obtain ⟨last, latest, rest⟩ := h.stream s open_
  exact ⟨last, latest, goesOn _ rest⟩

theorem Fills.stream {delivery : Delivery} {s : Stream} (h : Fills d c delivery s d' fired) :
    d'.rangeRestarts = d.rangeRestarts ∧ (d'.phase.stream? = none ∨ d'.phase.stream? = some s) := by
  cases h with
  | seeks elsewhere => exact ⟨rfl, .inl rfl⟩
  | unfilled aligned short => exact ⟨rfl, .inr rfl⟩
  | filled aligned enough counted atEnd => exact ⟨rfl, .inl rfl⟩
  | leaves aligned enough counted more => exact ⟨rfl, .inr rfl⟩

theorem append_of_unanswered (unanswered : d.connection? e = none) :
    connections ++ (d.connection? e).toList = connections := by
  rw [unanswered, Option.toList_none, List.append_nil]

theorem Ends.attached (h : Ends d e d₀ error) (inv : d.Attached connections) :
    (d₀.finish error).Attached (connections ++ (d.connection? e).toList) := by
  have closed (s : Stream) : (d₀.finish error).phase.stream? ≠ some s := by
    simp [finish, Phase.stream?]
  refine ⟨?_, fun s open_ => absurd open_ (closed s)⟩
  cases h with
  | notHonored phase elsewhere often =>
    have restarts := inv.restarts
    simp [connection?_opened phase, Connection.astrayInARow_concat, Connection.isAstray, elsewhere,
      finish, restarts]
  | _ =>
    rw [append_of_unanswered rfl]
    exact inv.restarts

theorem Attached.answer (h : d.Attached connections) {stream : Stream} {restarts : Nat}
    (phase : d.phase = .requesting c)
    (counted : restarts = if stream.offset = c.cursor then 0 else d.rangeRestarts + 1) :
    { d with phase := .streaming c stream, rangeRestarts := restarts }.Attached
      (connections ++ (d.connection? (.opened (.ok stream))).toList) := by
  rw [connection?_opened phase, Option.toList_some]
  refine ⟨?_, fun s open_ => ⟨⟨c.cursor, stream⟩, List.getLast?_concat, ?_⟩⟩
  · simp [Connection.astrayInARow_concat, Connection.isAstray, counted, h.restarts]
  · cases open_
    exact .refl stream

theorem Moves.attached (h : Moves d e d' fired) (inv : d.Attached connections) :
    d'.Attached (connections ++ (d.connection? e).toList) := by
  cases h with
  | stays idle unanswered =>
    rw [append_of_unanswered unanswered]
    exact inv
  | ends why => exact why.attached inv
  | connects phase aligned => exact inv.answer phase (if_pos aligned).symm
  | misconnects phase elsewhere seldom => exact inv.answer phase (if_neg elsewhere).symm
  | continues phase running first aligned used =>
    rw [append_of_unanswered rfl]
    refine inv.keep rfl fun s open_ => ⟨s, ?_, fun _ => id⟩
    rw [phase]
    exact open_
  | follows phase running first apart fills =>
    rw [append_of_unanswered rfl]
    obtain ⟨restarts, stream⟩ := fills.stream
    -- the leftover was read from the stream before, which stays where it is
    refine inv.keep restarts fun s open_ => ⟨s, ?_, fun _ => id⟩
    rcases stream with none | same
    · rw [none] at open_
      cases open_
    · rw [phase, ← open_, same]
      rfl
  | skips phase next =>
    rw [append_of_unanswered rfl]
    refine inv.keep rfl fun s open_ => ⟨_, by rw [phase]; rfl, fun whole rest => ?_⟩
    cases open_
    exact rest.next next
  | delivers phase next some fills =>
    rw [append_of_unanswered rfl]
    obtain ⟨restarts, stream⟩ := fills.stream
    refine inv.keep restarts fun s open_ => ⟨_, by rw [phase]; rfl, fun whole rest => ?_⟩
    rcases stream with none | same
    · rw [none] at open_
      cases open_
    · rw [same] at open_
      cases open_
      exact rest.next next
  | _ =>
    rw [append_of_unanswered rfl]
    exact inv.keep rfl fun s open_ => by cases open_

theorem Enqueues.attached (h : Enqueues d c (.ok (d', fired))) (inv : d.Attached connections) :
    d'.Attached connections := by
  cases h with
  | completes past => exact ⟨inv.restarts, inv.stream⟩
  | queues within closed => exact ⟨inv.restarts, inv.stream⟩

end Downloader

namespace History

theorem attached_run (xs : List Downloader.Happening) (identity : FileIdentity)
    (options : DownloadOptions) :
    ((start identity options).run xs).downloader.Attached
      ((start identity options).connections xs) := by
  have atFirst : (start identity options).downloader.Attached [] :=
    ⟨rfl, fun s none => by cases none⟩
  exact collect_downloader_induction (fun d e => (d.connection? e).toList)
    (P := Downloader.Attached) (fun _ _ _ _ _ takes inv => takes.attached inv)
    (fun _ _ inv => ⟨inv.restarts, inv.stream⟩)
    (fun d e _ inv => (d.step_moves e).attached inv) xs _ [] atFirst

end History

end RangeFetch
