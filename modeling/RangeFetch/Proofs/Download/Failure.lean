import RangeFetch.Proofs.Download.Connections
import RangeFetch.Proofs.Download.Ending

namespace RangeFetch

/-- The error with which the source fails a downloader upon a move, in terms of the streams that the
source has opened for it. -/
inductive Blames (d : Downloader) (connections : List Connection) :
    Downloader.Event → SourceError → Prop where
  | unopened (e : SourceError) : Blames d connections (.opened (.error e)) e
  | astray {start : Nat} (stream : Stream) (wanted : d.wanted? = some start) :
      Blames d connections (.opened (.ok stream))
        (.rangeNotHonored start (Connection.astrayInARow (connections ++ [⟨start, stream⟩])))
  | broken {last : Connection} {pieces : List Bytes} {e : SourceError} {rest : List Item}
      (latest : connections.getLast? = some last)
      (items : last.stream.items = pieces.map .bytes ++ .failed e :: rest) :
      Blames d connections .deliver e
  | ended {last : Connection} {pieces : List Bytes} (latest : connections.getLast? = some last)
      (items : last.stream.items = pieces.map .bytes) (ending : last.stream.ending = .eof) :
      Blames d connections .deliver
        (.unexpectedEof (last.stream.offset + pieces.flatten.length) d.identity.size)
  | silent : Blames d connections .readTimedOut (.timeout d.options.readTimeout)

open Downloader (Happening Event Ends)

namespace Downloader

variable {d d₀ : Downloader} {e : Event} {error : SourceError} {connections : List Connection}

theorem Ends.of_source (why : Ends d e d₀ (.source error)) :
    (∃ current, d.phase.chunks = [current]) ∧ d₀.stats = d.stats := by
  cases why with
  | notOpened phase => exact ⟨⟨_, by rw [phase]; rfl⟩, rfl⟩
  | notHonored phase elsewhere often => exact ⟨⟨_, by rw [phase]; rfl⟩, rfl⟩
  | broken phase next => exact ⟨⟨_, by rw [phase]; rfl⟩, rfl⟩
  | short phase next => exact ⟨⟨_, by rw [phase]; rfl⟩, rfl⟩
  | silent phase => exact ⟨⟨_, by rw [phase]; rfl⟩, rfl⟩

theorem Ends.blames (why : Ends d e d₀ (.source error)) (inv : d.Attached connections) :
    Blames d connections e error := by
  cases why with
  | notOpened phase => exact .unopened error
  | silent phase => exact .silent
  | @notHonored c stream phase elsewhere often =>
    have wanted := wanted?_of_requesting phase
    have attempts : Connection.astrayInARow (connections ++ [⟨c.cursor, stream⟩]) =
        d.rangeRestarts + 1 := by
      simp [Connection.astrayInARow_concat, Connection.isAstray, elsewhere, inv.restarts]
    rw [← attempts]
    exact .astray stream wanted
  | broken phase next =>
    obtain ⟨last, latest, pieces, items, -, -⟩ := inv.stream _ (by rw [phase]; rfl)
    obtain ⟨rest, first⟩ := Stream.of_next_failed next
    rw [first] at items
    exact .broken latest items
  | short phase next =>
    obtain ⟨last, latest, pieces, items, offset, ending⟩ := inv.stream _ (by rw [phase]; rfl)
    obtain ⟨none, eof⟩ := Stream.of_next_ended next
    rw [none, List.append_nil] at items
    rw [offset]
    exact .ended latest items (ending.symm.trans eof)

end Downloader

namespace History

variable {d₀ : Downloader} {e : Event} {error : SourceError}

/-- If the source fails a downloader, the queued chunks and then the one that waits fire with its
error, each once. Whatever happens then, nothing more is accepted, requested or delivered. -/
theorem source_failure_gives_up (identity : FileIdentity) (options : DownloadOptions)
    (xs : List Happening)
    (fails : ((start identity options).run xs).downloader.Ends e d₀ (.source error))
    (ys : List Happening) :
    let h := (start identity options).run xs
    let later := (h.move e).run ys
    (∃ current, h.downloader.outstanding = h.downloader.queue.pending ++ [current]) ∧
      Blames h.downloader ((start identity options).connections xs) e error ∧
      h.GivesUp e (.source error) ys ∧
      later.downloader.stats = { h.downloader.stats with
        chunksFailed := h.downloader.stats.chunksFailed + h.downloader.outstanding.length
        chunksCompleted := later.downloader.stats.chunksCompleted } := by
  intro h later
  obtain ⟨⟨current, busy⟩, sameStats⟩ := fails.of_source
  have sound := sound_run xs (start identity options) (Downloader.sound_start identity options)
  have placed := placed_run xs _ (placed_start identity options)
  refine ⟨⟨current, congrArg (h.downloader.queue.pending ++ ·) busy⟩,
    fails.blames (attached_run xs identity options), gives_up fails sound placed ys, ?_⟩
  have stats : (h.move e).downloader.stats = { h.downloader.stats with
      chunksFailed := h.downloader.stats.chunksFailed + h.downloader.outstanding.length } := by
    have step : h.downloader.step e = (d₀.finish (.source error), []) := fails.step
    rw [move, step, Downloader.finish, sameStats, fails.outstanding]
  obtain ⟨-, -, quiet⟩ := run_of_ends fails ys
  rw [quiet.stats, stats]

/-- Two bytes of a file of six have been served, and an empty read waits for the stream, which is at
its end. Behind it two more reads are in the queue. -/
def runningDry : List Happening :=
  [.ask 0 2, .ask 2 2, .move .take, .move (.opened (.ok ⟨0, [.bytes [0], .bytes [1]], .eof⟩)),
    .move .deliver, .move .deliver, .move .take, .ask 4 6, .ask 3 5]

def emptying : List Happening :=
  [.move .failNext, .ask 0 1, .move .failNext, .move .deliver, .move .failNext, .move .failNext]

theorem runningDry_gives_up :
    let h := (start ⟨"", 6⟩ .standard).run runningDry
    let error := SourceError.unexpectedEof 2 6
    h.downloader.Ends .deliver h.downloader (.source error) ∧
      h.fired = [⟨0, .served ⟨0, [0, 1]⟩⟩] ∧
      (h.move .deliver).firedByMoves emptying =
        [⟨3, .failed (.source error)⟩, ⟨2, .failed (.source error)⟩,
          ⟨1, .failed (.source error)⟩] ∧
      ((h.move .deliver).run emptying).downloader.phase = .stopped ∧
      ((h.move .deliver).run emptying).downloader.stats.chunksFailed = 3 := by
  intro h error
  have waits : h.downloader.phase = .streaming ⟨1, 2, 2, [], by decide⟩ ⟨2, [], .eof⟩ := rfl
  have ended : h.downloader.Ends .deliver h.downloader (.source error) := .short waits rfl
  obtain ⟨-, -, givesUp, stats⟩ :=
    source_failure_gives_up ⟨"", 6⟩ .standard runningDry ended emptying
  exact ⟨ended, by decide, givesUp.fired, givesUp.phase, congrArg DownloadStats.chunksFailed stats⟩

end History

end RangeFetch
