import RangeFetch.Chunk.Splice
import RangeFetch.Download.Options
import RangeFetch.Download.Stats
import RangeFetch.Identity
import RangeFetch.Source.Stream

/-!
A downloader serves the chunks of one file over one stream at a time, the lowest offset first, and
asks for a new stream only where a chunk does not begin where the stream stands. It is a machine
that moves by events: a wait for a chunk ends, a request is answered, a stream is asked for its
next item, a stream was silent for too long, a stop is noticed, an outstanding chunk is failed.
Between two moves others may queue chunks or ask for a stop. Each move says which signals it fires.
-/

namespace RangeFetch

inductive DownloadState where
  | idle
  | requesting
  | streaming
  | stopped
  deriving DecidableEq

def DownloadState.name : DownloadState → String
  | idle => "Idle"
  | requesting => "Requesting"
  | streaming => "Streaming"
  | stopped => "Stopped"

inductive Phase where
  | idle
  /-- A stream from the chunk's cursor on has been asked for. -/
  | requesting (current : Chunk)
  /-- The chunk waits for the next item of the stream. -/
  | streaming (current : Chunk) (stream : Stream)
  /-- A stream is open and a chunk is waited for. The delivery holds what the last chunk left
  over. -/
  | between (leftover : Delivery) (stream : Stream)
  /-- The queue is closed. The chunks that were outstanding fire with the error, one after the
  other; the state shown is the one before. -/
  | failing (shown : DownloadState) (error : ChunkError) (rest : List Chunk)
  | stopped
  deriving DecidableEq

namespace Phase

/-- The chunks that a downloader has taken from its queue and not yet fired. -/
def chunks : Phase → List Chunk
  | requesting c => [c]
  | streaming c _ => [c]
  | failing _ _ rest => rest
  | _ => []

def state : Phase → DownloadState
  | idle => .idle
  | requesting _ => .requesting
  | streaming _ _ => .streaming
  | between _ _ => .streaming
  | failing shown _ _ => shown
  | stopped => .stopped

def name (p : Phase) : String := p.state.name

end Phase

structure Downloader where
  identity : FileIdentity
  options : DownloadOptions
  queue : ChunkQueue
  phase : Phase
  /-- Streams in a row that opened at a wrong offset. -/
  rangeRestarts : Nat
  stats : DownloadStats
  deriving DecidableEq

namespace Downloader

def start (identity : FileIdentity) (options : DownloadOptions) : Downloader where
  identity := identity
  options := options
  queue := .empty identity.size
  phase := .idle
  rangeRestarts := 0
  stats := { DownloadStats.zero with downloadersStarted := 1 }

def isStopped (d : Downloader) : Bool := d.queue.isClosed || d.phase.state == .stopped

/-- The chunks that have been accepted and have not fired, in the order in which a failure fires
them. -/
def outstanding (d : Downloader) : List Chunk := d.queue.pending ++ d.phase.chunks

theorem mem_outstanding {d : Downloader} {c : Chunk} :
    c ∈ d.outstanding ↔ c ∈ d.queue.pending ∨ c ∈ d.phase.chunks := List.mem_append

theorem mem_outstanding_of_requesting {d : Downloader} {c : Chunk} (h : d.phase = .requesting c) :
    c ∈ d.outstanding :=
  mem_outstanding.mpr (.inr (by rw [h]; exact List.mem_cons_self))

theorem mem_outstanding_of_streaming {d : Downloader} {c : Chunk} {stream : Stream}
    (h : d.phase = .streaming c stream) : c ∈ d.outstanding :=
  mem_outstanding.mpr (.inr (by rw [h]; exact List.mem_cons_self))

/-- Accepts nothing more and is about to fire every outstanding chunk with the error. -/
def finish (d : Downloader) (e : ChunkError) : Downloader :=
  { d with
    queue := d.queue.close.2
    phase := .failing d.phase.state e d.outstanding
    stats := { d.stats with chunksFailed := d.stats.chunksFailed + d.outstanding.length } }

@[simp] theorem outstanding_finish (d : Downloader) (e : ChunkError) :
    (d.finish e).outstanding = d.outstanding := rfl

def failAll (d : Downloader) (e : SourceError) : Downloader := d.finish (.source e)

def request (d : Downloader) (c : Chunk) : Downloader :=
  { d with
    phase := .requesting c
    stats := { d.stats with requests := d.stats.requests + 1 } }

/-- Gives the open stream up for one that suits the chunk. -/
def seek (d : Downloader) (c : Chunk) : Downloader :=
  { d with stats := { d.stats with seeks := d.stats.seeks + 1 } }.request c

/-- Splices a delivery into one chunk, the stream being at the end of the delivery. A filled chunk
fires; the connection is kept unless it has nothing more to give. -/
def fill (d : Downloader) (c : Chunk) (delivery : Delivery) (stream : Stream) :
    Downloader × List Firing :=
  match c.absorb delivery with
  | .misaligned => (d.seek c, [])
  | .unfilled c' =>
    ({ d with
        phase := .streaming c' stream
        stats := { d.stats with
          bytesDelivered := d.stats.bytesDelivered + delivery.unread.length } }, [])
  | .filled c' rest =>
    ({ d with
        phase :=
          if rest.isEmpty && d.identity.size ≤ rest.start then .idle else .between rest stream
        stats := { d.stats with
          bytesDelivered :=
            d.stats.bytesDelivered + (delivery.unread.length - rest.unread.length)
          chunksCompleted := d.stats.chunksCompleted + 1 } },
      [c'.complete])

/-- The chunk that was waited for has come while a stream is open. -/
def follow (d : Downloader) (c : Chunk) (leftover : Delivery) (stream : Stream) :
    Downloader × List Firing :=
  if c.cursor ≠ leftover.start then (d.seek c, [])
  else if leftover.isEmpty then ({ d with phase := .streaming c stream }, [])
  else d.fill c leftover stream

def wake (d : Downloader) : Downloader :=
  match d.queue.dequeueOrClose with
  | (.chunk c, queue) => { d with queue := queue }.request c
  | (.timedOut, queue) =>
    { d with
      queue := queue
      stats := { d.stats with idleTimeouts := d.stats.idleTimeouts + 1 } }.finish .cancelled
  | (.stopped, _) => d.finish .cancelled

def proceed (d : Downloader) (leftover : Delivery) (stream : Stream) : Downloader × List Firing :=
  match d.queue.dequeueOrClose with
  | (.chunk c, queue) => { d with queue := queue }.follow c leftover stream
  | (.timedOut, queue) =>
    ({ d with
        queue := queue
        stats := { d.stats with stalls := d.stats.stalls + 1 } }.finish .cancelled, [])
  | (.stopped, _) => (d.finish .cancelled, [])

/-- A wait for a chunk ends: the first chunk is taken, or, where none is there, the time is up. -/
def take (d : Downloader) : Downloader × List Firing :=
  match d.phase with
  | .idle => (d.wake, [])
  | .between leftover stream => d.proceed leftover stream
  | _ => (d, [])

/-- The request for the chunk is answered by a stream. One that opens somewhere else than asked is
used up to its first bytes, which show the mismatch; too many such streams in a row are a failure.
-/
def connect (d : Downloader) (c : Chunk) (stream : Stream) : Downloader :=
  if stream.offset = c.cursor then
    { d with phase := .streaming c stream, rangeRestarts := 0 }
  else
    let attempts := d.rangeRestarts + 1
    let restarted := { d with rangeRestarts := attempts }
    if d.options.maxRangeRestarts < attempts then
      restarted.failAll (.rangeNotHonored c.cursor attempts)
    else { restarted with phase := .streaming c stream }

def opened (d : Downloader) (answer : Except SourceError Stream) : Downloader :=
  match d.phase with
  | .requesting c =>
    match answer with
    | .error e => d.failAll e
    | .ok stream => d.connect c stream
  | _ => d

/-- The stream is asked for its next item. An empty delivery changes nothing else. -/
def deliver (d : Downloader) : Downloader × List Firing :=
  match d.phase with
  | .streaming c stream =>
    match stream.next with
    | .bytes [] rest => ({ d with phase := .streaming c rest }, [])
    | .bytes delivered rest => d.fill c ⟨stream.offset, delivered⟩ rest
    | .failed e => (d.failAll e, [])
    | .ended => (d.failAll (.unexpectedEof stream.offset d.identity.size), [])
    | .waiting => (d, [])
  | _ => (d, [])

def readTimedOut (d : Downloader) : Downloader :=
  match d.phase with
  | .streaming _ _ => d.failAll (.timeout d.options.readTimeout)
  | _ => d

/-- Asks for a stop. Waits for a chunk end at once; a wait for the source ends when the stop is
noticed. -/
def stop (d : Downloader) : Downloader := { d with queue := d.queue.stop }

def notice (d : Downloader) : Downloader :=
  if d.queue.stopped then
    match d.phase with
    | .requesting _ => d.finish .cancelled
    | .streaming _ _ => d.finish .cancelled
    | _ => d
  else d

/-- The next outstanding chunk is failed. When none is left, the downloader has stopped. -/
def failNext (d : Downloader) : Downloader × List Firing :=
  match d.phase with
  | .failing shown e (c :: rest) => ({ d with phase := .failing shown e rest }, [c.fail e])
  | .failing _ _ [] => ({ d with phase := .stopped }, [])
  | _ => (d, [])

/-- Accepts a chunk, or hands it back if no chunk is accepted any more. One that starts past the
end of the file is complete at once. -/
def enqueue (d : Downloader) (c : Chunk) : Except Chunk (Downloader × List Firing) :=
  if d.identity.size ≤ c.cursor then
    .ok ({ d with stats := { d.stats with chunksCompleted := d.stats.chunksCompleted + 1 } },
      [c.complete])
  else match d.queue.enqueue c with
    | .ok queue => .ok ({ d with queue := queue }, [])
    | .error handedBack => .error handedBack

inductive Event where
  | take
  | opened (answer : Except SourceError Stream)
  | deliver
  | readTimedOut
  | notice
  | failNext

def step (d : Downloader) : Event → Downloader × List Firing
  | .take => d.take
  | .opened answer => (d.opened answer, [])
  | .deliver => d.deliver
  | .readTimedOut => (d.readTimedOut, [])
  | .notice => (d.notice, [])
  | .failNext => d.failNext

inductive Want where
  | ready (event : Event)
  | stream (start : Nat)
  /-- Something that may not come; after so many milliseconds the event takes place instead. -/
  | expiring (millis : Nat) (event : Event)
  | nothing

/-- A wait for a chunk is over at once if a chunk is there or a stop was asked for. -/
def awaitChunk (d : Downloader) (millis : Nat) : Want :=
  if d.queue.pending.isEmpty && !d.queue.stopped then .expiring millis .take else .ready .take

def wants (d : Downloader) : Want :=
  match d.phase with
  | .idle => d.awaitChunk d.options.idleTimeout
  | .between _ _ => d.awaitChunk d.options.stallTimeout
  | .requesting c => if d.queue.stopped then .ready .notice else .stream c.cursor
  | .streaming _ stream =>
    if d.queue.stopped then .ready .notice
    else match stream.next with
      | .waiting => .expiring d.options.readTimeout .readTimedOut
      | _ => .ready .deliver
  | .failing _ _ _ => .ready .failNext
  | .stopped => .nothing

def describe (d : Downloader) : String :=
  Text.record "Downloader"
    [("identity", d.identity.record), ("state", d.phase.name), ("queue", d.queue.describe)] false

end Downloader

end RangeFetch
