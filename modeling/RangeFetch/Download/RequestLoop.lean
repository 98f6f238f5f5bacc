import RangeFetch.Download.Observed

/-!
A downloader by its registers. The chunk that is current, if one is, and the offset of the next byte
of the open stream are kept apart from what the loop is at, and each step looks up what it needs
there. A step that needs a chunk and finds none falls back to something harmless; the loop notes
that it did.
-/

namespace RangeFetch

/-- An open connection. It does not know at which offset it stands. -/
structure Body where
  items : List Item
  ending : Ending
  deriving DecidableEq

def Stream.body (s : Stream) : Body := ⟨s.items, s.ending⟩

namespace RequestLoop

/-- What the loop is at. -/
inductive Place where
  | idle
  | requesting (start : Nat)
  /-- Waits for a chunk before it asks for a delivery. -/
  | pausing (body : Body)
  /-- Waits for a delivery. -/
  | reading (body : Body)
  /-- Waits for a chunk to splice the rest of a delivery into. -/
  | splicing (buffer : Delivery) (body : Body)
  | failing (error : ChunkError) (rest : List Chunk)
  | stopped
  deriving DecidableEq

def Place.body? : Place → Option Body
  | pausing body => some body
  | reading body => some body
  | splicing _ body => some body
  | _ => none

/-- Where a chunk was needed and none was current. -/
inductive Fallback where
  /-- A request without a chunk goes back to waiting for one. -/
  | request
  /-- The end of a stream that nobody reads is no error. -/
  | endOfStream
  /-- Splicing without a chunk ends as if none had come in time. -/
  | splice
  deriving DecidableEq

end RequestLoop

structure RequestLoop where
  identity : FileIdentity
  options : DownloadOptions
  queue : ChunkQueue
  state : DownloadState
  current : Option Chunk
  /-- The offset of the next byte that the open stream delivers. -/
  downloadOffset : Nat
  rangeRestarts : Nat
  stats : DownloadStats
  place : RequestLoop.Place
  fallbacks : List RequestLoop.Fallback
  deriving DecidableEq

namespace RequestLoop

open Downloader (Event Happening)

def start (identity : FileIdentity) (options : DownloadOptions) : RequestLoop where
  identity := identity
  options := options
  queue := .empty identity.size
  state := .idle
  current := none
  downloadOffset := 0
  rangeRestarts := 0
  stats := { DownloadStats.zero with downloadersStarted := 1 }
  place := .idle
  fallbacks := []

def fallBack (l : RequestLoop) (f : Fallback) : RequestLoop :=
  { l with fallbacks := l.fallbacks ++ [f] }

def idle (l : RequestLoop) : RequestLoop := { l with state := .idle, place := .idle }

def finish (l : RequestLoop) (e : ChunkError) : RequestLoop :=
  { l with
    queue := l.queue.close.2
    current := none
    stats := { l.stats with
      chunksFailed := l.stats.chunksFailed + (l.queue.close.1 ++ l.current.toList).length }
    place := .failing e (l.queue.close.1 ++ l.current.toList) }

def failAll (l : RequestLoop) (e : SourceError) : RequestLoop := l.finish (.source e)

def request (l : RequestLoop) : RequestLoop :=
  match l.current with
  | none => ({ l with state := .requesting }.fallBack .request).idle
  | some c =>
    { l with
      state := .requesting
      stats := { l.stats with requests := l.stats.requests + 1 }
      place := .requesting c.cursor }

def seekToCurrent (l : RequestLoop) : RequestLoop :=
  { l with stats := { l.stats with seeks := l.stats.seeks + 1 } }.request

def stall (l : RequestLoop) : RequestLoop :=
  { l with stats := { l.stats with stalls := l.stats.stalls + 1 } }.finish .cancelled

/-- Goes on with the open stream. Without a chunk it is given up at the end of the file, and else
a chunk is waited for first. -/
def stream (l : RequestLoop) (body : Body) : RequestLoop :=
  match l.current with
  | some _ => { l with place := .reading body }
  | none =>
    if l.identity.size ≤ l.downloadOffset then l.idle else { l with place := .pausing body }

def beginStream (l : RequestLoop) (requested : Nat) (opened : Stream) : RequestLoop :=
  if opened.offset = requested then
    { l with rangeRestarts := 0, downloadOffset := opened.offset, state := .streaming }.stream
      opened.body
  else
    let attempts := l.rangeRestarts + 1
    let restarted := { l with rangeRestarts := attempts }
    if l.options.maxRangeRestarts < attempts then
      restarted.failAll (.rangeNotHonored requested attempts)
    else { restarted with downloadOffset := opened.offset, state := .streaming }.stream opened.body

/-- Splices the delivery into the current chunk. When the chunk is full and the delivery is not used
up, another chunk is waited for. -/
def splice (l : RequestLoop) (buffer : Delivery) (body : Body) : RequestLoop × List Firing :=
  match l.current with
  | none => (({ l with downloadOffset := buffer.start }.fallBack .splice).stall, [])
  | some c =>
    if c.cursor ≠ buffer.start then
      ({ l with downloadOffset := buffer.start }.seekToCurrent, [])
    else
      let count := c.accepts buffer.unread
      let written := c.write buffer.unread
      let rest := buffer.advance count
      let counted := { l with
        stats := { l.stats with bytesDelivered := l.stats.bytesDelivered + count } }
      if !written.isFull then
        ({ counted with current := some written, downloadOffset := rest.start }.stream body, [])
      else
        let completed := { counted with
          current := none
          stats := { counted.stats with
            chunksCompleted := counted.stats.chunksCompleted + 1 } }
        if rest.isEmpty then
          ({ completed with downloadOffset := rest.start }.stream body, [written.complete])
        else ({ completed with place := .splicing rest body }, [written.complete])

def wake (l : RequestLoop) : RequestLoop :=
  match l.queue.dequeueOrClose with
  | (.chunk c, queue) =>
    { l with queue := queue, downloadOffset := c.cursor, current := some c }.request
  | (.timedOut, queue) =>
    { l with
      queue := queue
      stats := { l.stats with idleTimeouts := l.stats.idleTimeouts + 1 } }.finish .cancelled
  | (.stopped, queue) => { l with queue := queue }.finish .cancelled

def proceed (l : RequestLoop) (body : Body) : RequestLoop :=
  match l.queue.dequeueOrClose with
  | (.chunk c, queue) =>
    let taken := { l with queue := queue, current := some c }
    if c.cursor = l.downloadOffset then { taken with place := .reading body }
    else taken.seekToCurrent
  | (.timedOut, queue) => { l with queue := queue }.stall
  | (.stopped, queue) => { l with queue := queue }.finish .cancelled

def spliceNext (l : RequestLoop) (buffer : Delivery) (body : Body) : RequestLoop × List Firing :=
  match l.queue.dequeueOrClose with
  | (.chunk c, queue) => { l with queue := queue, current := some c }.splice buffer body
  | (.timedOut, queue) => ({ l with queue := queue, downloadOffset := buffer.start }.stall, [])
  | (.stopped, queue) =>
    ({ l with queue := queue, downloadOffset := buffer.start }.finish .cancelled, [])

def take (l : RequestLoop) : RequestLoop × List Firing :=
  match l.place with
  | .idle => (l.wake, [])
  | .pausing body => (l.proceed body, [])
  | .splicing buffer body => l.spliceNext buffer body
  | _ => (l, [])

def opened (l : RequestLoop) (answer : Except SourceError Stream) : RequestLoop :=
  match l.place with
  | .requesting start =>
    match answer with
    | .error e => l.failAll e
    | .ok opened => l.beginStream start opened
  | _ => l

def endOfStream (l : RequestLoop) : RequestLoop :=
  match l.current with
  | none => (l.fallBack .endOfStream).idle
  | some _ => l.failAll (.unexpectedEof l.downloadOffset l.identity.size)

/-- The stream is asked for its next item. A delivery without a current chunk waits for one. -/
def deliver (l : RequestLoop) : RequestLoop × List Firing :=
  match l.place with
  | .reading ⟨.bytes [] :: rest, ending⟩ => (l.stream ⟨rest, ending⟩, [])
  | .reading ⟨.bytes delivered :: rest, ending⟩ =>
    match l.current with
    | none => ({ l with place := .splicing ⟨l.downloadOffset, delivered⟩ ⟨rest, ending⟩ }, [])
    | some _ => l.splice ⟨l.downloadOffset, delivered⟩ ⟨rest, ending⟩
  | .reading ⟨.failed e :: _, _⟩ => (l.failAll e, [])
  | .reading ⟨[], .eof⟩ => (l.endOfStream, [])
  | _ => (l, [])

def readTimedOut (l : RequestLoop) : RequestLoop :=
  match l.place with
  | .reading _ => l.failAll (.timeout l.options.readTimeout)
  | _ => l

def stop (l : RequestLoop) : RequestLoop := { l with queue := l.queue.stop }

def notice (l : RequestLoop) : RequestLoop :=
  if l.queue.stopped then
    match l.place with
    | .requesting _ => l.finish .cancelled
    | .reading _ => l.finish .cancelled
    | _ => l
  else l

def failNext (l : RequestLoop) : RequestLoop × List Firing :=
  match l.place with
  | .failing e (c :: rest) => ({ l with place := .failing e rest }, [c.fail e])
  | .failing _ [] => ({ l with state := .stopped, place := .stopped }, [])
  | _ => (l, [])

def enqueue (l : RequestLoop) (c : Chunk) : Except Chunk (RequestLoop × List Firing) :=
  if l.identity.size ≤ c.cursor then
    .ok ({ l with stats := { l.stats with chunksCompleted := l.stats.chunksCompleted + 1 } },
      [c.complete])
  else match l.queue.enqueue c with
    | .ok queue => .ok ({ l with queue := queue }, [])
    | .error handedBack => .error handedBack

def step (l : RequestLoop) : Event → RequestLoop × List Firing
  | .take => l.take
  | .opened answer => (l.opened answer, [])
  | .deliver => l.deliver
  | .readTimedOut => (l.readTimedOut, [])
  | .notice => (l.notice, [])
  | .failNext => l.failNext

def connection? (l : RequestLoop) : Event → Option Connection
  | .opened (.ok stream) =>
    match l.place with
    | .requesting start => some ⟨start, stream⟩
    | _ => none
  | _ => none

end RequestLoop

/-- The loop, and what was seen of it. -/
structure LoopHistory where
  loop : RequestLoop
  asked : List (Nat × Nat)
  handedBack : List Chunk
  connections : List Connection
  fired : List Firing

namespace LoopHistory

open Downloader (Event Happening)

def start (identity : FileIdentity) (options : DownloadOptions) : LoopHistory :=
  ⟨.start identity options, [], [], [], []⟩

def ask (t : LoopHistory) (start limit : Nat) : LoopHistory :=
  let noted := { t with asked := t.asked ++ [(start, limit)] }
  match Chunk.request t.asked.length start limit with
  | .error firing => { noted with fired := t.fired ++ [firing] }
  | .ok c =>
    match t.loop.enqueue c with
    | .ok (l, fired) => { noted with loop := l, fired := t.fired ++ fired }
    | .error c' => { noted with handedBack := t.handedBack ++ [c'] }

def move (t : LoopHistory) (e : Event) : LoopHistory :=
  { t with
    loop := (t.loop.step e).1
    connections := t.connections ++ (t.loop.connection? e).toList
    fired := t.fired ++ (t.loop.step e).2 }

def step (t : LoopHistory) : Happening → LoopHistory
  | .ask start limit => t.ask start limit
  | .stop => { t with loop := t.loop.stop }
  | .move e => t.move e

def run (t : LoopHistory) : List Happening → LoopHistory
  | [] => t
  | x :: rest => (t.step x).run rest

end LoopHistory

end RangeFetch
