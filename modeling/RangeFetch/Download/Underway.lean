import RangeFetch.Download.Drive
import RangeFetch.Download.History

namespace RangeFetch

open Downloader (Event)

/-- A stream was opened in answer to the request, for the chunk with this signal. -/
structure Opening where
  signal : Nat
  request : Request
  deriving DecidableEq

structure Underway (ε : Type) where
  history : History
  held : Option Request
  world : ε
  openings : List Opening

inductive Turn where
  | ask (start limit : Nat)
  | stop
  | go
  /-- What the downloader waits for has not come in time. -/
  | expire
  deriving DecidableEq

namespace Underway

variable {ε : Type}

def start (identity : FileIdentity) (options : DownloadOptions) (w : ε) : Underway ε :=
  ⟨.start identity options, none, w, []⟩

abbrev downloader (u : Underway ε) : Downloader := u.history.downloader

def move (u : Underway ε) (e : Event) : Underway ε :=
  { u with history := u.history.move e, held := none }

def request (u : Underway ε) (source : Supplier ε) (start : Nat) : Underway ε :=
  match u.downloader.nextRequest source u.held u.world start with
  | (.error e, w) => { u.move (.opened (.error e)) with world := w }
  | (.ok r, w) =>
    match source.issue w r with
    | none => { u with held := some r, world := w }
    | some (.error e, w') => { u.move (.opened (.error e)) with world := w' }
    | some (.ok opened, w') =>
      { u.move (.opened (.ok opened.stream)) with
        world := w'
        openings := u.openings ++ u.downloader.phase.chunks.map fun c => ⟨c.signal, r⟩ }

/-- The downloader's next move, unless it waits for what may not come. -/
def go (u : Underway ε) (source : Supplier ε) : Underway ε :=
  match u.downloader.wants with
  | .ready e => u.move e
  | .stream start => u.request source start
  | _ => u

def expire (u : Underway ε) : Underway ε :=
  match u.downloader.wants with
  | .expiring _ e => u.move e
  | _ => u

def step (source : Supplier ε) (u : Underway ε) : Turn → Underway ε
  | .ask start limit => { u with history := u.history.ask start limit }
  | .stop => { u with history := u.history.step .stop }
  | .go => u.go source
  | .expire => u.expire

def run (u : Underway ε) (source : Supplier ε) (turns : List Turn) : Underway ε :=
  turns.foldl (step source) u

theorem run_append (u : Underway ε) (source : Supplier ε) (xs ys : List Turn) :
    u.run source (xs ++ ys) = (u.run source xs).run source ys := List.foldl_append

/-- The requests for one chunk that a stream was opened for. -/
def openedFor (u : Underway ε) (signal : Nat) : List Request :=
  (u.openings.filter (·.signal == signal)).map (·.request)

end Underway

end RangeFetch
