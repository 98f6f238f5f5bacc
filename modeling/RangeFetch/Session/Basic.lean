import RangeFetch.Download.Drive
import RangeFetch.File.Table
import RangeFetch.Session.Signals
import RangeFetch.Session.World

/-!
A session: open files and single downloaders over one world, and the signals of their reads. After
each operation all downloaders move until they wait. Time passes only where an operation has to
wait for something; then the shortest wait that can end does.
-/

namespace RangeFetch

inductive Seat where
  | file (handle index : Nat)
  | single (index : Nat)
  deriving DecidableEq

structure Session where
  world : World
  table : FileTable
  singles : List Downloader
  held : List (Seat × Request)
  book : SignalBook

namespace Session

def start (world : World) (options : DownloadOptions) : Session :=
  ⟨world, .empty options, [], [], .empty⟩

/-- The places of all downloaders of a file. -/
def fileSeats (s : Session) (handle : Nat) : List Seat :=
  match s.table.file? handle with
  | some f => (List.range f.downloaders.length).map (.file handle)
  | none => []

def handles (s : Session) : List Nat := (List.range s.table.entries.length).map (· + 1)

def seats (s : Session) : List Seat :=
  s.handles.flatMap s.fileSeats ++ (List.range s.singles.length).map .single

def downloader? (s : Session) : Seat → Option Downloader
  | .file handle index => (s.table.file? handle).bind (·.downloaders[index]?)
  | .single index => s.singles[index]?

def setDownloader (s : Session) (seat : Seat) (d : Downloader) : Session :=
  match seat with
  | .file handle index =>
    match s.table.file? handle with
    | some f =>
      { s with
        table := s.table.setFile handle { f with downloaders := f.downloaders.set index d } }
    | none => s
  | .single index => { s with singles := s.singles.set index d }

def setHeld (s : Session) (seat : Seat) (r : Option Request) : Session :=
  { s with held := (r.map fun r => (seat, r)).toList ++ s.held.filter (·.1 != seat) }

def enqueueOn (s : Session) (handle : Nat) (label : Option String) (start limit : Nat)
    (plan : Plan) : Except FileError Nat × Session × List Firing :=
  match s.table.file? handle with
  | none => (.error (.badHandle handle), s, [])
  | some f =>
    let (signal, book) := s.book.issue label handle plan
    let (answer, f', fired) := f.enqueue signal start limit
    (answer.map fun _ => signal, { s with table := s.table.setFile handle f', book := book }, fired)

def record (s : Session) (f : Firing) : Session := { s with book := s.book.record f }

/-- Carries out a plan. A read that is complete at once has its own plan carried out before the
rest. -/
def follow (handle : Nat) : Plan → Session → Session
  | .done, s => s
  | .set switch next, s => follow handle next { s with world := s.world.setFault switch }
  | .enqueue label start limit inner next, s =>
    let (_, s', fired) := s.enqueueOn handle (some label) start limit inner
    let noted := fired.foldl record s'
    follow handle next (if fired.isEmpty then noted else follow handle inner noted)

def fire (s : Session) (f : Firing) : Session :=
  match s.book.tickets[f.signal]? with
  | some t => follow t.handle t.plan (s.record f)
  | none => s

def fireAll (s : Session) (fired : List Firing) : Session := fired.foldl fire s

/-- Moves one downloader until it fires or waits. Also tells whether it has fired. -/
def moveOnce (s : Session) (seat : Seat) : Session × Bool :=
  match s.downloader? seat with
  | none => (s, false)
  | some d =>
    let driven := d.drive World.supplier (s.held.lookup seat) s.world
    let moved := { s with world := driven.world }.setDownloader seat driven.downloader
    ((moved.setHeld seat driven.held).fireAll driven.fired, !driven.fired.isEmpty)

/-- How many chunks a downloader is about to fail. -/
def failingCount (s : Session) (seat : Seat) : Nat :=
  match (s.downloader? seat).map Downloader.phase with
  | some (.failing _ _ rest) => rest.length
  | _ => 0

def moveOn : Nat → Session → Seat → Session
  | 0, s, _ => s
  | count + 1, s, seat =>
    let (s', fired) := s.moveOnce seat
    if fired then moveOn count s' seat else s'

/-- Moves one downloader until it fires or waits; one that fails fires all that is outstanding
before any other moves. Also tells whether it has fired. -/
def move (s : Session) (seat : Seat) : Session × Bool :=
  let (s', fired) := s.moveOnce seat
  (moveOn (s'.failingCount seat) s' seat, fired)

def round (s : Session) : Session × Bool :=
  s.seats.foldl
    (fun acc seat =>
      let (s', fired) := acc.1.move seat
      (s', acc.2 || fired))
    (s, false)

def rounds : Nat → Session → Session
  | 0, s => s
  | count + 1, s => if s.round.2 then rounds count s.round.1 else s.round.1

/-- Moves all downloaders until they wait. Every round but the last fires a signal, so there are
no more rounds than signals to fire. -/
def settle (s : Session) : Session := rounds (s.book.weight + 1) s

/-- How long an operation waits for something, in milliseconds. -/
def patience : Nat := 10000

/-- The wait that ends first, with the event that ends it; none that outlasts an operation. -/
def nextExpiry (s : Session) : Option (Nat × Seat × Downloader.Event) :=
  s.seats.foldl
    (fun best seat =>
      match (s.downloader? seat).map Downloader.wants with
      | some (.expiring millis event) =>
        if millis < patience ∧ (best.all fun b => millis < b.1) then some (millis, seat, event)
        else best
      | _ => best)
    none

/-- A wait ends. -/
def expire (s : Session) (seat : Seat) (event : Downloader.Event) : Session :=
  match s.downloader? seat with
  | none => s
  | some d =>
    let (d', fired) := d.step event
    ((s.setDownloader seat d').fireAll fired).settle

def awaitWithin (isDone : Session → Bool) : Nat → Session → Session
  | 0, s => s
  | count + 1, s =>
    if isDone s then s
    else match s.nextExpiry with
      | none => s
      | some (_, seat, event) => awaitWithin isDone count (s.expire seat event)

/-- Lets time pass until `isDone`. A wait that ends stops its downloader, and a new one starts
only when a signal fires, so no more waits can end than there are downloaders and signals. -/
def await (s : Session) (isDone : Session → Bool) : Session :=
  awaitWithin isDone (s.seats.length + s.book.weight + 1) s

end Session

end RangeFetch
