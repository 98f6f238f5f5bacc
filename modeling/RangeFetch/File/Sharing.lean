import RangeFetch.File.Streaming

/-!
A file that several callers share. A call goes through steps of its own: it waits for its turn,
looks for a downloader that runs, offers its chunk, and then waits for the ends of the downloaders
that it has taken out of use. Between any two steps the downloaders move and other calls go on.
-/

namespace RangeFetch

inductive Errand where
  | queued (signal : Nat)
  | refused (chunk : Chunk) (error : FileError)
  | release

/-- What a chunk fails with that was accepted nowhere. -/
def FileError.forChunk : FileError → ChunkError
  | .released => .cancelled
  | _ => .abandoned

namespace Errand

def fires : Errand → List Firing
  | refused c e => [c.fail e.forChunk]
  | _ => []

/-- What the call returns for its signal. -/
def answers : Errand → List (Nat × Except FileError Unit)
  | queued signal => [(signal, .ok ())]
  | refused c e => [(c.signal, .error e)]
  | release => []

end Errand

inductive CallStage where
  | entering (c : Chunk)
  /-- Looks for a downloader that runs. It is the call's turn, and nobody else's. -/
  | choosing (c : Chunk)
  | offering (c : Chunk)
  | leaving (errand : Errand)
  | joining (errand : Errand)

namespace CallStage

def chunks : CallStage → List Chunk
  | entering c => [c]
  | choosing c => [c]
  | offering c => [c]
  | leaving (.refused c _) => [c]
  | joining (.refused c _) => [c]
  | _ => []

def errand? : CallStage → Option Errand
  | leaving errand => some errand
  | joining errand => some errand
  | _ => none

def hasTurn : CallStage → Bool
  | choosing _ => true
  | offering _ => true
  | _ => false

end CallStage

structure Call where
  /-- The downloader whose signal makes the call, if it is not somebody from outside. -/
  caller : Option Nat
  stage : CallStage
  /-- The downloaders that the call has taken out of use. -/
  stale : List Nat

structure SharedFile where
  file : StreamingFile
  calls : List Call
  /-- The ranges asked for so far. The signal of each is its place. -/
  asked : List (Nat × Nat)
  /-- The signals of the calls that have returned, with what they returned. -/
  answers : List (Nat × Except FileError Unit)
  /-- Every downloader that has accepted a chunk, with the signal of that. -/
  accepted : List (Nat × Nat)
  fired : List Firing
  /-- The downloaders that were taken out of use from within a signal of their own. Nobody waits
  for their ends. -/
  unattended : List Nat

namespace SharedFile

def start (identity : FileIdentity) (options : DownloadOptions) : SharedFile :=
  ⟨.new identity options, [], [], [], [], [], []⟩

def hasEnded (s : SharedFile) (k : Nat) : Bool := s.file.hasEnded k

def isFree (s : SharedFile) : Bool := s.calls.all fun c => !c.stage.hasTurn

def setCall (s : SharedFile) (i : Nat) (c : Call) : SharedFile :=
  { s with calls := s.calls.set i c }

def ask (s : SharedFile) (caller : Option Nat) (start limit : Nat) : SharedFile :=
  let signal := s.asked.length
  let noted := { s with asked := s.asked ++ [(start, limit)] }
  match Chunk.request signal start limit with
  | .error firing =>
    { noted with
      fired := s.fired ++ [firing]
      answers := s.answers ++ [(signal, .error (.invalidRange start limit))] }
  | .ok c =>
    if s.file.released then
      { noted with
        fired := s.fired ++ [c.fail .cancelled]
        answers := s.answers ++ [(signal, .error .released)] }
    else if s.file.identity.size ≤ start then
      { noted with
        file := s.file.countComplete
        fired := s.fired ++ [c.complete]
        answers := s.answers ++ [(signal, .ok ())] }
    else { noted with calls := s.calls ++ [⟨caller, .entering c, []⟩] }

def release (s : SharedFile) (caller : Option Nat) : SharedFile :=
  if s.isFree then
    { s with
      file := s.file.withdraw
      calls := s.calls ++ [⟨caller, .leaving .release, s.file.inUse.toList⟩] }
  else s

def offer (s : SharedFile) (i : Nat) (call : Call) (c : Chunk) : SharedFile :=
  match s.file.offer c with
  | .ok (file, fired) =>
    { s.setCall i { call with stage := .leaving (.queued c.signal) } with
      file := file
      accepted := s.accepted ++ s.file.inUse.toList.map (·, c.signal)
      fired := s.fired ++ fired }
  | .error handedBack => s.setCall i { call with stage := .choosing handedBack }

/-- A call is over. One that was made from within a signal does not wait for the downloader of that
signal. -/
def leave (s : SharedFile) (i : Nat) (call : Call) (errand : Errand) : SharedFile :=
  { s with
    calls := s.calls.eraseIdx i
    unattended := s.unattended ++ call.stale.filter fun k => !s.hasEnded k
    fired := s.fired ++ errand.fires
    answers := s.answers ++ errand.answers }

def advance (s : SharedFile) (i : Nat) : SharedFile :=
  match s.calls[i]? with
  | none => s
  | some call =>
    match call.stage with
    | .entering c =>
      if !s.isFree then s
      else if s.file.released then
        s.setCall i { call with stage := .leaving (.refused c .released) }
      else s.setCall i { call with stage := .choosing c }
    | .choosing c =>
      { s.setCall i
          { call with stage := .offering c, stale := call.stale ++ s.file.stale?.toList } with
        file := s.file.renew }
    | .offering c => s.offer i call c
    | .leaving errand =>
      { s.setCall i { call with stage := .joining errand } with
        file := s.file.stopAll call.stale }
    | .joining errand =>
      if call.stale.all fun k => s.hasEnded k || call.caller == some k then s.leave i call errand
      else s

/-- A call needs a downloader and none can be started. -/
def launchFails (s : SharedFile) (i : Nat) (text : String) : SharedFile :=
  match s.calls[i]? with
  | none => s
  | some call =>
    match call.stage with
    | .choosing c =>
      if s.file.isServed then s
      else
        { s.setCall i
            { call with
              stage := .leaving (.refused c (.notStarted text))
              stale := call.stale ++ s.file.inUse.toList } with
          file := { s.file with inUse := none } }
    | _ => s

def move (s : SharedFile) (k : Nat) (e : Downloader.Event) : SharedFile :=
  { s with file := (s.file.step k e).1, fired := s.fired ++ (s.file.step k e).2 }

inductive Happening where
  | ask (caller : Option Nat) (start limit : Nat)
  | release (caller : Option Nat)
  | advance (call : Nat)
  | launchFails (call : Nat) (text : String)
  | move (k : Nat) (event : Downloader.Event)

def Happening.caller? : Happening → Option Nat
  | ask caller _ _ => caller
  | release caller => caller
  | _ => none

def step (s : SharedFile) : Happening → SharedFile
  | .ask caller start limit => s.ask caller start limit
  | .release caller => s.release caller
  | .advance call => s.advance call
  | .launchFails call text => s.launchFails call text
  | .move k e => s.move k e

def run (s : SharedFile) : List Happening → SharedFile
  | [] => s
  | x :: rest => (s.step x).run rest

def timesFired (s : SharedFile) (signal : Nat) : Nat := Firing.times signal s.fired

/-- How often downloaders hold the chunk of a signal, in a queue or out of it. -/
def timesOutstanding (s : SharedFile) (signal : Nat) : Nat :=
  Chunk.times signal (s.file.downloaders.flatMap (·.outstanding))

/-- How often calls in progress hold the chunk of a signal. -/
def timesInHand (s : SharedFile) (signal : Nat) : Nat :=
  Chunk.times signal (s.calls.flatMap (·.stage.chunks))

end SharedFile

end RangeFetch
