import RangeFetch.Session.Basic

namespace RangeFetch

namespace Session

inductive Operation where
  | openFile (identity : FileIdentity)
  | get (handle : Nat)
  | read (handle offset size : Nat)
  | release (handle : Nat)
  | countOpen
  | dropTable
  /-- Reads from a file whose handle may be closed. -/
  | fileRead (handle offset size : Nat)
  | fileRelease (handle : Nat)
  | fileInfo (handle : Nat)
  | stats (handle : Nat)
  | awaitState (handle : Nat) (names : List String)
  | enqueue (handle : Nat) (label : String) (start limit : Nat) (plan : Plan)
  | wait
  | spawn (identity : FileIdentity)
  | offer (index : Nat) (label : String) (start limit : Nat)
  | awaitSingle (index : Nat) (names : List String)
  | singleInfo (index : Nat)
  | singleStats (index : Nat)
  | stop (index : Nat)
  | join (index : Nat)
  | describe (index : Nat)
  | gate (isOpen : Bool)
  /-- Waits for what has happened already when all downloaders wait. -/
  | pause
  | setFault (switch : Faults.Switch)
  | setMode (mode : Http.ServerMode)
  | requests
  | storeRequests

inductive Answer where
  | done
  | number (n : Nat)
  | data (bytes : Bytes)
  | fileError (error : FileError)
  | fileInfo (identity : FileIdentity) (released : Bool) (description : String)
  | openCount (count : Nat)
  | stats (stats : DownloadStats)
  | state (name : String)
  | timeout
  | report (results : List (String × Completion))
  | chunkError (error : ChunkError)
  | refused (text : String)
  | singleInfo (identity : FileIdentity) (pending : Nat) (isStopped : Bool)
  | text (text : String)
  | requests (requests : List Request)
  | unknown

def setTable (s : Session) (table : FileTable) : Session := { s with table := table }

def readFile (s : Session) (handle offset size : Nat) : Answer × Session :=
  match s.enqueueOn handle none offset (StreamingFile.readLimit offset size) .done with
  | (.error e, s', fired) => (.fileError e, s'.fireAll fired)
  | (.ok signal, s', fired) =>
    let waited := (s'.fireAll fired).settle.await fun s => (s.book.result? signal).isSome
    match (waited.book.result? signal).map Completion.answer with
    | some (.ok bytes) => (.data bytes, waited)
    | some (.error e) => (.fileError e, waited)
    | none => (.timeout, waited)

def describeFile (f : StreamingFile) : Answer := .fileInfo f.identity f.released f.describe

def stateName (d : Option Downloader) : String := d.elim "None" (·.phase.name)

/-- The state of the downloader that a file uses; without one it is `None`. -/
def fileStateName (handle : Nat) (s : Session) : String :=
  stateName ((s.table.file? handle).bind (·.current?))

def singleStateName (index : Nat) (s : Session) : String := stateName s.singles[index]?

def awaitName (s : Session) (nameOf : Session → String) (names : List String) :
    Answer × Session :=
  let waited := s.await fun s => names.contains (nameOf s)
  let name := nameOf waited
  (if names.contains name then .state name else .timeout, waited)

def releaseFile (s : Session) (handle : Nat) : Answer × Session :=
  match s.table.file? handle with
  | none => (.fileError (.badHandle handle), s)
  | some f => (.done, (s.setTable (s.table.setFile handle f.release)).settle)

def releaseHandle (s : Session) (handle : Nat) : Answer × Session :=
  match s.table.release handle with
  | .error e => (.fileError e, s)
  | .ok table => (.done, (s.setTable table).settle)

def releaseAll (s : Session) : Session :=
  s.handles.foldl (fun s handle => (s.releaseHandle handle).2) s

def stopSingle (s : Session) (index : Nat) : Session :=
  match s.singles[index]? with
  | none => s
  | some d => (s.setDownloader (.single index) d.stop).settle

/-- Offers a chunk to a downloader; one that is refused fires as abandoned. -/
def offerChunk (s : Session) (index : Nat) (label : String) (start limit : Nat) :
    Answer × Session :=
  match s.singles[index]? with
  | none => (.unknown, s)
  | some d =>
    let (signal, book) := s.book.issue (some label) 0 .done
    let issued := { s with book := book }
    match Chunk.request signal start limit with
    | .error firing => (.chunkError (.invalidRange start limit), issued.fire firing)
    | .ok c =>
      match d.enqueue c with
      | .ok (d', fired) => (.done, ((issued.setDownloader (.single index) d').fireAll fired).settle)
      | .error handedBack => (.refused handedBack.refusal, issued.fire handedBack.abandon)

def aboutSingle (s : Session) (index : Nat) (answer : Downloader → Answer) : Answer × Session :=
  match s.singles[index]? with
  | some d => (answer d, s)
  | none => (.unknown, s)

def aboutFile (s : Session) (handle : Nat) (answer : StreamingFile → Answer) :
    Answer × Session :=
  match s.table.file? handle with
  | some f => (answer f, s)
  | none => (.fileError (.badHandle handle), s)

def run (s : Session) : Operation → Answer × Session
  | .openFile identity =>
    let (handle, table) := s.table.openFile identity
    (.number handle, s.setTable table)
  | .get handle =>
    match s.table.get handle with
    | .ok f => (describeFile f, s)
    | .error e => (.fileError e, s)
  | .read handle offset size =>
    match s.table.get handle with
    | .ok _ => s.readFile handle offset size
    | .error e => (.fileError e, s)
  | .release handle => s.releaseHandle handle
  | .countOpen => (.openCount s.table.openCount, s)
  | .dropTable => (.done, s.releaseAll)
  | .fileRead handle offset size => s.readFile handle offset size
  | .fileRelease handle => s.releaseFile handle
  | .fileInfo handle => s.aboutFile handle describeFile
  | .stats handle => s.aboutFile handle fun f => .stats f.stats
  | .awaitState handle names => s.awaitName (fileStateName handle) names
  | .enqueue handle label start limit plan =>
    let (answer, s', fired) := s.enqueueOn handle (some label) start limit plan
    (match answer with
      | .ok _ => .done
      | .error e => .fileError e,
      (s'.fireAll fired).settle)
  | .wait =>
    let waited := s.await (·.book.isSettled)
    let (results, book) := waited.book.report
    (.report results, { waited with book := book })
  | .spawn identity =>
    (.number s.singles.length,
      { s with singles := s.singles ++ [Downloader.start identity s.table.options] }.settle)
  | .offer index label start limit => s.offerChunk index label start limit
  | .awaitSingle index names => s.awaitName (singleStateName index) names
  | .singleInfo index =>
    s.aboutSingle index fun d => .singleInfo d.identity d.queue.pending.length d.isStopped
  | .singleStats index => s.aboutSingle index fun d => .stats d.stats
  | .stop index => (.done, s.stopSingle index)
  | .join index => (.done, s.await fun s => singleStateName index s == Phase.stopped.name)
  | .describe index => s.aboutSingle index fun d => .text d.describe
  | .gate isOpen => (.done, { s with world := { s.world with gateOpen := isOpen } }.settle)
  | .pause => (.done, s)
  | .setFault switch => (.done, { s with world := s.world.setFault switch })
  | .setMode mode => (.done, { s with world := s.world.setMode mode })
  | .requests => (.requests s.world.requests, s)
  | .storeRequests => (.requests s.world.store.requests, s)

def runAll (s : Session) : List Operation → List Answer × Session
  | [] => ([], s)
  | op :: rest =>
    let (answer, s') := s.run op
    let (answers, s'') := s'.runAll rest
    (answer :: answers, s'')

def finish (s : Session) : List (String × Completion) :=
  let released := s.handles.foldl (fun s handle => (s.releaseFile handle).2) s.releaseAll
  let stopped := (List.range s.singles.length).foldl stopSingle released
  stopped.book.sortedReport

end Session

end RangeFetch
