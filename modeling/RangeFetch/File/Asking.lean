import RangeFetch.File.Observed

namespace RangeFetch

def FileError.told : FileError → ChunkError
  | .invalidRange start limit => .invalidRange start limit
  | e => e.forChunk

namespace CallStage

/-- The chunk that a call has in hand and that has been accepted nowhere. -/
def unqueued? : CallStage → Option Chunk
  | entering c => some c
  | choosing c => some c
  | offering c => some c
  | _ => none

/-- How many steps are ahead of a call that is refused nothing. -/
def ahead : CallStage → Nat
  | entering _ => 5
  | choosing _ => 4
  | offering _ => 3
  | leaving _ => 2
  | joining _ => 1

end CallStage

namespace SharedFile

def Happening.isHarmless : Happening → Bool
  | release _ => false
  | launchFails _ _ => false
  | _ => true

section Views

variable (s : SharedFile) (n : Nat)

def callsOf : List Call := s.calls.filter (·.stage.signal? == some n)

def answersOf : List (Except FileError Unit) := (s.answers.filter (·.1 == n)).map (·.2)

def takersOf : List Nat := (s.accepted.filter (·.2 == n)).map (·.1)

def resultsOf : List Completion := (s.fired.filter (·.signal == n)).map (·.result)

def aheadOf : Nat := sumOf (·.stage.ahead) (s.callsOf n)

end Views

def answered (s : SharedFile) (first limit : Nat) (result : Completion)
    (answer : Except FileError Unit) : SharedFile :=
  { s with
    asked := s.asked ++ [(first, limit)]
    fired := s.fired ++ [⟨s.asked.length, result⟩]
    answers := s.answers ++ [(s.asked.length, answer)] }

/-- A call has to wait: another has the turn, or a downloader that it has taken out of use is not
at its end. -/
def isHeldUp (s : SharedFile) (call : Call) : Bool :=
  match call.stage with
  | .entering _ => !s.isFree
  | .joining _ => !call.stale.all fun k => s.hasEnded k || call.caller == some k
  | _ => false

/-- The call for a read takes a step and is not held up. -/
def goesOn (n : Nat) (s : SharedFile) : Happening → Bool
  | .advance i => s.calls[i]?.any fun call => call.stage.signal? == some n && !s.isHeldUp call
  | _ => false

/-- The chunk of a read is offered to a downloader that is closed and hands it back. -/
def isHandedBack (n : Nat) (s : SharedFile) : Happening → Bool
  | .advance i => s.calls[i]?.any fun call =>
      match call.stage with
      | .offering c => c.signal == n && s.file.current?.any (·.queue.isClosed)
      | _ => false
  | _ => false

/-- How many happenings of a run are of a kind, each seen in the state in which it comes. -/
def howMany (kind : SharedFile → Happening → Bool) : SharedFile → List Happening → Nat
  | _, [] => 0
  | s, x :: rest => (kind s x).toNat + (s.step x).howMany kind rest

/-- A step of the call for a chunk, in a file that is not released. No case fires a signal. -/
inductive Attends (s : SharedFile) (c : Chunk) (i : Nat) : SharedFile → Prop where
  | waits {call : Call} (found : s.calls[i]? = some call) (held : s.isHeldUp call = true) :
      Attends s c i s
  | enters {call : Call} {c' : Chunk} (found : s.calls[i]? = some call)
      (stage : call.stage = .entering c') (free : s.isFree = true) :
      Attends s c i (s.setCall i { call with stage := .choosing c' })
  | keeps {k : Nat} {call : Call} {c' : Chunk} {d : Downloader} (found : s.calls[i]? = some call)
      (stage : call.stage = .choosing c') (use : s.file.inUse = some k)
      (there : s.file.downloaders[k]? = some d) (running : d.isStopped = false) :
      Attends s c i (s.setCall i { call with stage := .offering c' })
  | launches {call : Call} {c' : Chunk} (found : s.calls[i]? = some call)
      (stage : call.stage = .choosing c')
      (unserved : ∀ d, s.file.current? = some d → d.isStopped = true) :
      Attends s c i { s.setCall i
          { call with stage := .offering c', stale := call.stale ++ s.file.inUse.toList } with
        file := s.file.launch }
  | queues {k : Nat} {call : Call} {c' : Chunk} {d : Downloader} (found : s.calls[i]? = some call)
      (stage : call.stage = .offering c') (use : s.file.inUse = some k)
      (there : s.file.downloaders[k]? = some d) (accepting : d.queue.isClosed = false) :
      Attends s c i { s.setCall i { call with stage := .leaving (.queued c.signal) } with
        file := { s.file with
          downloaders := s.file.downloaders.set k { d with
            queue := { d.queue with pending := ChunkQueue.insert c d.queue.pending } } }
        accepted := s.accepted ++ [(k, c.signal)] }
  | handedBack {k : Nat} {call : Call} {c' : Chunk} {d : Downloader}
      (found : s.calls[i]? = some call) (stage : call.stage = .offering c')
      (use : s.file.inUse = some k) (there : s.file.downloaders[k]? = some d)
      (closed : d.queue.isClosed = true) :
      Attends s c i (s.setCall i { call with stage := .choosing c })
  | leaves {call : Call} (found : s.calls[i]? = some call)
      (stage : call.stage = .leaving (.queued c.signal)) :
      Attends s c i { s.setCall i { call with stage := .joining (.queued c.signal) } with
        file := s.file.stopAll call.stale }
  | returns {call : Call} (found : s.calls[i]? = some call)
      (stage : call.stage = .joining (.queued c.signal)) (ended : s.isHeldUp call = false) :
      Attends s c i (s.leave i call (.queued c.signal))

/-- How the read of a chunk stands that is neither refused nor complete at once. -/
inductive Stands (s : SharedFile) (c : Chunk) : Prop where
  | inHand {call : Call} {c' : Chunk} (calls : s.callsOf c.signal = [call])
      (hand : call.stage.unqueued? = some c') (clamped : c'.clampTo s.file.identity.size = c)
      (offered : call.stage = .offering c' → s.file.inUse ≠ none)
      (takers : s.takersOf c.signal = []) (answers : s.answersOf c.signal = [])
  | queued {call : Call} {k : Nat} (calls : s.callsOf c.signal = [call])
      (errand : call.stage.errand? = some (.queued c.signal))
      (takers : s.takersOf c.signal = [k]) (answers : s.answersOf c.signal = [])
  | returned {k : Nat} (calls : s.callsOf c.signal = []) (takers : s.takersOf c.signal = [k])
      (answers : s.answersOf c.signal = [.ok ()])

end SharedFile

end RangeFetch
