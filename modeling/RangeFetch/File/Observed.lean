import RangeFetch.Download.Observed
import RangeFetch.File.Sharing
import RangeFetch.Sums

namespace RangeFetch

namespace Firing

def isServed (x : Firing) : Bool :=
  match x.result with
  | .served _ => true
  | .failed _ => false

def length (x : Firing) : Nat :=
  match x.result with
  | .served data => data.data.length
  | .failed _ => 0

def delivered (fired : List Firing) : Nat := sumOf length fired

end Firing

def Chunk.held (chunks : List Chunk) : Nat := sumOf (·.buffer.length) chunks

namespace Downloader

def failed? (d : Downloader) : Event → Option Chunk
  | .failNext =>
    match d.phase with
    | .failing _ _ (c :: _) => some c
    | _ => none
  | _ => none

/-- The chunk that a move takes from the queue while there is no connection. -/
def pickedUp? (d : Downloader) (e : Event) : Option Chunk :=
  match d.phase with
  | .idle => d.taken? e
  | _ => none

end Downloader

def Errand.signal? : Errand → Option Nat
  | queued signal => some signal
  | refused c _ => some c.signal
  | release => none

def CallStage.signal? : CallStage → Option Nat
  | entering c => some c.signal
  | choosing c => some c.signal
  | offering c => some c.signal
  | leaving errand => errand.signal?
  | joining errand => errand.signal?

def StreamingFile.total (f : StreamingFile) (g : Downloader → Nat) : Nat := sumOf g f.downloaders

namespace SharedFile

variable {α : Type}

def seen (s : SharedFile) (see : Downloader → Downloader.Event → List α) : Happening → List α
  | .move k e => s.file.downloaders[k]?.toList.flatMap (see · e)
  | _ => []

def collect (see : Downloader → Downloader.Event → List α) : SharedFile → List Happening → List α
  | _, [] => []
  | s, x :: rest => s.seen see x ++ (s.step x).collect see rest

def pickedUp (s : SharedFile) (xs : List Happening) : List Chunk :=
  s.collect (fun d e => (d.pickedUp? e).toList) xs

/-- The chunks that downloaders fail, with the bytes that they hold then. -/
def failed (s : SharedFile) (xs : List Happening) : List Chunk :=
  s.collect (fun d e => (d.failed? e).toList) xs

def signalOf? (s : SharedFile) : Happening → Option Nat
  | .ask _ _ _ => some s.asked.length
  | .advance i => s.calls[i]?.bind (·.stage.signal?)
  | .launchFails i _ => s.calls[i]?.bind (·.stage.signal?)
  | _ => none

/-- How many calls have returned without an error and have a signal that has fired in this way. -/
def returned (s : SharedFile) (p : Firing → Bool) : Nat :=
  s.answers.countP fun answer =>
    answer.2.isOk && s.fired.any fun x => x.signal == answer.1 && p x

def isAtRest (s : SharedFile) : Bool :=
  s.calls.isEmpty && s.file.downloaders.all fun d =>
    match d.phase with
    | .failing _ _ (_ :: _) => false
    | _ => true

end SharedFile

end RangeFetch
