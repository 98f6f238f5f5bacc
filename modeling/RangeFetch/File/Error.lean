import RangeFetch.Chunk.Completion
import RangeFetch.Text.Record

namespace RangeFetch

inductive FileError where
  | badHandle (handle : Nat)
  | released
  | invalidRange (start limit : Nat)
  | chunkFailed (error : ChunkError)
  | notStarted (text : String)
  deriving DecidableEq

namespace FileError

/-- A range that is backwards is the caller's fault, all else is a failed download. -/
def ofChunk : ChunkError → FileError
  | .invalidRange start limit => invalidRange start limit
  | e => chunkFailed e

def message : FileError → String
  | badHandle handle => s!"File handle not open: {handle}"
  | released => "File already released"
  | invalidRange start limit => s!"Invalid read range: {Text.span start limit}"
  | chunkFailed e => s!"Read failed: {e.message}"
  | notStarted text => s!"Failed to start downloader: {text}"

def cause? : FileError → Option ChunkError
  | chunkFailed e => some e
  | _ => none

def noEntry : Nat := 2
def interrupted : Nat := 4
def inputOutput : Nat := 5
def badDescriptor : Nat := 9
def tryAgain : Nat := 11
def invalidArgument : Nat := 22
def timedOut : Nat := 110

def errno : FileError → Nat
  | badHandle _ => badDescriptor
  | released => badDescriptor
  | invalidRange _ _ => invalidArgument
  | chunkFailed (.invalidRange _ _) => invalidArgument
  | chunkFailed (.source (.timeout _)) => timedOut
  | chunkFailed (.source (.notFound _)) => noEntry
  | chunkFailed .cancelled => interrupted
  | chunkFailed _ => inputOutput
  | notStarted _ => tryAgain

end FileError

def Completion.answer : Completion → Except FileError Bytes
  | .served data => .ok data.data
  | .failed e => .error (.ofChunk e)

end RangeFetch
