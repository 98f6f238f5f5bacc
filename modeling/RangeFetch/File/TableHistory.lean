import RangeFetch.File.Table

namespace RangeFetch

inductive StreamingFile.Operation where
  | enqueue (signal start limit : Nat)
  | release
  | step (downloader : Nat) (e : Downloader.Event)

def StreamingFile.apply (f : StreamingFile) : Operation → StreamingFile
  | .enqueue signal start limit => (f.enqueue signal start limit).2.1
  | .release => f.release
  | .step downloader e => (f.step downloader e).1

namespace FileTable

def read (t : FileTable) (handle signal offset size : Nat) :
    Except FileError Unit × FileTable × List Firing :=
  match t.get handle with
  | .error e => (.error e, t, [])
  | .ok f =>
    let (answer, f', fired) := f.enqueue signal offset (StreamingFile.readLimit offset size)
    (answer, t.setFile handle f', fired)

inductive Happening where
  | openFile (identity : FileIdentity)
  | get (handle : Nat)
  | read (handle signal offset size : Nat)
  | release (handle : Nat)
  /-- This is done to the file itself, whether or not its handle is open. -/
  | held (handle : Nat) (operation : StreamingFile.Operation)

namespace Happening

def isOpening : Happening → Bool
  | openFile _ => true
  | _ => false

def closes (handle : Nat) : Happening → Bool
  | release other => other == handle
  | _ => false

def operation? (handle : Nat) : Happening → Option StreamingFile.Operation
  | read other signal offset size =>
    if other = handle then some (.enqueue signal offset (StreamingFile.readLimit offset size))
    else none
  | release other => if other = handle then some .release else none
  | held other operation => if other = handle then some operation else none
  | _ => none

end Happening

def step (t : FileTable) : Happening → FileTable
  | .openFile identity => (t.openFile identity).2
  | .get _ => t
  | .read handle signal offset size => (t.read handle signal offset size).2.1
  | .release handle =>
    match t.release handle with
    | .ok t' => t'
    | .error _ => t
  | .held handle operation =>
    match t.file? handle with
    | some f => t.setFile handle (f.apply operation)
    | none => t

def run (t : FileTable) (xs : List Happening) : FileTable := xs.foldl step t

/-- The handles that opening returns, in their order. -/
def issued (t : FileTable) : List Happening → List Nat
  | [] => []
  | .openFile identity :: rest => (t.openFile identity).1 :: (t.openFile identity).2.issued rest
  | x :: rest => (t.step x).issued rest

def operationsOn (handle : Nat) (xs : List Happening) : List StreamingFile.Operation :=
  xs.filterMap (Happening.operation? handle)

end FileTable

end RangeFetch
