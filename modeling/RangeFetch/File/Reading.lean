import RangeFetch.Download.Drive
import RangeFetch.File.Streaming

namespace RangeFetch

variable {ε : Type}

/-- Moves a downloader until the signal has fired or the downloader waits, over at most `count`
signals. -/
def Downloader.serve (source : Supplier ε) (signal : Nat) :
    Nat → Downloader → ε → Option Completion × Downloader × ε
  | 0, d, w => (none, d, w)
  | count + 1, d, w =>
    let driven := d.drive source none w
    match Firing.result? signal driven.fired with
    | some result => (some result, driven.downloader, driven.world)
    | none =>
      if driven.fired.isEmpty then (none, driven.downloader, driven.world)
      else driven.downloader.serve source signal count driven.world

namespace StreamingFile

def serve (f : StreamingFile) (source : Supplier ε) (signal : Nat) (w : ε) :
    Option Completion × StreamingFile × ε :=
  match f.inUse, f.current? with
  | some k, some d =>
    let (result, d', w') := d.serve source signal d.outstanding.length w
    (result, { f with downloaders := f.downloaders.set k d' }, w')
  | _, _ => (none, f, w)

/-- Reads up to `size` bytes. There is no answer where the downloader waits for something that is
not there. -/
def read (f : StreamingFile) (source : Supplier ε) (signal offset size : Nat) (w : ε) :
    Option (Except FileError Bytes) × StreamingFile × ε :=
  match f.enqueue signal offset (readLimit offset size) with
  | (.error e, f', _) => (some (.error e), f', w)
  | (.ok _, f', fired) =>
    match Firing.result? signal fired with
    | some result => (some result.answer, f', w)
    | none =>
      let (result, f'', w') := f'.serve source signal w
      (result.map Completion.answer, f'', w')

def expire (f : StreamingFile) : StreamingFile :=
  f.inUse.elim f fun k => (f.step k .take).1

/-- One of several reads, or the end of a wait between them. -/
inductive Reading where
  | read (signal offset size : Nat)
  | expiry

def readAll (source : Supplier ε) :
    List Reading → StreamingFile → ε → List (Option (Except FileError Bytes))
  | [], _, _ => []
  | .read signal offset size :: rest, f, w =>
    let (answer, f', w') := f.read source signal offset size w
    answer :: readAll source rest f' w'
  | .expiry :: rest, f, w => readAll source rest f.expire w

end StreamingFile

end RangeFetch
