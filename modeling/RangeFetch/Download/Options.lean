import RangeFetch.Limits

namespace RangeFetch

structure DownloadOptions where
  idleTimeout : Nat
  stallTimeout : Nat
  readTimeout : Nat
  maxRangeRestarts : Nat
  deriving DecidableEq

namespace DownloadOptions

def standard : DownloadOptions :=
  ⟨Limits.idleTimeout, Limits.stallTimeout, Limits.readTimeout, Limits.rangeRestarts⟩

def interactive : DownloadOptions :=
  { standard with idleTimeout := 120000, stallTimeout := 1000 }

def brief : DownloadOptions :=
  { standard with idleTimeout := 500, stallTimeout := 500, readTimeout := 5000 }

inductive Setting where
  | idle (millis : Nat)
  | stall (millis : Nat)
  | read (millis : Nat)
  | restarts (count : Nat)

def set (o : DownloadOptions) : Setting → DownloadOptions
  | .idle millis => { o with idleTimeout := millis }
  | .stall millis => { o with stallTimeout := millis }
  | .read millis => { o with readTimeout := millis }
  | .restarts count => { o with maxRangeRestarts := count }

end DownloadOptions

end RangeFetch
