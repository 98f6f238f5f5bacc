namespace RangeFetch

structure DownloadStats where
  downloadersStarted : Nat
  requests : Nat
  /-- Streams given up because a chunk wanted another offset. -/
  seeks : Nat
  chunksCompleted : Nat
  chunksFailed : Nat
  bytesDelivered : Nat
  /-- Streams given up because no chunk followed in time. -/
  stalls : Nat
  idleTimeouts : Nat
  deriving DecidableEq

namespace DownloadStats

def zero : DownloadStats := ⟨0, 0, 0, 0, 0, 0, 0, 0⟩

def add (a b : DownloadStats) : DownloadStats where
  downloadersStarted := a.downloadersStarted + b.downloadersStarted
  requests := a.requests + b.requests
  seeks := a.seeks + b.seeks
  chunksCompleted := a.chunksCompleted + b.chunksCompleted
  chunksFailed := a.chunksFailed + b.chunksFailed
  bytesDelivered := a.bytesDelivered + b.bytesDelivered
  stalls := a.stalls + b.stalls
  idleTimeouts := a.idleTimeouts + b.idleTimeouts

instance : Add DownloadStats := ⟨add⟩

end DownloadStats

end RangeFetch
