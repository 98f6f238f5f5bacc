/-!
The numbers and names that hold when a caller chooses nothing else. Waits are in milliseconds,
sizes in bytes.
-/

namespace RangeFetch.Limits

/-- How long a downloader without a connection waits for a read. -/
def idleTimeout : Nat := 30000

/-- How long an open stream is kept when no read follows the last one. -/
def stallTimeout : Nat := 5000

/-- How long a stream may stay silent while a read waits for it. -/
def readTimeout : Nat := 60000

/-- Consecutive streams that may open at a wrong offset. -/
def rangeRestarts : Nat := 3

def connectTimeout : Nat := 10000

def deliverySize : Nat := 16384

/-- The most that is set aside for a read before its bytes arrive. -/
def chunkPrereserve : Nat := 262144

def userAgent : String := "peerfs/0.1.0"

def memoryScheme : String := "memory://"

def offsetBound : Nat := 18446744073709551616

def maxOffset : Nat := offsetBound - 1

end RangeFetch.Limits
