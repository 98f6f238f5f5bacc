import RangeFetch.Bytes

/-!
The 128-bit XXH3 digest with seed zero and the default secret. Inputs of up to 240 bytes are mixed
in one pass that depends on their length; longer ones run through eight lanes, in stripes of 64
bytes that form blocks of 1024.
-/

namespace RangeFetch.Xxh3

def prime32A : UInt64 := 0x9E3779B1
def prime32B : UInt64 := 0x85EBCA77
def prime32C : UInt64 := 0xC2B2AE3D
def primeA : UInt64 := 0x9E3779B185EBCA87
def primeB : UInt64 := 0xC2B2AE3D27D4EB4F
def primeC : UInt64 := 0x165667B19E3779F9
def primeD : UInt64 := 0x85EBCA77C2B2AE63
def primeE : UInt64 := 0x27D4EB2F165667C5

/-- The default secret, read as 24 words with the first byte lowest. -/
def secretWords : List UInt64 :=
  [0xbe4ba423396cfeb8, 0x1cad21f72c81017c, 0xdb979083e96dd4de, 0x1f67b3b7a4a44072,
   0x78e5c0cc4ee679cb, 0x2172ffcc7dd05a82, 0x8e2443f7744608b8, 0x4c263a81e69035e0,
   0xcb00c391bb52283c, 0xa32e531b8b65d088, 0x4ef90da297486471, 0xd8acdea946ef1938,
   0x3f349ce33f76faa8, 0x1d4f0bc7c7bbdcf9, 0x3159b4cd4be0518a, 0x647378d9c97e9fc8,
   0xc3ebd33483acc5ea, 0xeb6313faffa081c5, 0x49daf0b751dd0d17, 0x9e68d429265516d3,
   0xfca1477d58be162b, 0xce31d07ad1b8f88f, 0x280416958f3acb45, 0x7e404bbbcafbd7af]

def wordBytes (w : UInt64) : List UInt8 :=
  (List.range 8).map fun i => (w >>> (8 * i.toUInt64)).toUInt8

def secret : Array UInt8 := (secretWords.flatMap wordBytes).toArray

def byteAt (data : Array UInt8) (i : Nat) : UInt64 := (data.getD i 0).toUInt64

def word32 (data : Array UInt8) (i : Nat) : UInt64 :=
  byteAt data i ||| byteAt data (i + 1) <<< 8 ||| byteAt data (i + 2) <<< 16 |||
    byteAt data (i + 3) <<< 24

def word64 (data : Array UInt8) (i : Nat) : UInt64 :=
  word32 data i ||| word32 data (i + 4) <<< 32

def low32 (w : UInt64) : UInt64 := w &&& 0xFFFFFFFF

def swap32 (w : UInt64) : UInt64 :=
  (w &&& 0xFF) <<< 24 ||| (w >>> 8 &&& 0xFF) <<< 16 ||| (w >>> 16 &&& 0xFF) <<< 8 |||
    (w >>> 24 &&& 0xFF)

def swap64 (w : UInt64) : UInt64 := swap32 (low32 w) <<< 32 ||| swap32 (w >>> 32)

def rotate32 (w : UInt64) (amount : UInt64) : UInt64 :=
  low32 (w <<< amount) ||| (low32 w >>> (32 - amount))

/-- Two words, the lower one first. -/
structure Wide where
  low : UInt64
  high : UInt64
  deriving DecidableEq

def wideMul (a b : UInt64) : Wide :=
  let p := a.toNat * b.toNat
  ⟨UInt64.ofNat p, UInt64.ofNat (p >>> 64)⟩

/-- The two halves of the product, combined. -/
def foldMul (a b : UInt64) : UInt64 :=
  let p := wideMul a b
  p.low ^^^ p.high

def shiftXor (w : UInt64) (amount : UInt64) : UInt64 := w ^^^ (w >>> amount)

def avalanche (h : UInt64) : UInt64 := shiftXor (shiftXor h 37 * 0x165667919E3779F9) 32

def shortAvalanche (h : UInt64) : UInt64 :=
  shiftXor (shiftXor (shiftXor h 33 * primeB) 29 * primeC) 32

def secretPair (i : Nat) : UInt64 := word64 secret i ^^^ word64 secret (i + 8)

def digestEmpty : Wide := ⟨shortAvalanche (secretPair 64), shortAvalanche (secretPair 80)⟩

def digest1to3 (data : Array UInt8) : Wide :=
  let n := data.size
  let combined := byteAt data 0 <<< 16 ||| byteAt data (n / 2) <<< 24 ||| byteAt data (n - 1) |||
    n.toUInt64 <<< 8
  let rotated := rotate32 (swap32 combined) 13
  ⟨shortAvalanche (combined ^^^ (word32 secret 0 ^^^ word32 secret 4)),
    shortAvalanche (rotated ^^^ (word32 secret 8 ^^^ word32 secret 12))⟩

def digest4to8 (data : Array UInt8) : Wide :=
  let n := data.size
  let keyed := (word32 data 0 + word32 data (n - 4) <<< 32) ^^^ secretPair 16
  let p := wideMul keyed (primeA + n.toUInt64 <<< 2)
  let high := p.high + p.low <<< 1
  let low := p.low ^^^ high >>> 3
  ⟨shiftXor (shiftXor low 35 * 0x9FB21C651E98DF25) 28, avalanche high⟩

def digest9to16 (data : Array UInt8) : Wide :=
  let n := data.size
  let first := word64 data 0
  let last := word64 data (n - 8)
  let p := wideMul (first ^^^ last ^^^ secretPair 32) primeA
  let tagged := p.low + (n - 1).toUInt64 <<< 54
  let keyed := last ^^^ secretPair 48
  let high := p.high + keyed + low32 keyed * (prime32B - 1)
  let q := wideMul (tagged ^^^ swap64 high) primeB
  ⟨avalanche q.low, avalanche (q.high + high * primeB)⟩

def mix16 (data : Array UInt8) (i s : Nat) : UInt64 :=
  foldMul (word64 data i ^^^ word64 secret s) (word64 data (i + 8) ^^^ word64 secret (s + 8))

/-- Takes in the 16 bytes at `i` and the 16 bytes at `j`. -/
def mix32 (acc : Wide) (data : Array UInt8) (i j s : Nat) : Wide :=
  ⟨(acc.low + mix16 data i s) ^^^ (word64 data j + word64 data (j + 8)),
    (acc.high + mix16 data j (s + 16)) ^^^ (word64 data i + word64 data (i + 8))⟩

def finishMiddle (acc : Wide) (n : Nat) : Wide :=
  ⟨avalanche (acc.low + acc.high),
    0 - avalanche (acc.low * primeA + acc.high * primeD + n.toUInt64 * primeB)⟩

/-- Pairs of 16 bytes from both ends, the innermost pair first. -/
def digest17to128 (data : Array UInt8) : Wide :=
  let n := data.size
  let rounds := (List.range ((n - 1) / 32 + 1)).reverse
  finishMiddle
    (rounds.foldl (fun acc i => mix32 acc data (16 * i) (n - 16 * (i + 1)) (32 * i))
      ⟨n.toUInt64 * primeA, 0⟩) n

def digest129to240 (data : Array UInt8) : Wide :=
  let n := data.size
  let first := (List.range 4).foldl (fun acc i => mix32 acc data (32 * i) (32 * i + 16) (32 * i))
    ⟨n.toUInt64 * primeA, 0⟩
  let rest := (List.range (n / 32 - 4)).foldl
    (fun acc i => mix32 acc data (32 * (i + 4)) (32 * (i + 4) + 16) (32 * i + 3))
    ⟨avalanche first.low, avalanche first.high⟩
  finishMiddle (mix32 rest data (n - 16) (n - 32) 103) n

abbrev Lanes := Vector UInt64 8

def initialLanes : Lanes :=
  #v[prime32C, primeA, primeB, primeC, primeD, prime32B, primeE, prime32A]

/-- Lane `i` takes a product of its own word, and the word of its neighbour as it is. -/
def accumulate (lanes : Lanes) (data : Array UInt8) (start s : Nat) : Lanes :=
  let keyed := Vector.ofFn fun i : Fin 8 =>
    word64 data (start + 8 * i) ^^^ word64 secret (s + 8 * i)
  Vector.ofFn fun i : Fin 8 =>
    let neighbour := if i.val % 2 = 0 then i.val + 1 else i.val - 1
    lanes[i] + word64 data (start + 8 * neighbour) + low32 keyed[i] * (keyed[i] >>> 32)

def scramble (lanes : Lanes) : Lanes :=
  Vector.ofFn fun i : Fin 8 =>
    (shiftXor lanes[i] 47 ^^^ word64 secret (128 + 8 * i)) * prime32A

def stripes (lanes : Lanes) (data : Array UInt8) (start count : Nat) : Lanes :=
  (List.range count).foldl (fun acc k => accumulate acc data (start + 64 * k) (8 * k)) lanes

def mergeLanes (lanes : Lanes) (s : Nat) (start : UInt64) : UInt64 :=
  avalanche (start +
    foldMul (lanes[0] ^^^ word64 secret s) (lanes[1] ^^^ word64 secret (s + 8)) +
    foldMul (lanes[2] ^^^ word64 secret (s + 16)) (lanes[3] ^^^ word64 secret (s + 24)) +
    foldMul (lanes[4] ^^^ word64 secret (s + 32)) (lanes[5] ^^^ word64 secret (s + 40)) +
    foldMul (lanes[6] ^^^ word64 secret (s + 48)) (lanes[7] ^^^ word64 secret (s + 56)))

def digestLong (data : Array UInt8) : Wide :=
  let n := data.size
  let blocks := (n - 1) / 1024
  let whole := (List.range blocks).foldl
    (fun acc j => scramble (stripes acc data (1024 * j) 16)) initialLanes
  let partBlock := stripes whole data (1024 * blocks) ((n - 1 - 1024 * blocks) / 64)
  let lanes := accumulate partBlock data (n - 64) 121
  ⟨mergeLanes lanes 11 (n.toUInt64 * primeA),
    mergeLanes lanes 117 (~~~(n.toUInt64 * primeB))⟩

def digest (content : Bytes) : Wide :=
  let data := content.toArray
  let n := data.size
  if n = 0 then digestEmpty
  else if n ≤ 3 then digest1to3 data
  else if n ≤ 8 then digest4to8 data
  else if n ≤ 16 then digest9to16 data
  else if n ≤ 128 then digest17to128 data
  else if n ≤ 240 then digest129to240 data
  else digestLong data

def hexWord (w : UInt64) : List Char :=
  (List.range 16).map fun i => Nat.digitChar ((w.toNat >>> (60 - 4 * i)) % 16)

def Wide.toHex (d : Wide) : String := String.ofList (hexWord d.high ++ hexWord d.low)

end RangeFetch.Xxh3
