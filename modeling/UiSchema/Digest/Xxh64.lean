import UiSchema.Digest.Bytes

/-! The XXH64 digest with seed zero. -/

set_option autoImplicit false

namespace UiSchema.Digest.Xxh64

def prime1 : UInt64 := 0x9E3779B185EBCA87
def prime2 : UInt64 := 0xC2B2AE3D27D4EB4F
def prime3 : UInt64 := 0x165667B19E3779F9
def prime4 : UInt64 := 0x85EBCA77C2B2AE63
def prime5 : UInt64 := 0x27D4EB2F165667C5

def word (data : Array UInt8) (position : Nat) : UInt64 :=
  UInt64.ofNat (littleEndian data position 8)

def round (lane input : UInt64) : UInt64 := rotateLeft64 (lane + input * prime2) 31 * prime1

def merge (total lane : UInt64) : UInt64 := (total ^^^ round 0 lane) * prime1 + prime4

structure Lanes where
  a : UInt64
  b : UInt64
  c : UInt64
  d : UInt64

def Lanes.start : Lanes := ⟨prime1 + prime2, prime2, 0, 0 - prime1⟩

/-- Thirty-two bytes, eight for each lane. -/
def Lanes.stripe (data : Array UInt8) (lanes : Lanes) (position : Nat) : Lanes :=
  { a := round lanes.a (word data position)
    b := round lanes.b (word data (position + 8))
    c := round lanes.c (word data (position + 16))
    d := round lanes.d (word data (position + 24)) }

def Lanes.total (l : Lanes) : UInt64 :=
  let sum := rotateLeft64 l.a 1 + rotateLeft64 l.b 7 + rotateLeft64 l.c 12 + rotateLeft64 l.d 18
  merge (merge (merge (merge sum l.a) l.b) l.c) l.d

/-- The first positions of `count` blocks of `width` bytes from `start` on. -/
def positions (start width count : Nat) : List Nat := (List.range count).map (start + width * ·)

def avalanche (h : UInt64) : UInt64 :=
  let h := (h ^^^ (h >>> 33)) * prime2
  let h := (h ^^^ (h >>> 29)) * prime3
  h ^^^ (h >>> 32)

/-- Whole stripes, then blocks of eight bytes, one of four, and the last bytes one by one. -/
def hash (data : Array UInt8) : UInt64 :=
  let size := data.size
  let stripes := size / 32
  let start :=
    if stripes = 0 then prime5
    else ((positions 0 32 stripes).foldl (Lanes.stripe data) Lanes.start).total
  let afterStripes := stripes * 32
  let eights := (size - afterStripes) / 8
  let h := (positions afterStripes 8 eights).foldl
    (fun h at8 => rotateLeft64 (h ^^^ round 0 (word data at8)) 27 * prime1 + prime4)
    (start + UInt64.ofNat size)
  let afterEights := afterStripes + eights * 8
  let fours := (size - afterEights) / 4
  let h := (positions afterEights 4 fours).foldl
    (fun h at4 =>
      rotateLeft64 (h ^^^ (UInt64.ofNat (littleEndian data at4 4) * prime1)) 23 * prime2 + prime3) h
  let afterFours := afterEights + fours * 4
  let h := (positions afterFours 1 (size - afterFours)).foldl
    (fun h at1 =>
      rotateLeft64 (h ^^^ (UInt64.ofNat (byteAt data at1) * prime5)) 11 * prime1) h
  avalanche h

end UiSchema.Digest.Xxh64
