/-! Bytes and the machine words that digests are computed in. -/

set_option autoImplicit false

namespace UiSchema.Digest

def byteAt (data : Array UInt8) (position : Nat) : Nat := (data[position]?.getD 0).toNat

/-- The word of `width` bytes at a position, the lowest byte first. -/
def littleEndian (data : Array UInt8) (position width : Nat) : Nat :=
  (List.range width).foldr (fun i high => high * 256 + byteAt data (position + i)) 0

/-- The word of four bytes at a position, the highest byte first. -/
def bigEndian32 (data : Array UInt8) (position : Nat) : UInt32 :=
  UInt32.ofNat ((List.range 4).foldl (fun high i => high * 256 + byteAt data (position + i)) 0)

def rotateLeft64 (x : UInt64) (n : UInt64) : UInt64 := (x <<< n) ||| (x >>> (64 - n))

def rotateRight32 (x : UInt32) (n : UInt32) : UInt32 := (x >>> n) ||| (x <<< (32 - n))

end UiSchema.Digest
