import UiSchema.Digest.Bytes

/-! The SHA-256 digest. -/

set_option autoImplicit false

namespace UiSchema.Digest.Sha256

/-- Fractional parts of the cube roots of the first sixty-four primes. -/
def constants : Array UInt32 :=
  #[0x428a2f98, 0x71374491, 0xb5c0fbcf, 0xe9b5dba5, 0x3956c25b, 0x59f111f1,
    0x923f82a4, 0xab1c5ed5, 0xd807aa98, 0x12835b01, 0x243185be, 0x550c7dc3,
    0x72be5d74, 0x80deb1fe, 0x9bdc06a7, 0xc19bf174, 0xe49b69c1, 0xefbe4786,
    0x0fc19dc6, 0x240ca1cc, 0x2de92c6f, 0x4a7484aa, 0x5cb0a9dc, 0x76f988da,
    0x983e5152, 0xa831c66d, 0xb00327c8, 0xbf597fc7, 0xc6e00bf3, 0xd5a79147,
    0x06ca6351, 0x14292967, 0x27b70a85, 0x2e1b2138, 0x4d2c6dfc, 0x53380d13,
    0x650a7354, 0x766a0abb, 0x81c2c92e, 0x92722c85, 0xa2bfe8a1, 0xa81a664b,
    0xc24b8b70, 0xc76c51a3, 0xd192e819, 0xd6990624, 0xf40e3585, 0x106aa070,
    0x19a4c116, 0x1e376c08, 0x2748774c, 0x34b0bcb5, 0x391c0cb3, 0x4ed8aa4a,
    0x5b9cca4f, 0x682e6ff3, 0x748f82ee, 0x78a5636f, 0x84c87814, 0x8cc70208,
    0x90befffa, 0xa4506ceb, 0xbef9a3f7, 0xc67178f2]

structure State where
  a : UInt32
  b : UInt32
  c : UInt32
  d : UInt32
  e : UInt32
  f : UInt32
  g : UInt32
  h : UInt32

/-- Fractional parts of the square roots of the first eight primes. -/
def State.start : State :=
  { a := 0x6a09e667, b := 0xbb67ae85, c := 0x3c6ef372, d := 0xa54ff53a
    e := 0x510e527f, f := 0x9b05688c, g := 0x1f83d9ab, h := 0x5be0cd19 }

def State.add (s t : State) : State :=
  { a := s.a + t.a, b := s.b + t.b, c := s.c + t.c, d := s.d + t.d
    e := s.e + t.e, f := s.f + t.f, g := s.g + t.g, h := s.h + t.h }

def State.words (s : State) : List UInt32 := [s.a, s.b, s.c, s.d, s.e, s.f, s.g, s.h]

/-- A one bit, zeros, and the length in bits, up to a multiple of 64 bytes. -/
def pad (data : Array UInt8) : Array UInt8 :=
  let size := data.size
  let zeros := (119 - size % 64) % 64
  let length := (List.range 8).map fun i => UInt8.ofNat (size * 8 / Nat.pow 256 (7 - i) % 256)
  data ++ #[0x80] ++ Array.replicate zeros 0 ++ length.toArray

/-- The sixteen words of a block, extended to sixty-four. -/
def schedule (data : Array UInt8) (position : Nat) : Array UInt32 :=
  let first := ((List.range 16).map fun i => bigEndian32 data (position + 4 * i)).toArray
  (List.range 48).foldl
    (fun w i =>
      let t := i + 16
      let x := w[t - 15]?.getD 0
      let y := w[t - 2]?.getD 0
      let s0 := rotateRight32 x 7 ^^^ rotateRight32 x 18 ^^^ (x >>> 3)
      let s1 := rotateRight32 y 17 ^^^ rotateRight32 y 19 ^^^ (y >>> 10)
      w.push (w[t - 16]?.getD 0 + s0 + w[t - 7]?.getD 0 + s1))
    first

def step (w : Array UInt32) (s : State) (i : Nat) : State :=
  let s1 := rotateRight32 s.e 6 ^^^ rotateRight32 s.e 11 ^^^ rotateRight32 s.e 25
  let choice := (s.e &&& s.f) ^^^ ((~~~s.e) &&& s.g)
  let t1 := s.h + s1 + choice + constants[i]?.getD 0 + w[i]?.getD 0
  let s0 := rotateRight32 s.a 2 ^^^ rotateRight32 s.a 13 ^^^ rotateRight32 s.a 22
  let majority := (s.a &&& s.b) ^^^ (s.a &&& s.c) ^^^ (s.b &&& s.c)
  { a := t1 + (s0 + majority), b := s.a, c := s.b, d := s.c
    e := s.d + t1, f := s.e, g := s.f, h := s.g }

def block (data : Array UInt8) (s : State) (index : Nat) : State :=
  s.add ((List.range 64).foldl (step (schedule data (64 * index))) s)

def hash (data : Array UInt8) : List UInt32 :=
  let padded := pad data
  ((List.range (padded.size / 64)).foldl (block padded) State.start).words

end UiSchema.Digest.Sha256
