/-! Floating-point numbers taken apart into exact integers. -/

set_option autoImplicit false

namespace UiSchema

/-- A finite number is `±mantissa · 2 ^ exponent`; both zeros have the mantissa zero. -/
inductive Binary64 where
  | finite (negative : Bool) (mantissa : Nat) (exponent : Int)
  | infinite (negative : Bool)
  | nan
  deriving DecidableEq, Repr

namespace Binary64

def leastExponent : Int := -1074

/-- The bit in front of the 52 bits of fraction, one unless the exponent is the least. -/
def hiddenBit : Nat := Nat.pow 2 52

/-- Fields of a 64-bit word: 52 bits of fraction, 11 of exponent, one of sign. -/
def ofBits (bits : Nat) : Binary64 :=
  let fraction := bits % hiddenBit
  let field := bits / hiddenBit % 2048
  let negative := decide (2048 * hiddenBit ≤ bits)
  if field = 2047 then if fraction = 0 then .infinite negative else .nan
  else if field = 0 then .finite negative fraction leastExponent
  else .finite negative (hiddenBit + fraction) ((field : Int) - 1075)

def ofFloat (x : Float) : Binary64 := ofBits x.toBits.toNat

def signed (negative : Bool) (n : Nat) : Int := if negative then -(n : Int) else n

def isFinite : Binary64 → Bool
  | .finite .. => true
  | _ => false

def isZero : Binary64 → Bool
  | .finite _ mantissa _ => mantissa == 0
  | _ => false

/-- The value when it is a whole number. -/
def toInt? : Binary64 → Option Int
  | .finite negative mantissa (.ofNat up) => some (signed negative (mantissa * Nat.pow 2 up))
  | .finite negative mantissa (.negSucc down) =>
    let unit := Nat.pow 2 (down + 1)
    if mantissa % unit = 0 then some (signed negative (mantissa / unit)) else none
  | _ => none

/-- The least whole number that is not below the value. -/
def ceil? : Binary64 → Option Int
  | .finite negative mantissa (.ofNat up) => some (signed negative (mantissa * Nat.pow 2 up))
  | .finite negative mantissa (.negSucc down) =>
    some (-((-(signed negative mantissa)) / (Nat.pow 2 (down + 1) : Nat)))
  | _ => none

end Binary64

end UiSchema
