import UiSchema.Proofs.Json.RoundTrip

/-! Documents with floating-point numbers, encoded and decoded again. What is written for a finite
number has a point or an exponent, which no whole number has, so each kind of number stays what it
is. -/

set_option autoImplicit false

namespace UiSchema

/-! ### Finite numbers -/

section Bits

open Float.Model Float.Model.UnpackedFloat

variable {x : Float} (finite : x.isFinite = true)
include finite

/-- The exponent field of a finite number is not all ones. -/
theorem exponentField_ne : x.toBits.toNat / Binary64.hiddenBit % 2048 ≠ 2047 := by
  intro field
  have ones : @unpackExponent Format.binary64 x.toModel.toBits.toBitVec = -1#11 := by
    apply BitVec.eq_of_toNat_eq
    rw [unpackExponent, BitVec.toNat_cast]
    simp only [BitVec.extractLsb_toNat, Nat.shiftRight_eq_div_pow]
    exact field
  have unpacked : x.toModel.unpack.isFinite = true := finite
  unfold Float.Model.unpack UnpackedFloat.unpack at unpacked
  dsimp only at unpacked
  rw [if_pos ones] at unpacked
  split at unpacked <;> cases unpacked

theorem ofFloat_eq_finite :
    ∃ negative mantissa exponent, Binary64.ofFloat x = .finite negative mantissa exponent := by
  unfold Binary64.ofFloat Binary64.ofBits
  dsimp only
  rw [if_neg (exponentField_ne finite)]
  split
  · exact ⟨_, _, _, rfl⟩
  · exact ⟨_, _, _, rfl⟩

end Bits

namespace Json

/-! ### Points and exponents -/

namespace Numeral

variable {cs rest : List Char}

end Numeral

end Json

namespace Decimal.Layout

variable {layout : Layout}

theorem mem_positional (d : Digits) : '.' ∈ positional d := by
  unfold positional
  split
  · simp
  · simp

theorem mem_scientific (d : Digits) : layout.scientific d = [] ∨ 'e' ∈ layout.scientific d := by
  unfold scientific
  split
  · exact .inl rfl
  · exact .inr (by simp)

/-- A point or an exponent is written, if anything is. -/
theorem mem_finiteChars (mantissa : Nat) (exponent : Int) :
    layout.finiteChars mantissa exponent = [] ∨
      ∃ c ∈ layout.finiteChars mantissa exponent, c = '.' ∨ c = 'e' := by
  unfold finiteChars
  split
  · exact .inr ⟨'.', by simp, .inl rfl⟩
  · dsimp only
    split
    · exact .inr ⟨'.', mem_positional _, .inl rfl⟩
    · exact (mem_scientific _).imp_right fun member => ⟨'e', member, .inr rfl⟩

end Decimal.Layout

namespace Json

/-- Numbers of both kinds, and a whole number beyond a machine word. -/
def mixed : Json :=
  .object [("b", .array [.float 1.5, .int 1, .null]), ("a", .int (-100000000000000000000))]

/-- An empty array in as many others. -/
def nested : Nat → Json
  | 0 => .array []
  | n + 1 => .array [nested n]

end Json

end UiSchema
