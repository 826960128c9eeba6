import Mathlib.Data.Nat.Log
import Mathlib.Tactic.NormNum
import UiSchema.Decimal.Binary64

/-! Products of positive floating-point numbers. Rounding takes no number below a power of two that
the format has, so a whole number times a positive one is never rounded to zero. -/

set_option autoImplicit false

namespace UiSchema.Decimal

open Float.Model Float.Model.UnpackedFloat

/-- Positive and at least `2 ^ k`, with all the places that a number of 64 bits has, or infinite. -/
inductive AtLeast (k : Int) : Float.Model.UnpackedFloat → Prop where
  | infinite : AtLeast k (.infinity .positive)
  | finite {m : Nat} {e : Int} (positive : 0 < m) (size : k ≤ m.log2 + e) (places : m.log2 ≤ 52)
      (least : -1074 ≤ e) (full : m.log2 = 52 ∨ e = -1074) :
      AtLeast k (.finite .positive m e positive)

theorem mantissa_shiftRight (em : ExtendedMantissa) (n : Nat) :
    (em >>> n).mantissa = em.mantissa / 2 ^ n := by
  induction n with
  | zero => simp [HShiftRight.hShiftRight, Nat.repeat]
  | succ n ih =>
    have step : (em >>> (n + 1)).mantissa = (em >>> n).mantissa / 2 := rfl
    rw [step, ih, Nat.div_div_eq_div_mul, Nat.pow_succ]

theorem log2_div_two_pow {m n : Nat} (h : n ≤ m.log2) (positive : 0 < m) :
    (m / 2 ^ n).log2 = m.log2 - n ∧ 0 < m / 2 ^ n := by
  constructor
  · simp only [Nat.log2_eq_log_two, Nat.log_div_base_pow]
  · have low : 2 ^ n ≤ m := (Nat.le_log2 (by omega)).1 h
    exact Nat.div_pos low (Nat.two_pow_pos n)

theorem le_roundedMantissa (em : ExtendedMantissa) :
    em.mantissa ≤ em.roundedMantissa ∧ em.roundedMantissa ≤ em.mantissa + 1 := by
  obtain ⟨m, round, sticky⟩ := em
  cases round <;> cases sticky <;>
    simp [ExtendedMantissa.roundedMantissa, ExtendedMantissa.accuracy, Accuracy.roundToNearestEven]
  omega

theorem targetExponent_eq (m : Nat) (e : Int) :
    Format.binary64.targetExponent (totalExponent m e) = max (m.log2 + e - 52) (-1074) := by
  have bits : Format.binary64.mantissaBits = 53 := rfl
  simp only [Format.targetExponent, totalExponent, bits, Format.minExponent]
  norm_num
  omega

/-- The number of places that are cut off. -/
def excess (m : Nat) (e : Int) : Nat := (max (m.log2 + e - 52) (-1074) - e).toNat

theorem shift_eq (m : Nat) (e : Int) (a : Accuracy) :
    (shiftToTargetExponent Format.binary64 m e a).1.mantissa = m / 2 ^ excess m e ∧
      (shiftToTargetExponent Format.binary64 m e a).2 = e + excess m e := by
  rw [shiftToTargetExponent, targetExponent_eq]
  refine ⟨?_, rfl⟩
  rw [shiftToExponent, mantissa_shiftRight]
  unfold ExtendedMantissa.ofMantissaAndAccuracy
  split <;> rfl

/-- Rounding takes no number below a power of two that the format has. -/
theorem atLeast_roundWithAccuracy {k : Int} {m : Nat} {e : Int} (a : Accuracy) (positive : 0 < m)
    (size : k ≤ m.log2 + e) (least : -1074 ≤ k) (wide : 52 ≤ m.log2 ∨ e ≤ -1074) :
    AtLeast k (roundWithAccuracy Format.binary64 .positive m e a) := by
  -- the mantissa is cut, rounded, and cut once more when rounding gave it a place too many
  obtain ⟨cut, place⟩ := shift_eq m e a
  have shifted : excess m e ≤ m.log2 := by
    unfold excess
    omega
  obtain ⟨log, cutPositive⟩ := log2_div_two_pow shifted positive
  have bounds := le_roundedMantissa (shiftToTargetExponent Format.binary64 m e a).1
  rw [roundWithAccuracy]
  generalize shiftToTargetExponent Format.binary64 m e a = first at cut place bounds ⊢
  obtain ⟨em, e₁⟩ := first
  dsimp only at cut place bounds ⊢
  rw [← cut] at log cutPositive
  have roundedPositive : 0 < em.roundedMantissa := by omega
  obtain ⟨again, placeAgain⟩ := shift_eq em.roundedMantissa e₁ .exact
  -- the first shift leaves at most 53 places, and rounding makes them 54 at most
  have upper : em.roundedMantissa.log2 ≤ em.mantissa.log2 + 1 := by
    have high : em.mantissa < 2 ^ (em.mantissa.log2 + 1) := Nat.lt_log2_self
    have : em.roundedMantissa < 2 ^ (em.mantissa.log2 + 1 + 1) := by
      rw [Nat.pow_succ]
      omega
    have := (Nat.log2_lt (by omega)).2 this
    omega
  have lower : em.mantissa.log2 ≤ em.roundedMantissa.log2 :=
    (Nat.le_log2 (by omega)).2 ((Nat.log2_self_le (by omega)).trans bounds.1)
  have fits : excess em.roundedMantissa e₁ ≤ em.roundedMantissa.log2 := by
    unfold excess at *
    omega
  obtain ⟨lastLog, lastPositive⟩ := log2_div_two_pow fits roundedPositive
  rw [← again] at lastLog lastPositive
  rw [dif_neg (by omega)]
  rw [placeAgain]
  unfold excess at *
  exact .finite lastPositive (by omega) (by omega) (by omega) (by omega)

theorem log2_mul_two_pow {m : Nat} (positive : 0 < m) (n : Nat) :
    (m * 2 ^ n).log2 = m.log2 + n := by
  induction n with
  | zero => simp
  | succ n ih =>
    have nonzero : m * 2 ^ n ≠ 0 := Nat.mul_ne_zero (by omega) (by simp)
    rw [Nat.pow_succ, ← Nat.mul_assoc, Nat.log2_eq_log_two, Nat.log_mul_base (by decide) nonzero,
      ← Nat.log2_eq_log_two, ih, Nat.add_assoc]

theorem atLeast_round {k : Int} {m : Nat} {e : Int} (positive : 0 < m) (size : k ≤ m.log2 + e)
    (least : -1074 ≤ k) : AtLeast k (UnpackedFloat.round Format.binary64 .positive m e) := by
  simp only [UnpackedFloat.round, decreaseExponent, targetExponent_eq, Nat.shiftLeft_eq]
  have log (n : Nat) := log2_mul_two_pow positive n
  apply atLeast_roundWithAccuracy _ (Nat.mul_pos positive (Nat.two_pow_pos _)) _ least
  · rw [log]
    omega
  · rw [log]
    omega

theorem log2_add_le_log2_mul {m n : Nat} (left : 0 < m) (right : 0 < n) :
    m.log2 + n.log2 ≤ (m * n).log2 := by
  have := Nat.mul_pos left right
  rw [Nat.le_log2 (by omega), Nat.pow_add]
  exact Nat.mul_le_mul (Nat.log2_self_le (by omega)) (Nat.log2_self_le (by omega))

theorem atLeast_mul_finite {k : Int} {m n : Nat} {e d : Int} (left : 0 < m) (right : 0 < n)
    (size : k ≤ m.log2 + n.log2 + (e + d)) (least : -1074 ≤ k)
    (wide : 52 ≤ m.log2 + n.log2 ∨ e + d ≤ -1074) :
    AtLeast k (UnpackedFloat.mul Format.binary64 (.finite .positive m e left)
      (.finite .positive n d right)) := by
  have places := log2_add_le_log2_mul left right
  exact atLeast_roundWithAccuracy _ (Nat.mul_pos left right) (by omega) least (by omega)

/-- A factor of one or more makes a positive number no smaller. -/
theorem AtLeast.mul {k : Int} {x y : Float.Model.UnpackedFloat} (large : AtLeast 0 x)
    (positive : AtLeast k y) (least : -1074 ≤ k) :
    AtLeast k (UnpackedFloat.mul Format.binary64 x y) := by
  cases large with
  | infinite => cases positive <;> exact .infinite
  | finite left leftSize leftPlaces leftLeast leftFull =>
    cases positive with
    | infinite => exact .infinite
    | finite right rightSize rightPlaces rightLeast rightFull =>
      exact atLeast_mul_finite left right (by omega) least (by omega)

/-- The bits of a positive number without the sign. -/
theorem toNat_packComponents (exponent : BitVec 11) (mantissa : BitVec 52) :
    (packComponents Format.binary64 .positive exponent mantissa).toNat =
      exponent.toNat * 2 ^ 52 + mantissa.toNat := by
  have sign : (Sign.positive.toBitVec ++ exponent).toNat = exponent.toNat := by
    rw [BitVec.toNat_append]
    simp [Sign.toBitVec]
  show ((Sign.positive.toBitVec ++ exponent) ++ mantissa).toNat = _
  rw [BitVec.toNat_append, sign, ← Nat.shiftLeft_add_eq_or_of_lt mantissa.isLt, Nat.shiftLeft_eq]

section Unpack

variable {k : Int} {exponent : BitVec 11} {mantissa : BitVec 52}

/-- The topmost bit is that of the sign. -/
theorem sign_packComponents :
    Sign.ofBitVec (unpackSign (packComponents Format.binary64 .positive exponent mantissa)) =
      .positive := by
  have bit : unpackSign (packComponents Format.binary64 .positive exponent mantissa) = 0#1 := by
    apply BitVec.eq_of_toNat_eq
    have low := exponent.isLt
    have below := mantissa.isLt
    show (BitVec.extractLsb 63 63 _).toNat = 0
    rw [BitVec.extractLsb_toNat, toNat_packComponents, Nat.shiftRight_eq_div_pow]
    show (exponent.toNat * 2 ^ 52 + mantissa.toNat) / 2 ^ 63 % 2 = 0
    omega
  rw [bit]
  rfl

/-- A number with the implicit place. -/
theorem atLeast_normal {p : Int} (place : p = exponent.toNat - 1075) (size : k ≤ 52 + p)
    (positive : exponent ≠ 0#11) (some : 0 < (1#1 ++ mantissa).toNat) :
    AtLeast k (.finite .positive (1#1 ++ mantissa).toNat p some) := by
  have nonzero : exponent.toNat ≠ 0 := by
    intro zero
    exact positive (BitVec.eq_of_toNat_eq zero)
  have sum : (1#1 ++ mantissa).toNat = 2 ^ 52 + mantissa.toNat := by
    rw [BitVec.toNat_append, ← Nat.shiftLeft_add_eq_or_of_lt mantissa.isLt]
    rfl
  have bound := mantissa.isLt
  have log : (1#1 ++ mantissa).toNat.log2 = 52 := by
    rw [sum, Nat.log2_eq_iff (by omega)]
    omega
  exact .finite some (by omega) (by omega) (by omega) (.inl log)

/-- A number below all that have the implicit place. -/
theorem atLeast_subnormal {p : Int} (place : p = -1074) (size : k ≤ mantissa.toNat.log2 + p)
    (some : 0 < mantissa.toNat) : AtLeast k (.finite .positive mantissa.toNat p some) := by
  have log := (Nat.log2_lt (by omega)).2 mantissa.isLt
  exact .finite some size (by omega) (by omega) (.inr place)

theorem atLeast_unpack_normal {b : BitVec Format.binary64.numBits}
    (sign : Sign.ofBitVec (unpackSign b) = .positive) (size : k ≤ (unpackExponent b).toNat - 1023)
    (normal : unpackExponent b ≠ 0#11) (finite : unpackExponent b ≠ -1#11) :
    AtLeast k (UnpackedFloat.unpack Format.binary64 b) := by
  unfold UnpackedFloat.unpack
  dsimp only
  rw [if_neg finite, if_neg normal, sign]
  refine atLeast_normal rfl ?_ normal _
  show k ≤ 52 + ((unpackExponent b).toNat - 1075)
  omega

theorem atLeast_unpack_subnormal {b : BitVec Format.binary64.numBits}
    (sign : Sign.ofBitVec (unpackSign b) = .positive)
    (size : k ≤ (unpackMantissa b).toNat.log2 - 1074) (least : unpackExponent b = 0#11)
    (nonzero : unpackMantissa b ≠ 0#52) :
    AtLeast k (UnpackedFloat.unpack Format.binary64 b) := by
  have finite : unpackExponent b ≠ -1#11 := by
    rw [least]
    decide
  unfold UnpackedFloat.unpack
  dsimp only
  rw [if_neg finite, if_pos least, dif_neg nonzero, sign, least]
  refine atLeast_subnormal rfl ?_ _
  show k ≤ (unpackMantissa b).toNat.log2 + (-1074)
  omega

/-- The least positive number is `2 ^ (-1074)`. -/
theorem atLeast_of_zero_lt {b : BitVec Format.binary64.numBits}
    (positive :
      UnpackedFloat.lt (.zero .positive) (UnpackedFloat.unpack Format.binary64 b) = true) :
    AtLeast (-1074) (UnpackedFloat.unpack Format.binary64 b) := by
  unfold UnpackedFloat.unpack at positive ⊢
  dsimp only at positive ⊢
  generalize Sign.ofBitVec (unpackSign b) = sign at positive ⊢
  -- the cases are those of unpacking; zero is below none that has the negative sign
  by_cases top : unpackExponent b = -1#11
  · rw [if_pos top] at positive ⊢
    by_cases infinite : unpackMantissa b = 0#52
    · rw [if_pos infinite] at positive ⊢
      cases sign with
      | positive => exact .infinite
      | negative => exact absurd positive (by decide)
    · rw [if_neg infinite] at positive
      exact absurd positive (by decide)
  · rw [if_neg top] at positive ⊢
    by_cases least : unpackExponent b = 0#11
    · rw [if_pos least] at positive ⊢
      by_cases zero : unpackMantissa b = 0#52
      · rw [dif_pos zero] at positive
        cases sign <;> exact absurd positive (by decide)
      · rw [dif_neg zero] at positive ⊢
        cases sign with
        | positive =>
          rw [least]
          refine atLeast_subnormal rfl ?_ _
          show (-1074 : Int) ≤ (unpackMantissa b).toNat.log2 + (-1074)
          omega
        | negative => cases positive
    · rw [if_neg least] at positive ⊢
      cases sign with
      | positive =>
        refine atLeast_normal rfl ?_ least _
        show (-1074 : Int) ≤ 52 + ((unpackExponent b).toNat - 1075)
        omega
      | negative => cases positive

end Unpack

/-- What the bits of a positive number, or of infinity, keep of it: its size and its sign. -/
def Kept (k : Int) (b : BitVec Format.binary64.numBits) : Prop :=
  AtLeast k (UnpackedFloat.unpack Format.binary64 b) ∧ 0 < b.toNat ∧ b.toNat < 2 ^ 63

section Pack

variable {k : Int} {exponent : BitVec 11} {mantissa : BitVec 52}

theorem kept_infinity : Kept k (packedInfinity Format.binary64 .positive) :=
  ⟨.infinite, by decide, by decide⟩

theorem kept_normal (size : k ≤ exponent.toNat - 1023) (some : 0 < exponent.toNat)
    (finite : exponent.toNat < 2047) :
    Kept k (packComponents Format.binary64 .positive exponent mantissa) := by
  have bound := mantissa.isLt
  have field : unpackExponent (packComponents Format.binary64 .positive exponent mantissa) =
      exponent := unpackExponent_packComponents
  refine ⟨atLeast_unpack_normal sign_packComponents ?_ ?_ ?_, ?_⟩
  · rw [field]
    exact size
  · rw [field]
    rintro rfl
    exact absurd some (by decide)
  · rw [field]
    rintro rfl
    exact absurd finite (by decide)
  · rw [toNat_packComponents]
    omega

theorem kept_subnormal (size : k ≤ mantissa.toNat.log2 - 1074) (some : 0 < mantissa.toNat) :
    Kept k (packComponents Format.binary64 .positive 0#11 mantissa) := by
  have bound := mantissa.isLt
  have field : unpackMantissa (packComponents Format.binary64 .positive 0#11 mantissa) = mantissa :=
    unpackMantissa_packComponents
  refine ⟨atLeast_unpack_subnormal sign_packComponents ?_ unpackExponent_packComponents ?_, ?_⟩
  · rw [field]
    exact size
  · rw [field]
    rintro rfl
    exact absurd some (by decide)
  · rw [toNat_packComponents, BitVec.toNat_zero]
    omega

end Pack

theorem AtLeast.unpack_pack {k : Int} {x : Float.Model.UnpackedFloat} (large : AtLeast k x) :
    Kept k (UnpackedFloat.pack Format.binary64 x) := by
  cases large with
  | infinite => exact kept_infinity
  | @finite m e positive size places least full =>
    obtain ⟨biased, same⟩ : ∃ biased : Nat, e = biased - 1075 := ⟨(e + 1075).toNat, by omega⟩
    have field : (e + Format.binary64.exponentBias +
        Format.binary64.mantissaBitsWithoutImplicit).toNat = biased := by
      show (e + (1023 : Nat) + (52 : Nat)).toNat = biased
      omega
    unfold UnpackedFloat.pack
    simp only [field]
    split
    · exact kept_infinity
    · rename_i finite
      have exponent : (BitVec.ofNat 11 biased).toNat = biased :=
        Nat.mod_eq_of_lt (by omega)
      split
      · rename_i wide
        have log : m.log2 + 1 = 53 := wide
        exact kept_normal (by omega) (by omega) (by omega)
      · rename_i narrow
        have log : m.log2 + 1 ≠ 53 := narrow
        have mantissa : (BitVec.ofNat 52 m).toNat = m :=
          Nat.mod_eq_of_lt ((Nat.log2_lt (by omega)).1 (by omega))
        exact kept_subnormal (by rw [mantissa]; omega) (by omega)

theorem atLeast_toModel {r : Float} (positive : 0 < r) : AtLeast (-1074) r.toModel.unpack :=
  atLeast_of_zero_lt (of_decide_eq_true positive)

/-- The exact bits of one. -/
theorem atLeast_one : AtLeast 0 (Float.ofBits 0x3FF0000000000000).toModel.unpack := by
  have canonical : AtLeast 0 (UnpackedFloat.unpack Format.binary64
      (packComponents Format.binary64 .positive 1023#11 0#52)) :=
    atLeast_unpack_normal sign_packComponents (by decide) (by decide) (by decide)
  exact canonical.unpack_pack.1

/-- A positive whole number is at least one in floating point. -/
theorem atLeast_ofNat {n : Nat} (positive : 0 < n) : AtLeast 0 (Float.ofNat n).toModel.unpack := by
  unfold Float.ofNat
  simp only [OfScientific.ofScientific]
  unfold Float.ofScientific
  split
  case isTrue small =>
    have word : n.toUInt64.toNat = n := Nat.mod_eq_of_lt (by omega)
    have rounded : AtLeast 0 (UnpackedFloat.ofUInt64 Format.binary64 n.toUInt64) := by
      unfold UnpackedFloat.ofUInt64 UnpackedFloat.ofNat UnpackedFloat.ofInt
        UnpackedFloat.normalize
      rw [word, Int.compare_eq_gt.2 (by omega)]
      exact atLeast_round positive (by omega) (by decide)
    exact (rounded.unpack_pack.1.mul atLeast_one (by decide)).unpack_pack.1
  case isFalse large =>
    have product : AtLeast 0 (UnpackedFloat.ofScientific Format.binary64 n 0) := by
      have notTiny : ¬(0 : Int) < -((2 ^ Format.binary64.exponentBits : Int) + n.log2) := by
        have : (2 ^ Format.binary64.exponentBits : Int) = 2048 := rfl
        omega
      unfold UnpackedFloat.ofScientific
      rw [dif_neg (by omega), if_neg (by decide), if_neg notTiny, if_pos (by decide)]
      have log : (n <<< 53).log2 = n.log2 + 53 := by
        rw [Nat.shiftLeft_eq, log2_mul_two_pow positive]
      have some : 0 < n <<< 53 := by
        rw [Nat.shiftLeft_eq]
        exact Nat.mul_pos positive (Nat.two_pow_pos 53)
      exact atLeast_mul_finite (m := n <<< 53) (n := 1) (e := -53) (d := 0) some (by decide)
        (by omega) (by decide) (by omega)
    exact product.unpack_pack.1

theorem zero_lt_mul_bits {n : Nat} {r : Float} (count : 0 < n) (ratio : 0 < r) :
    0 < (Float.ofNat n * r).toBits.toNat ∧ (Float.ofNat n * r).toBits.toNat < 2 ^ 63 :=
  ((atLeast_ofNat count).mul (atLeast_toModel ratio) (by decide)).unpack_pack.2

end UiSchema.Decimal

namespace UiSchema

/-- A positive word stands for a positive number, or for none that is finite. -/
theorem Binary64.ofBits_pos {bits : Nat} (some : 0 < bits) (sign : bits < 2 ^ 63) :
    (∃ mantissa exponent, Binary64.ofBits bits = .finite false mantissa exponent ∧ 0 < mantissa) ∨
      (Binary64.ofBits bits).ceil? = none := by
  have notNegative : decide (2048 * Binary64.hiddenBit ≤ bits) = false := by
    rw [decide_eq_false_iff_not, Binary64.hiddenBit]
    norm_num
    omega
  unfold Binary64.ofBits
  simp only [notNegative]
  split
  · split
    · exact .inr rfl
    · exact .inr rfl
  · split
    case isTrue subnormal =>
      refine .inl ⟨_, _, rfl, ?_⟩
      rw [Binary64.hiddenBit] at *
      norm_num at *
      omega
    case isFalse => exact .inl ⟨_, _, rfl, Nat.add_pos_left (by decide) _⟩

theorem Binary64.ceil?_pos {bits : Nat} (some : 0 < bits) (sign : bits < 2 ^ 63) {whole : Int}
    (rounded : (Binary64.ofBits bits).ceil? = .some whole) : 0 < whole := by
  obtain ⟨mantissa, exponent, same, positive⟩ | none := Binary64.ofBits_pos some sign
  · rw [same] at rounded
    cases exponent with
    | ofNat up =>
      obtain rfl := Option.some.inj rounded
      exact Int.natCast_pos.2 (Nat.mul_pos positive (Nat.two_pow_pos up))
    | negSucc down =>
      obtain rfl := Option.some.inj rounded
      have below : -(mantissa : Int) / (Nat.pow 2 (down + 1) : Nat) < 0 :=
        Int.ediv_neg_of_neg_of_pos (by omega) (Int.natCast_pos.2 (Nat.two_pow_pos (down + 1)))
      show 0 < -(-(mantissa : Int) / (Nat.pow 2 (down + 1) : Nat))
      omega
  · rw [none] at rounded
    cases rounded

end UiSchema
