import Mathlib
import Calculator.Display

/-! Signs of floating-point numbers. A sign goes through products and quotients unchanged, and
taking a number from zero turns it. Only the sign of zero is lost in sums, which the relation
`Alike` and the text of a result do not see. -/
namespace Calculator.Number

open Float.Model (Format UnpackedFloat)
open Float.Model.UnpackedFloat

theorem unpack_components_neg {spec : Format} (s : Sign) (exponent : BitVec spec.exponentBits)
    (mantissa : BitVec spec.mantissaBitsWithoutImplicit) :
    unpack spec (packComponents spec (-s) exponent mantissa) =
      (unpack spec (packComponents spec s exponent mantissa)).neg := by
  simp only [unpack, unpackMantissa_packComponents, unpackExponent_packComponents,
    unpackSign_packComponents, Sign.ofBitVec_toBitVec]
  split
  · split <;> rfl
  · split
    · split <;> rfl
    · rfl

/-- The sign of a packed number is a part of its own. -/
theorem unpack_pack_neg (u : UnpackedFloat) :
    unpack .binary64 (pack .binary64 u.neg) = (unpack .binary64 (pack .binary64 u)).neg := by
  cases u with
  | notANumber =>
    change unpack .binary64 (packedNaN .binary64) = (unpack .binary64 (packedNaN .binary64)).neg
    rw [unpack_packedNaN]
    rfl
  | infinity s => exact unpack_components_neg s _ _
  | zero s => exact unpack_components_neg s _ _
  | finite s m e pos =>
    simp only [neg, pack]
    split
    · exact unpack_components_neg s _ _
    · split <;> exact unpack_components_neg s _ _

theorem eq_of_unpack_eq {x y : Float} (h : x.toModel.unpack = y.toModel.unpack) : x = y := by
  have same := (unpack_inj_of_valid x.toModel.valid y.toModel.valid).1 h
  exact Float.toBits_inj.1 (UInt64.toBitVec_inj.1 same)

theorem unpack_pack_unpack (x : Float) :
    unpack .binary64 (pack .binary64 x.toModel.unpack) = x.toModel.unpack :=
  congrArg (unpack .binary64) (pack_unpack_of_valid x.toModel.valid)

theorem unpack_neg (x : Float) : (-x).toModel.unpack = x.toModel.unpack.neg := by
  change unpack .binary64 (pack .binary64 x.toModel.unpack.neg) = _
  rw [unpack_pack_neg, unpack_pack_unpack]

theorem unpacked_abs_eq_or (u : UnpackedFloat) : u.abs = u ∨ u.abs = u.neg := by
  cases u with
  | notANumber => exact .inl rfl
  | infinity s | zero s | finite s =>
    cases s with
    | positive => exact .inl rfl
    | negative => exact .inr rfl

theorem unpack_abs (x : Float) : x.abs.toModel.unpack = x.toModel.unpack.abs := by
  change unpack .binary64 (pack .binary64 x.toModel.unpack.abs) = _
  rcases unpacked_abs_eq_or x.toModel.unpack with same | turned
  · rw [same, unpack_pack_unpack]
  · rw [turned, unpack_pack_neg, unpack_pack_unpack]

theorem ofModel_pack_neg (u : UnpackedFloat) :
    Float.ofModel (.pack u.neg) = -Float.ofModel (.pack u) := by
  apply eq_of_unpack_eq
  rw [unpack_neg]
  exact unpack_pack_neg u

theorem roundWithAccuracy_neg (spec : Format) (s : Sign) (m : Nat) (e : Int)
    (accuracy : Accuracy) : roundWithAccuracy spec (-s) m e accuracy =
      (roundWithAccuracy spec s m e accuracy).neg := by
  simp only [roundWithAccuracy]
  split <;> rfl

theorem sign_neg_mul (s s' : Sign) : -s * s' = -(s * s') := by cases s <;> cases s' <;> rfl

theorem sign_neg_div (s s' : Sign) : -s / s' = -(s / s') := by cases s <;> cases s' <;> rfl

theorem unpacked_neg_mul (u v : UnpackedFloat) :
    mul .binary64 u.neg v = (mul .binary64 u v).neg := by
  cases u <;> cases v <;> simp [mul, neg, sign_neg_mul, roundWithAccuracy_neg]

theorem unpacked_neg_div (u v : UnpackedFloat) :
    div .binary64 u.neg v = (div .binary64 u v).neg := by
  cases u <;> cases v <;> simp [div, neg, sign_neg_div, roundWithAccuracy_neg]

theorem negate_mul (x y : Float) : -x * y = -(x * y) := by
  change Float.ofModel (.pack (mul .binary64 (-x).toModel.unpack y.toModel.unpack)) = _
  rw [unpack_neg, unpacked_neg_mul]
  exact ofModel_pack_neg _

theorem negate_div (x y : Float) : -x / y = -(x / y) := by
  change Float.ofModel (.pack (div .binary64 (-x).toModel.unpack y.toModel.unpack)) = _
  rw [unpack_neg, unpacked_neg_div]
  exact ofModel_pack_neg _

@[simp] theorem isFinite_neg (x : Float) : (-x).isFinite = x.isFinite := by
  change (-x).toModel.unpack.isFinite = x.toModel.unpack.isFinite
  rw [unpack_neg]
  cases x.toModel.unpack <;> rfl

/-- Equal numbers, where the two zeros count as one. -/
def Alike (x y : Float) : Prop := x = y ∨ (x == 0.0) ∧ (y == 0.0)

/-- The same of unpacked numbers. -/
def UnpackedAlike (u v : UnpackedFloat) : Prop := u = v ∨ ∃ s s', u = .zero s ∧ v = .zero s'

theorem unpack_zero : (0.0 : Float).toModel.unpack = .zero .positive := by
  have same : (0.0 : Float) = .ofModel (.pack (.zero .positive)) := by decide +kernel
  rw [same]
  exact unpack_packedZero

theorem beq_zero_iff {x : Float} : (x == 0.0) ↔ ∃ s, x.toModel.unpack = .zero s := by
  change (x.toModel.unpack.compare (0.0 : Float).toModel.unpack == some .eq) = true ↔ _
  rw [unpack_zero]
  cases x.toModel.unpack with
  | notANumber => simp [UnpackedFloat.compare]
  | infinity s => cases s <;> simp [UnpackedFloat.compare]
  | zero s => simp [UnpackedFloat.compare]
  | finite s m e pos => cases s <;> simp [UnpackedFloat.compare]

theorem Alike.refl (x : Float) : Alike x x := .inl rfl

theorem Alike.unpacked {x y : Float} (h : Alike x y) :
    UnpackedAlike x.toModel.unpack y.toModel.unpack := by
  rcases h with rfl | ⟨hx, hy⟩
  · exact .inl rfl
  · obtain ⟨s, hx⟩ := beq_zero_iff.1 hx
    obtain ⟨s', hy⟩ := beq_zero_iff.1 hy
    exact .inr ⟨s, s', hx, hy⟩

theorem UnpackedAlike.packed {u v : UnpackedFloat} (h : UnpackedAlike u v) :
    Alike (.ofModel (.pack u)) (.ofModel (.pack v)) := by
  rcases h with rfl | ⟨s, s', rfl, rfl⟩
  · exact .refl _
  · exact .inr ⟨beq_zero_iff.2 ⟨s, unpack_packedZero⟩, beq_zero_iff.2 ⟨s', unpack_packedZero⟩⟩

theorem UnpackedAlike.add {u v : UnpackedFloat} (h : UnpackedAlike u v) (w : UnpackedFloat) :
    UnpackedAlike (add .binary64 u w) (add .binary64 v w) := by
  rcases h with rfl | ⟨s, s', rfl, rfl⟩
  · exact .inl rfl
  · cases w with
    | zero t => cases s <;> cases s' <;> cases t <;> exact .inr ⟨_, _, rfl, rfl⟩
    | _ => exact .inl rfl

theorem UnpackedAlike.sub {u v : UnpackedFloat} (h : UnpackedAlike u v) (w : UnpackedFloat) :
    UnpackedAlike (sub .binary64 u w) (sub .binary64 v w) := by
  rcases h with rfl | ⟨s, s', rfl, rfl⟩
  · exact .inl rfl
  · cases w with
    | zero t => cases s <;> cases s' <;> cases t <;> exact .inr ⟨_, _, rfl, rfl⟩
    | _ => exact .inl rfl

theorem Alike.add {x y : Float} (h : Alike x y) (z : Float) : Alike (x + z) (y + z) :=
  (h.unpacked.add z.toModel.unpack).packed

theorem Alike.sub {x y : Float} (h : Alike x y) (z : Float) : Alike (x - z) (y - z) :=
  (h.unpacked.sub z.toModel.unpack).packed

theorem Alike.isFinite_eq {x y : Float} (h : Alike x y) : x.isFinite = y.isFinite := by
  change x.toModel.unpack.isFinite = y.toModel.unpack.isFinite
  rcases h.unpacked with same | ⟨s, s', hx, hy⟩
  · rw [same]
  · rw [hx, hy]
    rfl

/-- Taking a number from zero turns its sign, but for the sign of zero. -/
theorem zero_sub_alike (x : Float) : Alike (0.0 - x) (-x) := by
  change Alike (.ofModel (.pack (UnpackedFloat.sub .binary64 (0.0 : Float).toModel.unpack _)))
    (.ofModel (.pack x.toModel.unpack.neg))
  rw [unpack_zero]
  apply UnpackedAlike.packed
  cases x.toModel.unpack with
  | zero s => cases s <;> exact .inr ⟨_, _, rfl, rfl⟩
  | _ => exact .inl rfl

theorem units_ofBinary_eq_zero {x : Float} (h : x == 0.0) :
    (Decimal.ofBinary (Binary.ofFloat x)).units = 0 := by
  obtain ⟨s, hx⟩ := beq_zero_iff.1 h
  have same : x = .ofModel (.pack (.zero s)) := eq_of_unpack_eq (hx.trans unpack_packedZero.symm)
  rw [same]
  cases s <;> decide +kernel

end Calculator.Number

namespace Calculator.Display

open Number

theorem text_zero (lib : Elementary) {x : Float} (h : x == 0.0) : text lib x = ['0'] := by
  have isFinite : x.isFinite := by
    obtain ⟨s, hx⟩ := beq_zero_iff.1 h
    change x.toModel.unpack.isFinite
    rw [hx]
    rfl
  simp only [text, isFinite, units_ofBinary_eq_zero h]
  rfl

/-- What is shown has no sign of zero. -/
theorem text_eq_of_alike (lib : Elementary) {x y : Float} (h : Alike x y) :
    text lib x = text lib y := by
  rcases h with rfl | ⟨hx, hy⟩
  · rfl
  · rw [text_zero lib hx, text_zero lib hy]

end Calculator.Display
