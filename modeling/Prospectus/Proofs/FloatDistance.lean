import Mathlib
import Prospectus.Proofs.FloatOrder

/-!
# Distances of 32-bit floats

Two floats need not be comparable: if one of them is not a number, neither
`x ≤ y` nor `y < x` holds (`le_cases`).  The distance of two numbers can be such
a float, but at one place only: an infinity has no distance from itself
(`isNaN_abs_sub_iff`).  Rounding and packing make nothing that is not a number
(`isNaN_normalize`, `isNaN_unpack_pack`).
-/

namespace Prospectus.Number

open Float.Model.UnpackedFloat

/-! ## Comparing -/

theorem compare_swap (x y : Float.Model.UnpackedFloat) :
    y.compare x = (x.compare y).map Ordering.swap := by
  have hparts (m n : Nat) (e d : ℤ) :
      (compare d e).then (compare n m) =
        ((compare e d).then (compare m n)).swap := by
    have hexponent : compare d e = (compare e d).swap := Std.OrientedCmp.eq_swap
    have hmantissa : compare n m = (compare m n).swap := Std.OrientedCmp.eq_swap
    rw [Ordering.swap_then, hexponent, hmantissa]
  -- two numbers of one sign are told apart by their parts, all others by their
  -- kinds and signs
  rcases x with ⟨⟨⟩⟩ | _ | _ | ⟨⟨⟩, m, e, hm⟩ <;> rcases y with ⟨⟨⟩⟩ | _ | _ |
    ⟨⟨⟩, n, d, hn⟩ <;> try rfl
  · exact congrArg (some ·.swap) (hparts m n e d)
  · exact congrArg some (hparts m n e d)

theorem compare_eq_none_iff (x y : Float.Model.UnpackedFloat) :
    x.compare y = none ↔ x.isNaN = true ∨ y.isNaN = true := by
  rcases x with ⟨⟨⟩⟩ | _ | _ | ⟨⟨⟩, m, e, hm⟩ <;> rcases y with ⟨⟨⟩⟩ | _ | _ |
    ⟨⟨⟩, n, d, hn⟩ <;>
    simp [Float.Model.UnpackedFloat.compare, isNaN]

/-- Of two numbers, one is at most the other or above it; what is not a number
is neither. -/
theorem le_cases (x y : Float32) :
    (¬ (x.isNaN = true ∨ y.isNaN = true) ∧ x ≤ y ∧ ¬ y < x) ∨
    (¬ (x.isNaN = true ∨ y.isNaN = true) ∧ ¬ x ≤ y ∧ y < x) ∨
    ((x.isNaN = true ∨ y.isNaN = true) ∧ ¬ x ≤ y ∧ ¬ y < x) := by
  have hlt : y < x ↔ y.toModel.unpack.lt x.toModel.unpack = true :=
    decide_eq_true_iff
  have hle : x ≤ y ↔ x.toModel.unpack.le y.toModel.unpack = true :=
    decide_eq_true_iff
  have hnone : x.toModel.unpack.compare y.toModel.unpack = none ↔
      x.isNaN = true ∨ y.isNaN = true :=
    compare_eq_none_iff _ _
  rw [hlt, hle, ← hnone, Float.Model.UnpackedFloat.lt,
    Float.Model.UnpackedFloat.le, compare_swap x.toModel.unpack]
  cases x.toModel.unpack.compare y.toModel.unpack with
  | none => simp
  | some order => cases order <;> decide

/-! ## Packing -/

theorem isNaN_unpack_iff (spec : Float.Model.Format) (b : BitVec spec.numBits) :
    (unpack spec b).isNaN = true ↔ unpackExponent b = -1#_ ∧
    unpackMantissa b ≠ 0#_ := by
  unfold unpack
  dsimp only
  by_cases hlast : unpackExponent b = -1#_
  · by_cases hnone : unpackMantissa b = 0#_ <;> simp [hlast, hnone, isNaN]
  · rw [if_neg hlast]
    split
    · split <;> simp [isNaN, hlast]
    · simp [isNaN, hlast]

/-- Packing keeps what is not a number, and makes nothing else of that kind. -/
theorem isNaN_unpack_pack (x : Float.Model.UnpackedFloat) :
    (unpack Float.Model.Format.binary32
      (pack Float.Model.Format.binary32 x)).isNaN = x.isNaN := by
  cases x with
  | notANumber => decide
  | infinity s => cases s <;> decide
  | zero s => cases s <;> decide
  | finite s m e hm =>
      refine Bool.eq_false_iff.mpr (mt (isNaN_unpack_iff _ _).mp ?_)
      rintro ⟨hlast, hsome⟩
      unfold pack at hlast hsome
      dsimp only at hlast hsome
      -- a number that is too large becomes infinity, and any other has an
      -- exponent field below the last one
      by_cases hlarge : 2 ^ 8 ≤
          (e + Float.Model.Format.binary32.exponentBias + (23 : Nat)).toNat + 1
      · rw [if_pos hlarge] at hsome
        exact hsome unpackMantissa_packComponents
      · rw [if_neg hlarge] at hlast
        split at hlast
        · have hfield := congrArg BitVec.toNat hlast
          rw [unpackExponent_packComponents, BitVec.toNat_ofNat] at hfield
          change _ % 2 ^ 8 = 255 at hfield
          omega
        · rw [unpackExponent_packComponents] at hlast
          exact absurd hlast (by decide)

/-! ## Differences -/

theorem isNaN_normalize (spec : Float.Model.Format) (m e : ℤ) (s : Sign) :
    (Float.Model.UnpackedFloat.normalize spec m e s).isNaN = false := by
  have hround (s : Sign) (m : Nat) :
      (Float.Model.UnpackedFloat.round spec s m e).isNaN = false := by
    unfold Float.Model.UnpackedFloat.round roundWithAccuracy
    dsimp only
    split <;> rfl
  unfold Float.Model.UnpackedFloat.normalize
  split
  · exact hround _ _
  · rfl
  · exact hround _ _

/-- The difference of two finite numbers is a number, be it too large for a
finite one. -/
theorem isNaN_sub_of_isFinite (spec : Float.Model.Format)
    {x y : Float.Model.UnpackedFloat} (hx : x.isFinite = true)
    (hy : y.isFinite = true) : (sub spec x y).isNaN = false := by
  cases x with
  | notANumber => cases hx
  | infinity s => cases hx
  | zero s =>
      cases y with
      | notANumber => cases hy
      | infinity t => cases hy
      | zero t => cases s <;> cases t <;> rfl
      | finite t n d hn => rfl
  | finite s m e hm =>
      cases y with
      | notANumber => cases hy
      | infinity t => cases hy
      | zero t => rfl
      | finite t n d hn => exact isNaN_normalize spec _ _ _

/-- A difference is not a number exactly if one of the two is none, or if both
are one infinity. -/
theorem isNaN_sub_iff (spec : Float.Model.Format)
    (x y : Float.Model.UnpackedFloat) :
    (sub spec x y).isNaN = true ↔
    (x.isNaN = true ∨ y.isNaN = true) ∨ x.isInf = true ∧ x.beq y = true := by
  by_cases hfinite : x.isFinite = true ∧ y.isFinite = true
  · obtain ⟨hx, hy⟩ := hfinite
    rw [isNaN_sub_of_isFinite spec hx hy]
    cases x <;> cases y <;> simp_all [isFinite, isNaN, isInf]
  · cases x with
    | notANumber => simp [sub, isNaN]
    | infinity s =>
        cases y with
        | notANumber => simp [sub, isNaN]
        | infinity t =>
            cases s <;> cases t <;>
              simp [sub, isNaN, isInf, Float.Model.UnpackedFloat.beq,
                Float.Model.UnpackedFloat.compare] <;> decide
        | _ =>
          cases s <;> simp [sub, isNaN, Float.Model.UnpackedFloat.beq,
            Float.Model.UnpackedFloat.compare]
    | _ => cases y <;> simp_all [sub, isFinite, isNaN, isInf]

/-- **The distance of two floats** is a number unless one of them is none, or
both are one infinity. -/
theorem isNaN_abs_sub_iff (x y : Float32) :
    (x - y).abs.isNaN = true ↔
    (x.isNaN = true ∨ y.isNaN = true) ∨ x.isInf = true ∧ (x == y) = true := by
  have habs (u : Float.Model.UnpackedFloat) : u.abs.isNaN = u.isNaN := by
    cases u <;> rfl
  have hdistance : (x - y).abs.isNaN =
      (sub Float.Model.Format.binary32 x.toModel.unpack y.toModel.unpack).isNaN :=
    calc (x - y).abs.isNaN
        = (unpack Float.Model.Format.binary32 (pack Float.Model.Format.binary32
            (x - y).toModel.unpack.abs)).isNaN := rfl
      _ = (x - y).toModel.unpack.isNaN := by rw [isNaN_unpack_pack, habs]
      _ = (sub Float.Model.Format.binary32 x.toModel.unpack
        y.toModel.unpack).isNaN := isNaN_unpack_pack _
  rw [hdistance]
  exact isNaN_sub_iff _ _ _

end Prospectus.Number
