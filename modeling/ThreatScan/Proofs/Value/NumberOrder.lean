import Mathlib
import ThreatScan.Value.Basic
/-!
The order of numbers of different kinds.

Truth values, integers and floating point numbers are compared by value. `Value.size?` is that value: a fraction, or one of
the two infinite ends; what is not a number has none. Comparing two values is comparing their sizes
(`compareNumbers?_eq_map_cmp`), so the order is linear although the kinds are mixed.
-/
namespace ThreatScan

/-- Fractions with a least and a greatest element. -/
abbrev Size := WithBot (WithTop ℚ)

def Size.ofRat (q : ℚ) : Size := ((q : WithTop ℚ) : Size)

theorem Size.strictMono_ofRat : StrictMono Size.ofRat := fun _ _ h =>
  WithBot.coe_lt_coe.mpr (WithTop.coe_lt_coe.mpr h)

theorem Size.bot_lt_ofRat (q : ℚ) : ⊥ < Size.ofRat q := WithBot.bot_lt_coe _

theorem Size.ofRat_lt_top (q : ℚ) : Size.ofRat q < ⊤ := WithBot.coe_lt_coe.mpr (WithTop.coe_lt_top q)

namespace Binary64

theorem ratio_snd_pos (mantissa : Nat) (exponent : Int) : 0 < (ratio mantissa exponent).2 := by
  unfold ratio
  split
  · exact Nat.one_pos
  · exact Nat.two_pow_pos _

def numerator (negative : Bool) (mantissa : Nat) (exponent : Int) : Int :=
  if negative then -((ratio mantissa exponent).1 : Int) else ((ratio mantissa exponent).1 : Int)

def size? : Binary64 → Option Size
  | .finite neg m e => some (Size.ofRat ((numerator neg m e : ℚ) / ((ratio m e).2 : ℚ)))
  | .infinite neg => some (if neg then ⊥ else ⊤)
  | .nan => none

end Binary64

def Value.size? : Value → Option Size
  | .bool b => some (Size.ofRat (if b then 1 else 0))
  | .int n => some (Size.ofRat n)
  | .float x => x.size?
  | _ => none

/-! ## Comparing is comparing sizes -/

theorem compare_eq_cmp {a b : ℤ} {x y : ℚ} (hlt : a < b ↔ x < y) (heq : a = b ↔ x = y) :
    compare a b = cmp x y := by
  rcases lt_trichotomy a b with h | h | h
  · rw [compare_lt_iff_lt.mpr h, (cmp_eq_lt_iff x y).mpr (hlt.mp h)]
  · rw [compare_eq_iff_eq.mpr h, (cmp_eq_eq_iff x y).mpr (heq.mp h)]
  · have hxy : y < x := lt_of_le_of_ne (not_lt.mp fun hx => absurd (hlt.mpr hx) (by omega))
      fun hx => absurd (heq.mpr hx.symm) (by omega)
    rw [compare_gt_iff_gt.mpr h, (cmp_eq_gt_iff x y).mpr hxy]

/-- Fractions are compared by multiplying crosswise. -/
theorem compare_mul_eq_cmp_div (p r : ℤ) {q s : ℕ} (hq : 0 < q) (hs : 0 < s) :
    compare (p * (s : ℤ)) (r * (q : ℤ)) = cmp ((p : ℚ) / q) ((r : ℚ) / s) := by
  have hq' : (0 : ℚ) < q := by exact_mod_cast hq
  have hs' : (0 : ℚ) < s := by exact_mod_cast hs
  apply compare_eq_cmp
  · rw [div_lt_div_iff₀ hq' hs']
    exact_mod_cast Iff.rfl
  · rw [div_eq_div_iff hq'.ne' hs'.ne']
    exact_mod_cast Iff.rfl

namespace Binary64

theorem compareInt?_eq_map_cmp (x : Binary64) (k : Int) :
    x.compareInt? k = x.size?.map fun a => cmp a (Size.ofRat k) := by
  cases x with
  | nan => rfl
  | infinite neg =>
    cases neg with
    | true => exact congrArg some ((cmp_eq_lt_iff _ _).mpr (Size.bot_lt_ofRat k)).symm
    | false => exact congrArg some ((cmp_eq_gt_iff _ _).mpr (Size.ofRat_lt_top k)).symm
  | finite neg m e =>
    have h := compare_mul_eq_cmp_div (numerator neg m e) k (ratio_snd_pos m e) Nat.one_pos
    simp only [Nat.cast_one, mul_one, div_one] at h
    simp only [compareInt?, size?, Option.map_some, Size.strictMono_ofRat.cmp_map_eq]
    exact congrArg some h

theorem compare?_eq_map_cmp (x y : Binary64) :
    x.compare? y = x.size?.bind fun a => y.size?.map fun b => cmp a b := by
  cases x with
  | nan => rfl
  | infinite a =>
    cases y with
    | nan => rfl
    | infinite b => cases a <;> cases b <;> decide
    | finite neg m e =>
      cases a with
      | true => exact congrArg some ((cmp_eq_lt_iff _ _).mpr (Size.bot_lt_ofRat _)).symm
      | false => exact congrArg some ((cmp_eq_gt_iff _ _).mpr (Size.ofRat_lt_top _)).symm
  | finite neg m e =>
    cases y with
    | nan => rfl
    | infinite b =>
      cases b with
      | true => exact congrArg some ((cmp_eq_gt_iff _ _).mpr (Size.bot_lt_ofRat _)).symm
      | false => exact congrArg some ((cmp_eq_lt_iff _ _).mpr (Size.ofRat_lt_top _)).symm
    | finite neg' m' e' =>
      have h := compare_mul_eq_cmp_div (numerator neg m e) (numerator neg' m' e') (ratio_snd_pos m e) (ratio_snd_pos m' e')
      simp only [compare?, size?, Option.map_some, Option.bind_some, Size.strictMono_ofRat.cmp_map_eq]
      exact congrArg some h

end Binary64

namespace Value

theorem size?_of_int? {v : Value} {n : Int} (h : v.int? = some n) : v.size? = some (Size.ofRat n) := by
  cases v with
  | int k => cases h; rfl
  | bool b => cases b <;> cases h <;> simp [size?]
  | _ => simp [int?] at h

theorem cmp_ofRat_int (m n : Int) : cmp (Size.ofRat m) (Size.ofRat n) = compare m n := by
  rw [Size.strictMono_ofRat.cmp_map_eq]
  exact (compare_eq_cmp Int.cast_lt.symm Int.cast_inj.symm).symm

/-- Numbers are compared by their sizes; other values have none. -/
theorem compareNumbers?_eq_map_cmp (a b : Value) :
    a.compareNumbers? b = a.size?.bind fun x => b.size?.map fun y => cmp x y := by
  cases ha : a.int? with
  | some m =>
    rw [size?_of_int? ha]
    cases hb : b.int? with
    | some n =>
      rw [size?_of_int? hb]
      simp only [compareNumbers?, ha, hb, Option.bind_some, Option.map_some, cmp_ofRat_int]
    | none =>
      cases b with
      | float y =>
        simp only [compareNumbers?, ha, hb, Option.bind_some, size?, Binary64.compareInt?_eq_map_cmp, Option.map_map]
        congr 1
        funext x
        exact cmp_swap x (Size.ofRat m)
      | _ => simp_all [compareNumbers?, size?, int?]
  | none =>
    cases a with
    | float x =>
      cases hb : b.int? with
      | some n =>
        rw [size?_of_int? hb]
        simp only [compareNumbers?, ha, hb, size?, Binary64.compareInt?_eq_map_cmp]
        cases x.size? <;> rfl
      | none =>
        cases b with
        | float y => simp only [compareNumbers?, ha, hb, size?, Binary64.compare?_eq_map_cmp]
        | _ => simp_all [compareNumbers?, size?, int?]
    | _ => simp_all [compareNumbers?, size?, int?]

end Value
end ThreatScan
