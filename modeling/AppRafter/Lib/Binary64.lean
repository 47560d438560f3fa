import Mathlib

set_option autoImplicit false

namespace AppRafter.Lib.Binary64

open Float.Model UnpackedFloat

-- A positive normal number of this value, its exponent within reach of zero.
def Holds (x : Float) (v : ℚ) (reach : Nat) : Prop :=
  ∃ m e positive, x.toModel.unpack = .finite .positive m e positive ∧
  (2 ^ 52 ≤ m ∧ m < 2 ^ 53) ∧ e.natAbs ≤ reach ∧ v = m * 2 ^ e

def ulp : ℚ := 1 / 2 ^ 52

def Rounds (v w : ℚ) : Prop := v * (1 - ulp) ≤ w ∧ w ≤ v * (1 + ulp)

theorem unpack_pack {m : Nat} {e : Int} (positive : 0 < m) (normal : 2 ^ 52 ≤ m ∧ m < 2 ^ 53) (reached : e.natAbs ≤ 900) :
    (Float.Model.pack (.finite .positive m e positive)).unpack = .finite .positive m e positive := by
  have log : m.log2 = 52 := (Nat.log2_eq_iff positive.ne').mpr normal
  obtain ⟨biased, same⟩ : ∃ biased, (e + (1023 : Nat) + (52 : Nat)).toNat = biased := ⟨_, rfl⟩
  have packed : UnpackedFloat.pack Format.binary64 (.finite .positive m e positive) =
      packComponents Format.binary64 .positive (BitVec.ofNat 11 biased) (BitVec.ofNat 52 m) := by
    have large : ¬ 2 ^ 11 ≤ (e + (1023 : Nat) + (52 : Nat)).toNat + 1 := by omega
    rw [← same]
    simp only [UnpackedFloat.pack, Format.exponentBias, Format.mantissaBits, log]
    rw [if_neg large]
    rfl
  have exponent : (BitVec.ofNat 11 biased).toNat = biased := Nat.mod_eq_of_lt (by omega)
  have other (word : BitVec 11) (apart : biased ≠ word.toNat) : BitVec.ofNat 11 biased ≠ word := fun equal =>
    apart (exponent ▸ congrArg BitVec.toNat equal)
  have infinite := other (-1#_) (by change biased ≠ 2047; omega)
  have zero := other 0#_ (by change biased ≠ 0; omega)
  have mantissa : (1#1 ++ BitVec.ofNat 52 m).toNat = m := by
    rw [BitVec.toNat_append, BitVec.toNat_ofNat, ← Nat.shiftLeft_add_eq_or_of_lt (by omega)]
    change 2 ^ 52 + m % 2 ^ 52 = m
    omega
  have place : (((BitVec.ofNat 11 biased).toNat : Int) - ((1023 : Nat) + (52 : Nat))) = e := by omega
  change UnpackedFloat.unpack Format.binary64 (UnpackedFloat.pack Format.binary64 (.finite .positive m e positive)) = _
  simp only [packed, UnpackedFloat.unpack, unpackExponent_packComponents, unpackMantissa_packComponents, unpackSign_packComponents]
  rw [if_neg infinite, if_neg zero]
  exact UnpackedFloat.finite.injEq .. ▸ ⟨rfl, mantissa, place⟩

theorem shifted (em : ExtendedMantissa) (places : Nat) : (em >>> places).mantissa = em.mantissa / 2 ^ places := by
  induction places with
  | zero => exact (Nat.div_one _).symm
  | succ places ih =>
    change (em >>> places).mantissa / 2 = _
    rw [ih, Nat.div_div_eq_div_mul, Nat.pow_succ]

theorem round_cases (em : ExtendedMantissa) : em.roundedMantissa = em.mantissa ∨ em.roundedMantissa = em.mantissa + 1 := by
  obtain ⟨mantissa, roundBit, stickyBit⟩ := em
  cases roundBit with
  | false => cases stickyBit <;> exact .inl rfl
  | true =>
    cases stickyBit with
    | false =>
      change mantissa + mantissa % 2 = mantissa ∨ mantissa + mantissa % 2 = mantissa + 1
      omega
    | true => exact .inr rfl

theorem shift_target (m : Nat) (e : Int) (places : Nat) (log : m.log2 = 52 + places) (reached : e.natAbs ≤ 900)
    (accuracy : Accuracy) : shiftToTargetExponent Format.binary64 m e accuracy =
      (ExtendedMantissa.ofMantissaAndAccuracy m accuracy >>> places, e + places) := by
  have moved : (Format.binary64.targetExponent (totalExponent m e) - e).toNat = places := by
    simp only [Format.targetExponent, totalExponent, log, Format.mantissaBits, Format.minExponent]
    norm_num
    omega
  rw [shiftToTargetExponent, shiftToExponent, moved]

theorem round_twice {m : Nat} {e : Int} {accuracy : Accuracy} {once twice : ExtendedMantissa × Int}
    (first : shiftToTargetExponent Format.binary64 m e accuracy = once)
    (second : shiftToTargetExponent Format.binary64 once.1.roundedMantissa once.2 .exact = twice)
    (positive : 0 < twice.1.mantissa) :
    roundWithAccuracy Format.binary64 .positive m e accuracy = .finite .positive twice.1.mantissa twice.2 positive := by
  subst first
  subst second
  exact dif_neg positive.ne'

-- The nearest number is one of the two neighbours, so it is off by less than a unit in the last place.
theorem round_holds {x : Float} {m : Nat} {e : Int} {accuracy : Accuracy} {v : ℚ} {reach : Nat}
    (packed : x.toModel = .pack (roundWithAccuracy Format.binary64 .positive m e accuracy)) (wide : 2 ^ 52 ≤ m)
    (reached : e.natAbs + (m.log2 - 52) < reach) (small : reach ≤ 900) (floor : m ≤ v) (above : v ≤ m + 1) :
    ∃ w, Holds x w reach ∧ Rounds (v * 2 ^ e) w := by
  obtain ⟨places, log⟩ := Nat.exists_eq_add_of_le ((Nat.le_log2 (by omega)).mpr wide)
  obtain ⟨low, high⟩ := (Nat.log2_eq_iff (by omega)).mp log
  rw [pow_add] at low
  rw [Nat.add_right_comm, pow_add] at high
  have unit := Nat.two_pow_pos places
  have most : m / 2 ^ places < 2 ^ 53 := (Nat.div_lt_iff_lt_mul unit).mpr high
  have least : 2 ^ 52 ≤ m / 2 ^ places := (Nat.le_div_iff_mul_le unit).mpr low
  obtain ⟨r, same⟩ : ∃ r, (ExtendedMantissa.ofMantissaAndAccuracy m accuracy >>> places).roundedMantissa = r := ⟨_, rfl⟩
  have either : r = m / 2 ^ places ∨ r = m / 2 ^ places + 1 := by
    have held : (ExtendedMantissa.ofMantissaAndAccuracy m accuracy >>> places).mantissa = m / 2 ^ places := by
      rw [shifted]
      cases accuracy with
      | exact => rfl
      | inexact order => cases order <;> rfl
    exact same ▸ held ▸ round_cases _
  have close : Rounds (v * 2 ^ e) (r * 2 ^ places * 2 ^ e) := by
    have below := Nat.div_mul_le_self m (2 ^ places)
    have beyond := Nat.lt_div_mul_add (a := m) unit
    have lower : (r : ℚ) * 2 ^ places ≤ m + 2 ^ places := by
      rcases either with rfl | rfl <;> exact_mod_cast (by grind)
    have upper : (m : ℚ) + 1 ≤ r * 2 ^ places + 2 ^ places := by
      rcases either with rfl | rfl <;> exact_mod_cast (by grind)
    have lowQ : (2 : ℚ) ^ 52 * 2 ^ places ≤ m := by exact_mod_cast low
    have scale : (0 : ℚ) < 2 ^ e := zpow_pos two_pos e
    constructor
    · rw [mul_right_comm v]
      refine mul_le_mul_of_nonneg_right ?_ scale.le
      rw [ulp]
      linarith
    · rw [mul_right_comm v]
      refine mul_le_mul_of_nonneg_right ?_ scale.le
      rw [ulp]
      linarith
  have once := shift_target m e places log (by omega) accuracy
  refine ⟨_, ?_, close⟩
  by_cases full : r < 2 ^ 53
  · have positive : 0 < r := by omega
    have again := shift_target r (e + places) 0 ((Nat.log2_eq_iff (by omega)).mpr ⟨by omega, by omega⟩) (by omega) .exact
    refine ⟨r, e + places + (0 : Nat), positive, ?_, ⟨by omega, full⟩, by omega, ?_⟩
    · rw [packed, round_twice once (by rw [same, again]) positive]
      exact unpack_pack positive ⟨by omega, full⟩ (by omega)
    · rw [Nat.cast_zero, add_zero, zpow_add₀ two_ne_zero, zpow_natCast]
      ring
  · obtain rfl : r = 2 ^ 53 := by omega
    have again := shift_target (2 ^ 53) (e + places) 1 Nat.log2_two_pow (by omega) .exact
    have positive : 0 < 2 ^ 52 := by decide
    refine ⟨2 ^ 52, e + places + (1 : Nat), positive, ?_, by omega, by omega, ?_⟩
    · rw [packed, round_twice once (by rw [same, again]) positive]
      exact unpack_pack positive (by omega) (by omega)
    · rw [zpow_add₀ two_ne_zero, zpow_add₀ two_ne_zero, zpow_natCast, zpow_natCast]
      norm_num
      ring

section

variable {x y : Float} {v w : ℚ} {reach bound : Nat} (left : Holds x v reach) (right : Holds y w bound)

include left

theorem holds_positive : 0 < v := by
  obtain ⟨m, e, positive, _, _, _, rfl⟩ := left
  positivity

include right

theorem mul_holds (small : reach + bound + 55 ≤ 900) : ∃ z, Holds (x * y) z (reach + bound + 55) ∧ Rounds (v * w) z := by
  obtain ⟨m, e, _, unpacked, normal, reached, rfl⟩ := left
  obtain ⟨m', e', _, unpacked', normal', reached', rfl⟩ := right
  have packed : (x * y).toModel = .pack (roundWithAccuracy Format.binary64 .positive (m * m') (e + e') .exact) := by
    change Float.Model.pack (UnpackedFloat.mul _ x.toModel.unpack y.toModel.unpack) = _
    rw [unpacked, unpacked']
    rfl
  have wide : 2 ^ 104 ≤ m * m' := le_trans (by norm_num) (Nat.mul_le_mul normal.1 normal'.1)
  have narrow : m * m' < 2 ^ 106 := lt_of_lt_of_le (Nat.mul_lt_mul'' normal.2 normal'.2) (by norm_num)
  have log := (Nat.log2_lt (by omega)).mpr narrow
  have level : (m : ℚ) * 2 ^ e * (m' * 2 ^ e') = ((m * m' : Nat) : ℚ) * 2 ^ (e + e') := by
    rw [zpow_add₀ two_ne_zero]
    push_cast
    ring
  rw [level]
  exact round_holds packed (by omega) (by omega) small le_rfl (by linarith)

theorem div_holds (small : reach + bound + 55 ≤ 900) : ∃ z, Holds (x / y) z (reach + bound + 55) ∧ Rounds (v / w) z := by
  obtain ⟨m, e, positive, unpacked, normal, reached, rfl⟩ := left
  obtain ⟨m', e', positive', unpacked', normal', reached', rfl⟩ := right
  have log := (Nat.log2_eq_iff positive.ne').mpr normal
  have log' := (Nat.log2_eq_iff positive'.ne').mpr normal'
  have target : min (e - e') (Format.binary64.targetExponent (totalExponent m e - totalExponent m' e')) = e - e' - 53 := by
    simp only [Format.targetExponent, totalExponent, log, log', Format.mantissaBits, Format.minExponent]
    norm_num
    omega
  have packed : (x / y).toModel = .pack (roundWithAccuracy Format.binary64 .positive ((m <<< 53) / m') (e - e' - 53)
      (accuracyOfFraction ((m <<< 53) % m') m')) := by
    change Float.Model.pack (UnpackedFloat.div _ x.toModel.unpack y.toModel.unpack) = _
    rw [unpacked, unpacked']
    simp only [UnpackedFloat.div, divCore, target, sub_sub_cancel]
    rfl
  rw [Nat.shiftLeft_eq] at packed
  have wide : 2 ^ 52 ≤ m * 2 ^ 53 / m' := (Nat.le_div_iff_mul_le positive').mpr (by omega)
  have narrow : m * 2 ^ 53 / m' < 2 ^ 54 := (Nat.div_lt_iff_lt_mul positive').mpr (by omega)
  have size := (Nat.log2_lt (by omega)).mpr narrow
  have some : (0 : ℚ) < m' := by exact_mod_cast positive'
  have level : (m : ℚ) * 2 ^ e / (m' * 2 ^ e') = m * 2 ^ 53 / m' * 2 ^ (e - e' - 53) := by
    rw [zpow_sub₀ two_ne_zero, zpow_sub₀ two_ne_zero]
    field_simp
  rw [level]
  refine round_holds packed wide (by omega) small ?_ ?_
  · rw [le_div_iff₀ some]
    exact_mod_cast Nat.div_mul_le_self _ _
  · rw [div_le_iff₀ some]
    exact_mod_cast (Nat.lt_div_mul_add positive').le.trans_eq (by ring)

theorem le_of_float (below : x ≤ y) : v ≤ w := by
  obtain ⟨m, e, _, unpacked, normal, _, rfl⟩ := left
  obtain ⟨m', e', _, unpacked', normal', _, rfl⟩ := right
  have ordered : UnpackedFloat.le x.toModel.unpack y.toModel.unpack = true := of_decide_eq_true below
  rw [unpacked, unpacked'] at ordered
  have sorted : ((compare e e').then (compare m m')).isLE = true := ordered
  rw [Ordering.isLE_then_iff_or, Int.compare_eq_lt, Int.compare_eq_eq, Nat.isLE_compare] at sorted
  rcases sorted with earlier | ⟨rfl, lower⟩
  · have twice : (m : ℚ) ≤ m' * 2 := by exact_mod_cast (by omega : m ≤ m' * 2)
    calc (m : ℚ) * 2 ^ e ≤ m' * 2 * 2 ^ e := by gcongr
      _ = m' * 2 ^ (e + 1) := by rw [zpow_add_one₀ two_ne_zero]; ring
      _ ≤ m' * 2 ^ e' := by
        gcongr
        · norm_num
        · omega
  · gcongr

end

theorem log_shift {n : Nat} (some : n ≠ 0) (places : Nat) : (n <<< places).log2 = n.log2 + places := by
  induction places with
  | zero => rfl
  | succ places ih => rw [Nat.shiftLeft_succ, Nat.log2_two_mul (by simpa [Nat.shiftLeft_eq] using some), ih, Nat.add_assoc]

theorem nat_holds {n : Nat} (some : 0 < n) (short : n < 2 ^ 53) : ∃ z, Holds n.toUInt64.toFloat z 53 ∧ Rounds n z := by
  have log := (Nat.log2_lt some.ne').mpr short
  have target : Format.binary64.targetExponent (totalExponent n 0) = -((52 - n.log2 : Nat) : Int) := by
    simp only [Format.targetExponent, totalExponent, Format.mantissaBits, Format.minExponent]
    norm_num
    omega
  have packed : n.toUInt64.toFloat.toModel = .pack (roundWithAccuracy Format.binary64 .positive (n <<< (52 - n.log2))
      (-((52 - n.log2 : Nat) : Int)) .exact) := by
    change Float.Model.pack (UnpackedFloat.ofNat _ n.toUInt64.toNat) = _
    have whole : n.toUInt64.toNat = n := Nat.mod_eq_of_lt (by omega)
    rw [whole, UnpackedFloat.ofNat, UnpackedFloat.ofInt, UnpackedFloat.normalize, Int.compare_eq_gt.mpr (by omega)]
    simp only [Int.toNat_natCast, UnpackedFloat.round, target, decreaseExponent]
    congr 3
    · omega
    · omega
  have size := log_shift some.ne' (52 - n.log2)
  have same : ((n <<< (52 - n.log2) : Nat) : ℚ) * 2 ^ (-((52 - n.log2 : Nat) : Int)) = n := by
    rw [Nat.shiftLeft_eq, zpow_neg, zpow_natCast]
    push_cast
    field_simp
  rw [← same]
  exact round_holds packed ((Nat.le_log2 (by simpa [Nat.shiftLeft_eq] using some.ne')).mp (by omega)) (by omega)
    (by decide) le_rfl
    (by linarith)

def exactly (x : Float) (n : Nat) : Bool :=
  match x.toModel.unpack with
  | .finite .positive m e _ => decide (2 ^ 52 ≤ m ∧ m < 2 ^ 53 ∧ e.natAbs ≤ 52 ∧ m * 2 ^ e.toNat = n * 2 ^ (-e).toNat)
  | _ => false

theorem exactly_holds {x : Float} {n : Nat} (same : exactly x n = true) : Holds x n 52 := by
  rw [exactly] at same
  split at same
  · rename_i m e positive unpacked
    obtain ⟨low, high, reached, level⟩ := of_decide_eq_true same
    refine ⟨m, e, positive, unpacked, ⟨low, high⟩, reached, ?_⟩
    have split : (2 : ℚ) ^ e = 2 ^ e.toNat / 2 ^ (-e).toNat := by
      rw [← zpow_natCast, ← zpow_natCast, ← zpow_sub₀ two_ne_zero]
      congr 1
      omega
    rw [split, ← mul_div_assoc, eq_div_iff (by positivity)]
    exact_mod_cast level.symm
  · cases same

theorem powers : ∀ (scale : Nat) (small : scale < Float.exactlyRepresentablePowersOfTen.size),
    exactly (Float.exactlyRepresentablePowersOfTen[scale]) (10 ^ scale) = true := by decide +kernel

theorem scientific_holds {digits scale : Nat} (some : 0 < digits) (short : digits < 2 ^ 53) (places : scale ≤ 22) :
    ∃ z, Holds (Float.ofScientific digits true scale) z 160 ∧
      digits / 10 ^ scale * (1 - ulp) ^ 2 ≤ z ∧ z ≤ digits / 10 ^ scale * (1 + ulp) ^ 2 := by
  obtain ⟨w, whole, least, most⟩ := nat_holds some short
  have power := exactly_holds (powers scale (by change scale < 23; omega))
  obtain ⟨z, held, low, high⟩ := div_holds whole power (by decide)
  rw [Float.ofScientific, dif_pos ⟨short, places⟩]
  refine ⟨z, held, le_trans ?_ low, high.trans ?_⟩
  · push_cast
    rw [pow_two, ← mul_assoc, div_mul_eq_mul_div (digits : ℚ)]
    gcongr
    norm_num [ulp]
  · push_cast
    rw [pow_two, ← mul_assoc, div_mul_eq_mul_div (digits : ℚ)]
    gcongr
    norm_num [ulp]

end AppRafter.Lib.Binary64
