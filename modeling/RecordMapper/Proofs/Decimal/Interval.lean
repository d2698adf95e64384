import Mathlib.Algebra.Order.Field.Power
import Mathlib.Tactic.Positivity
import RecordMapper.Decimal.Shortest
import RecordMapper.Proofs.Decimal.Double
/-! # The numbers that read back as a double

Around each double lies an interval of numbers that are rounded to it (`Binary.Rounds`).  The shortest
decimal of a double lies in its interval (`rounds_shortest`), and two doubles have no number of their
intervals in common (`eq_of_rounds`): where intervals touch, one of the two has not got its end. -/
set_option autoImplicit false
namespace RecordMapper.Decimal

namespace Scientific

def value (d : Scientific) : ℚ := d.coefficient * 10 ^ d.exponent

theorem value_strip (n : Nat) (d : Scientific) : (strip n d).value = d.value := by
  induction n generalizing d with
  | zero => rfl
  | succ n ih =>
      rw [strip]
      split
      · next zero =>
          have divides : 10 ∣ d.coefficient := by
            simp only [Bool.and_eq_true, beq_iff_eq] at zero
            exact Nat.dvd_of_mod_eq_zero zero.2
          have ten : ((d.coefficient / 10 : Nat) : ℚ) * 10 = d.coefficient := by
            exact_mod_cast Nat.div_mul_cancel divides
          rw [ih, value, value, zpow_add_one₀ (by norm_num), ← ten]
          ring
      · rfl

end Scientific

/-! ## Exact comparison -/

theorem compareScaled_scale (a n : Nat) (i j : Int) : ∃ scale : ℚ, 0 < scale ∧
    (((a * Nat.pow 10 i.toNat) <<< (-j).toNat : Nat) : ℚ) = a * 10 ^ i * scale ∧
    (((n * Nat.pow 10 (-i).toNat) <<< j.toNat : Nat) : ℚ) = n * 2 ^ j * scale := by
  have split (base : ℚ) (nonzero : base ≠ 0) (k : Int) :
      base ^ k.toNat = base ^ k * base ^ (-k).toNat := by
    rw [← zpow_natCast, ← zpow_natCast, ← zpow_add₀ nonzero]
    congr 1
    omega
  refine ⟨10 ^ (-i).toNat * 2 ^ (-j).toNat, by positivity, ?_, ?_⟩
  · rw [Nat.shiftLeft_eq, Nat.pow_eq]
    push_cast
    rw [split 10 (by norm_num) i]
    ring
  · rw [Nat.shiftLeft_eq, Nat.pow_eq]
    push_cast
    rw [split 2 (by norm_num) j]
    ring

theorem compareScaled_eq (a n : Nat) (i j : Int) :
    compareScaled a i n j = compare ((a : ℚ) * 10 ^ i) (n * 2 ^ j) := by
  obtain ⟨scale, positive, left, right⟩ := compareScaled_scale a n i j
  rw [compareScaled]
  generalize (a * Nat.pow 10 i.toNat) <<< (-j).toNat = x at left ⊢
  generalize (n * Nat.pow 10 (-i).toNat) <<< j.toNat = y at right ⊢
  have order : x < y ↔ (a : ℚ) * 10 ^ i < n * 2 ^ j := by
    rw [← Nat.cast_lt (α := ℚ), left, right, mul_lt_mul_iff_left₀ positive]
  have order' : y < x ↔ (n : ℚ) * 2 ^ j < a * 10 ^ i := by
    rw [← Nat.cast_lt (α := ℚ), left, right, mul_lt_mul_iff_left₀ positive]
  rcases lt_trichotomy x y with less | same | more
  · rw [Nat.compare_eq_lt.mpr less, compare_lt_iff_lt.mpr (order.mp less)]
  · subst same
    have equal := le_antisymm (not_lt.mp fun less => lt_irrefl x (order'.mpr less))
      (not_lt.mp fun less => lt_irrefl x (order.mpr less))
    rw [Nat.compare_eq_eq.mpr rfl, compare_eq_iff_eq.mpr equal]
  · rw [Nat.compare_eq_gt.mpr more, compare_gt_iff_gt.mpr (order'.mp more)]

/-! ## Intervals -/

namespace Binary

def low (b : Binary) : Nat := if b.narrowBelow then 4 * b.mantissa - 1 else 4 * b.mantissa - 2

/-- The number `v` lies in the interval of `b`.  The ends belong to it where the mantissa is even. -/
structure Rounds (b : Binary) (v : ℚ) : Prop where
  above : b.low * 2 ^ (b.exponent - 2) ≤ v
  below : v ≤ (4 * b.mantissa + 2 : Nat) * 2 ^ (b.exponent - 2)
  ends : b.mantissa % 2 = 1 →
    b.low * 2 ^ (b.exponent - 2) < v ∧ v < (4 * b.mantissa + 2 : Nat) * 2 ^ (b.exponent - 2)

theorem reads_iff {b : Binary} {d : Scientific} : b.reads d = true ↔ b.Rounds d.value := by
  have parity := Nat.mod_two_eq_zero_or_one b.mantissa
  rw [reads, compareScaled_eq, compareScaled_eq]
  show ((compare d.value (b.low * 2 ^ (b.exponent - 2)) == .gt ||
      b.mantissa % 2 == 0 && compare d.value (b.low * 2 ^ (b.exponent - 2)) == .eq) &&
    (compare d.value ((4 * b.mantissa + 2 : Nat) * 2 ^ (b.exponent - 2)) == .lt ||
      b.mantissa % 2 == 0 &&
        compare d.value ((4 * b.mantissa + 2 : Nat) * 2 ^ (b.exponent - 2)) == .eq)) = true ↔ _
  simp only [Bool.and_eq_true, Bool.or_eq_true, beq_iff_eq, compare_gt_iff_gt, compare_eq_iff_eq,
    compare_lt_iff_lt]
  constructor
  · rintro ⟨above, below⟩
    constructor
    · rcases above with more | ⟨-, same⟩
      · exact le_of_lt more
      · exact le_of_eq same.symm
    · rcases below with less | ⟨-, same⟩
      · exact le_of_lt less
      · exact le_of_eq same
    · intro odd
      refine ⟨above.resolve_right ?_, below.resolve_right ?_⟩ <;> omega
  · rintro ⟨above, below, ends⟩
    rcases parity with even | odd
    · refine ⟨?_, ?_⟩
      · exact (lt_or_eq_of_le above).imp_right fun same => ⟨even, same.symm⟩
      · exact (lt_or_eq_of_le below).imp_right fun same => ⟨even, same⟩
    · exact ⟨.inl (ends odd).1, .inl (ends odd).2⟩

/-! ## The shortest decimal -/

theorem nearerOn_cases (b : Binary) (tie : Tie) (grid : Int) (n : Nat) :
    b.nearerOn tie grid n = n ∨ b.nearerOn tie grid n = n + 1 := by
  rw [nearerOn]
  split
  · exact .inr rfl
  · exact .inl rfl
  · split
    · exact .inl rfl
    · exact .inr rfl

theorem rounds_onGrid {b : Binary} {tie : Tie} {grid : Int} {d : Scientific}
    (found : b.onGrid? tie grid = some d) : b.Rounds d.value := by
  rw [onGrid?] at found
  split at found
  · next floor ceiling =>
      obtain rfl := Option.some.inj found
      rcases b.nearerOn_cases tie grid (b.floorOn grid) with same | same <;> rw [same]
      · exact reads_iff.mp floor
      · exact reads_iff.mp ceiling
  · next floor ceiling =>
      obtain rfl := Option.some.inj found
      exact reads_iff.mp floor
  · next floor ceiling =>
      obtain rfl := Option.some.inj found
      exact reads_iff.mp ceiling
  · cases found

theorem value_exact (b : Binary) : b.exact.value = b.mantissa * 2 ^ b.exponent := by
  obtain ⟨mantissa, exponent, narrow⟩ := b
  rw [exact]
  dsimp only
  rcases Int.eq_nat_or_neg exponent with ⟨n, rfl | rfl⟩
  · rw [if_pos (by omega), Scientific.value, Int.toNat_natCast, Nat.shiftLeft_eq]
    push_cast
    rw [zpow_natCast, mul_one]
  · by_cases none : n = 0
    · subst none
      simp [Scientific.value]
    · have ten : (10 : ℚ) ^ n = 5 ^ n * 2 ^ n := by
        rw [← mul_pow]
        norm_num
      rw [if_neg (by omega), Scientific.value, neg_neg, Int.toNat_natCast, Nat.pow_eq]
      push_cast
      rw [zpow_neg, zpow_neg, zpow_natCast, zpow_natCast, ten, mul_inv, mul_assoc, ← mul_assoc (5 ^ n),
        mul_inv_cancel₀ (by positivity), one_mul]

theorem two_zpow_quarter (e : Int) : (2 : ℚ) ^ e = 4 * 2 ^ (e - 2) := by
  rw [zpow_sub₀ (by norm_num)]
  ring

theorem low_lt {b : Binary} (positive : 0 < b.mantissa) : b.low < 4 * b.mantissa := by
  rw [low]
  split <;> omega

theorem rounds_self {b : Binary} (positive : 0 < b.mantissa) :
    b.Rounds (b.mantissa * 2 ^ b.exponent) := by
  have unit : (0 : ℚ) < 2 ^ (b.exponent - 2) := by positivity
  have quarters : (b.mantissa : ℚ) * 2 ^ b.exponent =
      (4 * b.mantissa : Nat) * 2 ^ (b.exponent - 2) := by
    rw [two_zpow_quarter]
    push_cast
    ring
  have above : (b.low : ℚ) * 2 ^ (b.exponent - 2) < (4 * b.mantissa : Nat) * 2 ^ (b.exponent - 2) := by
    apply mul_lt_mul_of_pos_right _ unit
    exact_mod_cast low_lt positive
  have below : ((4 * b.mantissa : Nat) : ℚ) * 2 ^ (b.exponent - 2) <
      (4 * b.mantissa + 2 : Nat) * 2 ^ (b.exponent - 2) := by
    apply mul_lt_mul_of_pos_right _ unit
    exact_mod_cast Nat.lt_add_of_pos_right (by decide)
  rw [quarters]
  exact ⟨le_of_lt above, le_of_lt below, fun _ => ⟨above, below⟩⟩

theorem rounds_zero {b : Binary} (zero : b.mantissa = 0) : b.Rounds 0 := by
  have low : b.low = 0 := by
    rw [Binary.low, zero]
    split <;> rfl
  constructor
  · simp [low]
  · positivity
  · intro odd
    omega

/-- The digits that are chosen for a double are rounded to it. -/
theorem rounds_shortest (b : Binary) (tie : Tie) : b.Rounds (b.shortest tie).value := by
  rw [shortest]
  split
  · next zero =>
      rw [show (Scientific.mk 0 0).value = 0 by simp [Scientific.value]]
      exact rounds_zero zero
  · next some =>
      dsimp only
      rw [Scientific.value_strip]
      cases found : (List.range 17).findSome? fun (i : Nat) => b.onGrid? tie (b.magnitude - 1 - i) with
      | none =>
          rw [Option.getD_none, value_exact]
          exact rounds_self (Nat.pos_of_ne_zero some)
      | some chosen =>
          obtain ⟨i, -, there⟩ := List.exists_of_findSome?_eq_some found
          rw [Option.getD_some]
          exact rounds_onGrid there

/-! ## Intervals apart -/

/-- How the mantissa and the exponent of a double are chosen: all 53 bits are used, unless the exponent
is the least. -/
structure Canonical (b : Binary) : Prop where
  short : b.mantissa < 2 ^ 53
  least : -1074 ≤ b.exponent
  full : b.exponent ≠ -1074 → 2 ^ 52 ≤ b.mantissa
  narrow : b.narrowBelow = true ↔ b.mantissa = 2 ^ 52 ∧ b.exponent ≠ -1074

/-- Where one double comes before another, so do their intervals, and they touch only where one of the
two has not got its end. -/
theorem high_le_low {b c : Binary} (first : b.Canonical) (second : c.Canonical) {k : Nat}
    (apart : c.exponent = b.exponent + k) (before : k = 0 → b.mantissa < c.mantissa) :
    4 * b.mantissa + 2 ≤ c.low * 2 ^ k ∧
      (4 * b.mantissa + 2 = c.low * 2 ^ k → b.mantissa % 2 = 1 ∨ c.mantissa % 2 = 1) := by
  have short := first.short
  cases k with
  | zero =>
      have before := before rfl
      rw [pow_zero, mul_one, low]
      split
      · omega
      · omega
  | succ j =>
      have least := first.least
      have full := second.full (by omega)
      have narrow := second.narrow
      have large : 2 ^ 54 - 1 ≤ c.low := by
        rw [low]
        split
        · omega
        · next wide =>
            have more : c.mantissa ≠ 2 ^ 52 := fun same => wide (narrow.mpr ⟨same, by omega⟩)
            omega
      have power : c.low * 2 ≤ c.low * 2 ^ (j + 1) := by
        apply Nat.mul_le_mul_left
        rw [pow_succ]
        have positive := Nat.two_pow_pos j
        omega
      omega

/-- No number lies in the intervals of two doubles one of which comes before the other. -/
theorem not_rounds_both {b c : Binary} (first : b.Canonical) (second : c.Canonical) {k : Nat}
    (apart : c.exponent = b.exponent + k) (before : k = 0 → b.mantissa < c.mantissa) {v : ℚ}
    (one : b.Rounds v) : ¬ c.Rounds v := by
  intro other
  obtain ⟨order, touch⟩ := high_le_low first second apart before
  have unit : (0 : ℚ) < 2 ^ (b.exponent - 2) := by positivity
  have end' : (c.low : ℚ) * 2 ^ (c.exponent - 2) =
      (c.low * 2 ^ k : Nat) * 2 ^ (b.exponent - 2) := by
    rw [apart, add_sub_right_comm, zpow_add₀ (by norm_num), zpow_natCast]
    push_cast
    ring
  have above := other.above
  have ends := other.ends
  rw [end'] at above ends
  have meet := above.trans one.below
  have same : 4 * b.mantissa + 2 = c.low * 2 ^ k := by
    apply Nat.le_antisymm order
    exact_mod_cast le_of_mul_le_mul_right meet unit
  rw [← same] at above ends
  rcases touch same with odd | odd
  · exact absurd above (not_le.mpr (one.ends odd).2)
  · exact absurd one.below (not_le.mpr (ends odd).1)

/-- A number is rounded to one double only. -/
theorem eq_of_rounds {b c : Binary} (first : b.Canonical) (second : c.Canonical) {v : ℚ}
    (one : b.Rounds v) (other : c.Rounds v) :
    b.mantissa = c.mantissa ∧ b.exponent = c.exponent := by
  rcases lt_trichotomy b.exponent c.exponent with less | same | more
  · obtain ⟨k, apart⟩ := Int.le.dest (le_of_lt less)
    exact absurd other (not_rounds_both first second apart.symm (by omega) one)
  · rcases lt_trichotomy b.mantissa c.mantissa with less | same' | more
    · exact absurd other (not_rounds_both first second (k := 0) (by omega) (fun _ => less) one)
    · exact ⟨same', same⟩
    · exact absurd one (not_rounds_both second first (k := 0) (by omega) (fun _ => more) other)
  · obtain ⟨k, apart⟩ := Int.le.dest (le_of_lt more)
    exact absurd one (not_rounds_both second first apart.symm (by omega) other)

end Binary

end RecordMapper.Decimal
