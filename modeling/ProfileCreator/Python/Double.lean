import ProfileCreator.Python.Builtins

/-! # Doubles

The reserved-CPU heuristic computes `int(cpus_per_node * 0.1)`. A double holds 53 significant
bits: `float(n)` rounds an int to the nearest double, ties to the one whose last bit is even, and
raises `OverflowError` from `floatOverflowBound` on; the product of two doubles is their exact
product rounded the same way (here it never leaves a double's range); `int()` truncates toward
zero.

* `nearestDouble_mono` — rounding to the nearest double never reverses an order, so neither does
  the truncated tenth (`truncatedTenth_mono`);
* `intTimesTenth_eq_ok_iff` — `int(n * 0.1)` raises exactly from `floatOverflowBound` on, and
  otherwise carries the sign of `n`.
-/

namespace ProfileCreator.Python

/-- `n` rounded to a multiple of `2 ^ shift`: the nearest one, the even multiple on a tie. -/
def roundToMultiple (shift n : Nat) : Nat :=
  let quotient := n / 2 ^ shift
  let remainder := n % 2 ^ shift
  (if 2 * remainder < 2 ^ shift ∨ 2 * remainder = 2 ^ shift ∧ quotient % 2 = 0 then quotient else quotient + 1) *
    2 ^ shift

/-- The low bits of `n` beyond the 53 a double keeps, counted by halving `n` at most `fuel`
times. -/
def droppedBits : (fuel n : Nat) → Nat
  | 0, _ => 0
  | fuel + 1, n => if n < 2 ^ 53 then 0 else droppedBits fuel (n / 2) + 1

/-- The double nearest to `n`. -/
def nearestDouble (n : Nat) : Nat := roundToMultiple (droppedBits n n) n

/-- The double `0.1` is `tenthNumerator / 2 ^ 55`. -/
def tenthNumerator : Nat := 3602879701896397

/-- `int(float(n) * 0.1)` for a natural number `n` within a double's range. -/
def truncatedTenth (n : Nat) : Nat := nearestDouble (nearestDouble n * tenthNumerator) / 2 ^ 55

/-- `int(n * 0.1)` for an int `n`: the truncated tenth of its magnitude, with its sign. -/
def intTimesTenth (n : Int) : Except PyError Int :=
  if intFitsFloat n then .ok (n.sign * truncatedTenth n.natAbs)
  else .error (.overflowError "int too large to convert to float")

/-! ## Rounding to a multiple of a power of two -/

section Rounding

variable (shift : Nat)

theorem roundToMultiple_of_mul (multiple : Nat) :
    roundToMultiple shift (multiple * 2 ^ shift) = multiple * 2 ^ shift := by
  have positive : 0 < 2 ^ shift := Nat.two_pow_pos shift
  simp [roundToMultiple, Nat.mul_div_cancel _ positive, Nat.mul_mod_left, positive]

theorem roundToMultiple_mono {smaller larger : Nat} (le : smaller ≤ larger) :
    roundToMultiple shift smaller ≤ roundToMultiple shift larger := by
  have smallerSplit := Nat.div_add_mod smaller (2 ^ shift)
  have largerSplit := Nat.div_add_mod larger (2 ^ shift)
  have remainderBound := Nat.mod_lt larger (Nat.two_pow_pos shift)
  have quotients : smaller / 2 ^ shift ≤ larger / 2 ^ shift := Nat.div_le_div_right le
  apply Nat.mul_le_mul_right
  rcases Nat.lt_or_eq_of_le quotients with below | same
  · split_ifs <;> omega
  · rw [same] at smallerSplit ⊢
    split_ifs <;> omega

end Rounding

/-! ## The exponent a double keeps -/

/-- A double's 53 bits and the dropped ones hold the whole number. -/
theorem lt_of_droppedBits : ∀ {fuel n : Nat}, n ≤ fuel → n < 2 ^ 53 * 2 ^ droppedBits fuel n
  | 0, n, bounded => by
    rw [droppedBits, Nat.le_zero.mp bounded]
    exact Nat.mul_pos (Nat.two_pow_pos 53) (Nat.two_pow_pos 0)
  | fuel + 1, n, bounded => by
    unfold droppedBits
    split_ifs with small
    · simpa using small
    · have halved := @lt_of_droppedBits fuel (n / 2) (by omega)
      rw [pow_succ 2 (droppedBits fuel (n / 2)), ← Nat.mul_assoc]
      omega

/-- A double drops bits only from a number of more than 53 bits. -/
theorem le_of_droppedBits : ∀ {fuel n : Nat}, 0 < droppedBits fuel n → 2 ^ 52 * 2 ^ droppedBits fuel n ≤ n
  | 0, _, dropped => by simp [droppedBits] at dropped
  | fuel + 1, n, dropped => by
    unfold droppedBits at dropped ⊢
    split_ifs at dropped ⊢ with small
    · exact absurd dropped (Nat.lt_irrefl 0)
    · rw [pow_succ 2 (droppedBits fuel (n / 2)), ← Nat.mul_assoc]
      rcases Nat.eq_zero_or_pos (droppedBits fuel (n / 2)) with none | some
      · rw [none]
        omega
      · have halved := le_of_droppedBits some
        omega

theorem droppedBits_mono {smaller larger : Nat} (le : smaller ≤ larger) :
    droppedBits smaller smaller ≤ droppedBits larger larger := by
  by_contra more
  have above := @le_of_droppedBits smaller smaller (by omega)
  have below := lt_of_droppedBits (Nat.le_refl larger)
  rw [← Nat.pow_add] at above below
  have exponents := (Nat.pow_lt_pow_iff_right (by decide : 1 < 2)).mp (Nat.lt_of_le_of_lt above (Nat.lt_of_le_of_lt le below))
  omega

/-- Rounding to the nearest double never reverses an order. -/
theorem nearestDouble_mono {smaller larger : Nat} (le : smaller ≤ larger) :
    nearestDouble smaller ≤ nearestDouble larger := by
  have exponents := droppedBits_mono le
  rcases Nat.lt_or_eq_of_le exponents with coarser | same
  · have bounded := lt_of_droppedBits (Nat.le_refl smaller)
    have large := @le_of_droppedBits larger larger (by omega)
    have apart : 2 ^ 53 * 2 ^ droppedBits smaller smaller ≤ 2 ^ 52 * 2 ^ droppedBits larger larger := by
      rw [← Nat.pow_add, ← Nat.pow_add]
      exact Nat.pow_le_pow_right (by decide) (by omega)
    calc nearestDouble smaller
        ≤ roundToMultiple (droppedBits smaller smaller) (2 ^ 53 * 2 ^ droppedBits smaller smaller) :=
          roundToMultiple_mono _ bounded.le
      _ = 2 ^ 53 * 2 ^ droppedBits smaller smaller := roundToMultiple_of_mul _ _
      _ ≤ 2 ^ 52 * 2 ^ droppedBits larger larger := apart
      _ = roundToMultiple (droppedBits larger larger) (2 ^ 52 * 2 ^ droppedBits larger larger) :=
          (roundToMultiple_of_mul _ _).symm
      _ ≤ nearestDouble larger := roundToMultiple_mono _ large
  · rw [nearestDouble, nearestDouble, same]
    exact roundToMultiple_mono _ le

/-! ## `int(n * 0.1)` -/

theorem truncatedTenth_mono {smaller larger : Nat} (le : smaller ≤ larger) :
    truncatedTenth smaller ≤ truncatedTenth larger :=
  Nat.div_le_div_right (nearestDouble_mono (Nat.mul_le_mul_right _ (nearestDouble_mono le)))

/-- `int(n * 0.1)` returns exactly when `float(n)` does, with the sign of `n`. -/
theorem intTimesTenth_eq_ok_iff (n tenth : Int) :
    intTimesTenth n = .ok tenth ↔ intFitsFloat n = true ∧ tenth = n.sign * truncatedTenth n.natAbs := by
  unfold intTimesTenth
  split_ifs with fits <;> simp only [fits, true_and, Except.ok.injEq, eq_comm, reduceCtorEq, false_and]

example : intTimesTenth 48 = .ok 4 ∧ intTimesTenth (-48) = .ok (-4) ∧
    intTimesTenth floatOverflowBound = .error (.overflowError "int too large to convert to float") := by
  decide

end ProfileCreator.Python
