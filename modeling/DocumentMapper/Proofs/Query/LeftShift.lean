import DocumentMapper.Proofs.Query.IntegerArithmetic
import Mathlib.Algebra.Order.GroupWithZero.Basic
import Mathlib.Algebra.Ring.Divisibility.Basic
import Mathlib.Tactic.Positivity

/-!
# Bits that leave a shifted integer

A shift to the left multiplies by a power of two. It is computed in 64 bits, and of what it
is to fail on only the amount is looked at: a product that leaves the 64 bits is not
noticed, unlike that of a multiplication, but reduced to what the 64 bits show of it. A
result for two short operands is then looked at once more, when it is made short again.

So bits are lost without a failure exactly if the product leaves the 64 bits and what they
show of it has the form of the result. In 32 bits that is zero: a short operand has to be
shifted by 32 bits at least to leave the 64 bits, and nothing else that ends in 32 zeros is
a short integer.

## Main definitions

* `ShiftsExactly`: A shift that gives the product or fails.
* `LosesBits`: The operands for which bits are lost without a failure.

## Theorems

* `leftShift_eq_ok_iff`: What is left of the product in 64 bits.
* `leftShift_fails`: A shift of integers fails as an evaluation.
* `short_holds_bmod_iff`: What is left of a short integer.
* `leftShift_exactly_iff`: Shifts of the values of two expressions.
-/

namespace DocumentMapper

/-- A shift to the left that gives the product with a power of two, in a form, or fails as
    an evaluation. -/
def ShiftsExactly (form : IntegerForm) (m n : Int) (x : Except QueryError Value) : Prop :=
  (∃ v, x = .ok v ∧ 0 ≤ n ∧ v.integer? = some (form, m * 2 ^ n.toNat)) ∨
    ∃ e, x = .error (.evaluation e)

/-- The operands for which bits are lost without a failure: the product leaves the 64 bits,
    and if the form is short, with all bits that are set. -/
structure LosesBits (form : IntegerForm) (m n : Int) : Prop where
  nonneg : 0 ≤ n
  small : n < 64
  leaves : ¬ IntegerForm.long.Holds (m * 2 ^ n.toNat)
  short : form = .short → 2 ^ 64 ∣ m * 2 ^ n.toNat

section

variable {form form' : IntegerForm} {a b v : Value} {m n k : Int}

theorem bmod_holds (k : Int) : IntegerForm.long.Holds (k.bmod (2 ^ 64)) := by
  have hlow := Int.le_bmod (x := k) (Nat.two_pow_pos 64)
  have hhigh := Int.bmod_lt (x := k) (Nat.two_pow_pos 64)
  unfold IntegerForm.Holds
  omega

theorem bmod_eq_self_iff : k.bmod (2 ^ 64) = k ↔ IntegerForm.long.Holds k := by
  constructor
  · intro h
    rw [← h]
    exact bmod_holds k
  · intro h
    unfold IntegerForm.Holds at h
    exact Int.bmod_eq_of_le (by omega) (by omega)

/-- What is left of the product in 64 bits, or a failure if the amount is none. -/
theorem Integers.shift_cases (m n : Int) :
    (0 ≤ n ∧ n < 64 ∧ Integers.apply .leftShift m n = .ok ((m * 2 ^ n.toNat).bmod (2 ^ 64))) ∨
      (¬ (0 ≤ n ∧ n < 64) ∧ ∃ e, Integers.apply .leftShift m n = evaluationFailure e) := by
  unfold Integers.apply Integers.exact Integers.shiftAmount
  -- An amount that is no number of 32 bits fails before it is compared with 64.
  by_cases hamount : 0 ≤ n ∧ n ≤ 4294967295
  · dsimp only
    rw [if_pos hamount, Except.ok_bind]
    by_cases hlarge : 64 ≤ n.toNat
    · rw [if_pos hlarge]
      exact .inr ⟨by omega, _, rfl⟩
    · rw [if_neg hlarge]
      refine .inl ⟨hamount.1, by omega, ?_⟩
      exact if_pos (fits64_iff.mpr (bmod_holds _))
  · dsimp only
    rw [if_neg hamount]
    exact .inr ⟨by omega, _, rfl⟩

/-- A shift of integers, in the form in which they meet. -/
theorem leftShift_eq_ok_iff (ha : a.integer? = some (form, m)) (hb : b.integer? = some (form', n)) :
    BinaryOp.leftShift.applyNumbers a b = .ok v ↔
      0 ≤ n ∧ n < 64 ∧ v.integer? = some (form.join form', (m * 2 ^ n.toNat).bmod (2 ^ 64)) := by
  rw [BinaryOp.applyNumbers_eq_ok ha hb]
  rcases Integers.shift_cases m n with ⟨hnonneg, hsmall, happly⟩ | ⟨hamount, e, happly⟩
  · rw [happly, and_iff_right hnonneg, and_iff_right hsmall]
    simp only [Except.ok.injEq, exists_eq_left']
  · rw [happly]
    constructor
    · rintro ⟨_, ⟨⟩, _⟩
    · rintro ⟨hnonneg, hsmall, _⟩
      exact absurd ⟨hnonneg, hsmall⟩ hamount

/-- A shift of integers fails as an evaluation. -/
theorem leftShift_fails {e : QueryError} (ha : a.integer? = some (form, m))
    (hb : b.integer? = some (form', n)) (h : BinaryOp.leftShift.applyNumbers a b = .error e) :
    ∃ f, e = .evaluation f := by
  rw [BinaryOp.applyNumbers_eq _ ha hb] at h
  rcases Integers.shift_cases m n with ⟨_, _, happly⟩ | ⟨_, f, happly⟩
  · rw [happly, Except.ok_bind] at h
    cases hjoin : form.join form' with
    | short =>
        rw [hjoin, IntegerForm.result] at h
        split at h
        · cases h
        · cases h
          exact ⟨_, rfl⟩
    | long =>
        rw [hjoin] at h
        cases h
  · rw [happly] at h
    cases h
    exact ⟨f, rfl⟩

/-- Shifted by fewer than 32 bits, a short integer stays within the 64 bits. -/
theorem shifted_holds {amount : Nat} (hm : IntegerForm.short.Holds m) (hamount : amount < 32) :
    IntegerForm.long.Holds (m * 2 ^ amount) := by
  have hpow : (2 : Int) ^ amount ≤ 2 ^ 31 := pow_le_pow_right₀ (by decide) (by omega)
  have hpos : (0 : Int) ≤ 2 ^ amount := by
    positivity
  have hlow : -2 ^ 31 * 2 ^ amount ≤ m * 2 ^ amount := mul_le_mul_of_nonneg_right hm.1 hpos
  have hhigh : m * 2 ^ amount ≤ (2 ^ 31 - 1) * 2 ^ amount :=
    mul_le_mul_of_nonneg_right (Int.le_sub_one_of_lt hm.2) hpos
  unfold IntegerForm.Holds
  generalize (2 : Int) ^ amount = factor at *
  omega

/-- What is left of a product keeps the zeros that the product ends in. -/
theorem dvd_bmod {zeros : Nat} (hzeros : zeros ≤ 64) (h : (2 : Int) ^ zeros ∣ k) :
    (2 : Int) ^ zeros ∣ k.bmod (2 ^ 64) := by
  rw [← Int.bmod_add_bdiv k (2 ^ 64)] at h
  have hleft : (2 : Int) ^ zeros ∣ ((2 ^ 64 : Nat) : Int) * k.bdiv (2 ^ 64) :=
    Dvd.dvd.mul_right (pow_dvd_pow 2 hzeros) _
  exact (dvd_add_left hleft).mp h

/-- What has left the 64 bits is short only if all bits that are set have left. -/
theorem short_holds_bmod_iff (hm : IntegerForm.short.Holds m)
    (hleaves : ¬ IntegerForm.long.Holds (m * 2 ^ n.toNat)) :
    IntegerForm.short.Holds ((m * 2 ^ n.toNat).bmod (2 ^ 64)) ↔ 2 ^ 64 ∣ m * 2 ^ n.toNat := by
  have hlarge : 32 ≤ n.toNat := by
    by_contra hfew
    exact hleaves (shifted_holds hm (by omega))
  have hzeros : (2 : Int) ^ 32 ∣ (m * 2 ^ n.toNat).bmod (2 ^ 64) :=
    dvd_bmod (by decide) (Dvd.dvd.mul_left (pow_dvd_pow 2 hlarge) m)
  have hdvd : (2 ^ 64 : Int) ∣ m * 2 ^ n.toNat ↔ (m * 2 ^ n.toNat).bmod (2 ^ 64) = 0 :=
    Int.dvd_iff_bmod_eq_zero
  rw [hdvd]
  -- Of the numbers that end in 32 zeros only zero is short.
  unfold IntegerForm.Holds
  omega

/-- The operands for which bits are lost are those for which a value is given that is not the
    product. -/
theorem losesBits_iff (hm : form.Holds m) :
    LosesBits (form.join form') m n ↔
      0 ≤ n ∧ n < 64 ∧ ¬ IntegerForm.long.Holds (m * 2 ^ n.toNat) ∧
        (form.join form').Holds ((m * 2 ^ n.toNat).bmod (2 ^ 64)) := by
  -- In the short form all bits are lost or the rest is too large; in the long form any rest is
  -- held.
  have hform : ¬ IntegerForm.long.Holds (m * 2 ^ n.toNat) →
      ((form.join form' = .short → 2 ^ 64 ∣ m * 2 ^ n.toNat) ↔
        (form.join form').Holds ((m * 2 ^ n.toNat).bmod (2 ^ 64))) := by
    intro hleaves
    cases hjoin : form.join form' with
    | short =>
        rcases form with _ | _ <;> rcases form' with _ | _ <;> cases hjoin
        rw [short_holds_bmod_iff hm hleaves]
        exact ⟨fun h => h rfl, fun h _ => h⟩
    | long => exact iff_of_true nofun (bmod_holds _)
  constructor
  · rintro ⟨hnonneg, hsmall, hleaves, hshort⟩
    exact ⟨hnonneg, hsmall, hleaves, (hform hleaves).mp hshort⟩
  · rintro ⟨hnonneg, hsmall, hleaves, hholds⟩
    exact ⟨hnonneg, hsmall, hleaves, (hform hleaves).mpr hholds⟩

/-- A shift gives the product or fails unless bits are lost. -/
theorem shiftsExactly_iff (ha : a.integer? = some (form, m)) (hb : b.integer? = some (form', n)) :
    ShiftsExactly (form.join form') m n (BinaryOp.leftShift.applyNumbers a b) ↔
      ¬ LosesBits (form.join form') m n := by
  have hm := (integer?_eq_some_iff.mp ha).1
  rw [losesBits_iff hm]
  constructor
  · rintro hexactly ⟨hnonneg, hsmall, hleaves, hholds⟩
    -- What is left has the form, so the shift does not fail, and it is not the product.
    have hvalue := (leftShift_eq_ok_iff ha hb).mpr
      ⟨hnonneg, hsmall, integer?_eq_some_iff.mpr ⟨hholds, rfl⟩⟩
    rcases hexactly with ⟨v, hv, _, hproduct⟩ | ⟨e, he⟩
    · exact hleaves (integer?_eq_some_iff.mp hproduct).1.long
    · cases he.symm.trans hvalue
  · intro hkept
    cases hx : BinaryOp.leftShift.applyNumbers a b with
    | error e =>
        rcases leftShift_fails ha hb hx with ⟨f, rfl⟩
        exact .inr ⟨f, rfl⟩
    | ok v =>
        rcases (leftShift_eq_ok_iff ha hb).mp hx with ⟨hnonneg, hsmall, hv⟩
        refine .inl ⟨v, rfl, hnonneg, ?_⟩
        -- A product that stays within the 64 bits is not reduced.
        have hholds := (integer?_eq_some_iff.mp hv).1
        have hstays : IntegerForm.long.Holds (m * 2 ^ n.toNat) := by
          by_contra hleaves
          exact hkept ⟨hnonneg, hsmall, hleaves, hholds⟩
        rw [bmod_eq_self_iff.mpr hstays] at hv
        exact hv

end

namespace Expr

variable {row : Option Document} {l r : Expr} {form form' : IntegerForm} {m n : Int}

/-- A shift to the left of integers by integers gives what is left of the product in 64 bits
    if the form holds that, and fails as an evaluation otherwise. So it gives the product or
    fails for exactly those operands for which no bits are lost. -/
theorem leftShift_exactly_iff (hm : form.Holds m) (hn : form'.Holds n)
    (hl : l.evaluate row = .ok (form.value m)) (hr : r.evaluate row = .ok (form'.value n)) :
    (∀ v, (binary .leftShift l r).evaluate row = .ok v ↔
      0 ≤ n ∧ n < 64 ∧ v.integer? = some (form.join form', (m * 2 ^ n.toNat).bmod (2 ^ 64))) ∧
    (∀ e, (binary .leftShift l r).evaluate row = .error e → ∃ f, e = .evaluation f) ∧
    (ShiftsExactly (form.join form') m n ((binary .leftShift l r).evaluate row) ↔
      ¬ LosesBits (form.join form') m n) := by
  have ha := integer?_eq_some_iff.mpr ⟨hm, rfl⟩
  have hb := integer?_eq_some_iff.mpr ⟨hn, rfl⟩
  rw [evaluate_of_values rfl hl hr]
  exact ⟨fun v => leftShift_eq_ok_iff ha hb, fun e => leftShift_fails ha hb,
    shiftsExactly_iff ha hb⟩

end Expr

namespace Doubling

/-- A row with a number of 32 bits, one of 64 bits and an amount. -/
def row : Document :=
  .ofList [("A", .int32 3), ("B", .int64 4611686018427387904), ("N", .int64 2)]

def small : Expr :=
  .field ⟨"t0", "A"⟩

def large : Expr :=
  .field ⟨"t0", "B"⟩

def twice : Expr :=
  .field ⟨"t0", "N"⟩

/-- Three doubled twice is twelve, in the form of the amount. -/
theorem three_doubled_twice :
    IntegerForm.short.Holds 3 ∧ IntegerForm.long.Holds 2 ∧
      small.evaluate (some row) = .ok (IntegerForm.short.value 3) ∧
      twice.evaluate (some row) = .ok (IntegerForm.long.value 2) ∧
      (Expr.binary .leftShift small twice).evaluate (some row) = .ok (.int64 12) ∧
      ShiftsExactly .long 3 2 ((Expr.binary .leftShift small twice).evaluate (some row)) := by
  have hm : IntegerForm.short.Holds 3 := by
    unfold IntegerForm.Holds
    omega
  have hn : IntegerForm.long.Holds 2 := by
    unfold IntegerForm.Holds
    omega
  have hl : small.evaluate (some row) = .ok (IntegerForm.short.value 3) := by
    rfl
  have hr : twice.evaluate (some row) = .ok (IntegerForm.long.value 2) := by
    rfl
  rcases Expr.leftShift_exactly_iff hm hn hl hr with ⟨hvalue, _, hexactly⟩
  refine ⟨hm, hn, hl, hr, (hvalue _).mpr ⟨by decide, by decide, rfl⟩, hexactly.mpr fun hlost => ?_⟩
  have hstays : IntegerForm.long.Holds (3 * 2 ^ (2 : Int).toNat) := by
    unfold IntegerForm.Holds
    decide
  exact hlost.leaves hstays

/-- The power of two with the exponent 62 doubled twice is zero. -/
theorem large_doubled_twice :
    (Expr.binary .leftShift large twice).evaluate (some row) = .ok (.int64 0) ∧
      ¬ ShiftsExactly .long 4611686018427387904 2
        ((Expr.binary .leftShift large twice).evaluate (some row)) := by
  have hvalue : (Expr.binary .leftShift large twice).evaluate (some row) = .ok (.int64 0) := by
    rfl
  refine ⟨hvalue, ?_⟩
  rintro (⟨v, hv, _, hproduct⟩ | ⟨e, he⟩)
  · cases hvalue.symm.trans hv
    exact absurd hproduct (by decide)
  · cases hvalue.symm.trans he

end Doubling

end DocumentMapper
