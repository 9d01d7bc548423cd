import Mathlib.Algebra.Group.Int.Defs
import DocumentMapper.Proofs.Query.Comparison
import DocumentMapper.Proofs.Query.Rebuilding

/-!
# Exact arithmetic on integers

What the arithmetical operators compute from two integers is what arithmetic says, in the
form of 32 bits if both operands have it and of 64 bits otherwise. The result is said here
without reference to how it is computed (`BinaryOp.Computes`): sums, differences and
products as such, and quotient and remainder by what ties them to dividend and divisor.
An operator fails exactly where arithmetic has no result or the form does not hold it,
and for one remainder more: the least number of 64 bits is not divided by minus one, not
even for a remainder of zero.

Where the operands come from makes no difference, so an operator on constants is folded to
the value that it has on a row which holds the operands.

## Main definitions

* `IntegerForm`, `Value.integer?`: The two forms, and values as numbers in a form.
* `DividesTo`, `BinaryOp.Computes`: What arithmetic says.
* `BinaryOp.Undefined`: The operands for which an operator is not defined.
* `Exactly`: A computation that gives such numbers and fails where it has to.

## Theorems

* `dividesTo_iff`: Quotient and remainder.
* `applyNumbers_eq`: Integers are computed with in 64 bits.
* `applyNumbers_eq_ok_iff`: What an operator gives for two integers.
* `integers_exact`: Expressions on integers, evaluated and folded.
-/

namespace DocumentMapper

/-! ### Numbers in a form -/

/-- A form of integers: 32 or 64 bits. -/
inductive IntegerForm where
  | short
  | long
deriving DecidableEq

namespace IntegerForm

/-- Whether a form holds a number. -/
def Holds : IntegerForm → Int → Prop
  | short, n => -2 ^ 31 ≤ n ∧ n < 2 ^ 31
  | long, n => -2 ^ 63 ≤ n ∧ n < 2 ^ 63

/-- The form in which operands of two forms meet. -/
def join : IntegerForm → IntegerForm → IntegerForm
  | short, short => short
  | _, _ => long

/-- A number as a value. -/
def value : IntegerForm → Int → Value
  | short, n => .int32 (.ofInt n)
  | long, n => .int64 (.ofInt n)

theorem Holds.long {form : IntegerForm} {n : Int} (h : form.Holds n) : long.Holds n := by
  cases form with
  | short =>
      simp only [Holds] at h ⊢
      omega
  | long => exact h

end IntegerForm

/-- The number that a value is, with its form. -/
def Value.integer? : Value → Option (IntegerForm × Int)
  | .int32 n => some (.short, n.toInt)
  | .int64 n => some (.long, n.toInt)
  | _ => none

section

variable {form form' : IntegerForm} {a b v : Value} {k m n q r : Int} {op : BinaryOp}

/-- A number is a value in a form exactly if the form holds it. -/
theorem integer?_eq_some_iff :
    v.integer? = some (form, n) ↔ form.Holds n ∧ v = form.value n := by
  constructor
  · intro h
    -- Only the two integer forms are integers, each within its range.
    cases v <;> cases h
    · exact ⟨⟨Int32.le_toInt _, Int32.toInt_lt _⟩, by rw [IntegerForm.value, Int32.ofInt_toInt]⟩
    · exact ⟨⟨Int64.le_toInt _, Int64.toInt_lt _⟩, by rw [IntegerForm.value, Int64.ofInt_toInt]⟩
  · rintro ⟨hholds, rfl⟩
    cases form with
    | short => rw [IntegerForm.value, Value.integer?, Int32.toInt_ofInt_of_le hholds.1 hholds.2]
    | long => rw [IntegerForm.value, Value.integer?, Int64.toInt_ofInt_of_le hholds.1 hholds.2]

theorem fits32_iff : Integers.fits32 n = true ↔ IntegerForm.short.Holds n := by
  unfold Integers.fits32 IntegerForm.Holds
  rw [Bool.and_eq_true, decide_eq_true_eq, decide_eq_true_eq]
  omega

theorem fits64_iff : Integers.fits64 n = true ↔ IntegerForm.long.Holds n := by
  unfold Integers.fits64 IntegerForm.Holds
  rw [Bool.and_eq_true, decide_eq_true_eq, decide_eq_true_eq]
  omega

/-- Every integer is one of 64 bits for an operator that needs it so. -/
theorem asInt64?_of_integer? (h : v.integer? = some (form, n)) :
    ∃ i, v.asInt64? = some i ∧ i.toInt = n := by
  cases v <;> cases h
  · exact ⟨_, rfl, Int32.toInt_toInt64 _⟩
  · exact ⟨_, rfl, rfl⟩

/-! ### What arithmetic says -/

/-- Division toward zero: what is left of the dividend is smaller than the divisor and has
    the sign of the dividend. -/
structure DividesTo (m n q r : Int) : Prop where
  whole : m = n * q + r
  small : r.natAbs < n.natAbs
  nonneg : 0 ≤ m → 0 ≤ r
  nonpos : m ≤ 0 → r ≤ 0

/-- There is exactly one such division unless the divisor is zero. -/
theorem dividesTo_iff : DividesTo m n q r ↔ n ≠ 0 ∧ q = m.tdiv n ∧ r = m.tmod n := by
  constructor
  · rintro ⟨hwhole, hsmall, hnonneg, hnonpos⟩
    have hn : n ≠ 0 := by omega
    -- The remainder has the sign of the dividend, so quotients are unique on each side of zero.
    rcases Int.le_total 0 m with hm | hm
    · have h := (Int.tdiv_tmod_unique hm hn (q := q) (r := r)).mpr
        ⟨by omega, hnonneg hm, by have := hnonneg hm; omega⟩
      exact ⟨hn, h.1.symm, h.2.symm⟩
    · have h := (Int.tdiv_tmod_unique' hm hn (q := q) (r := r)).mpr
        ⟨by omega, by have := hnonpos hm; omega, hnonpos hm⟩
      exact ⟨hn, h.1.symm, h.2.symm⟩
  · rintro ⟨hn, rfl, rfl⟩
    constructor
    · exact (Int.mul_tdiv_add_tmod m n).symm
    · rw [Int.natAbs_tmod]
      exact Nat.mod_lt _ (by omega)
    · exact Int.tmod_nonneg n
    · intro hm
      exact ((Int.tdiv_tmod_unique' hm hn).mp ⟨rfl, rfl⟩).2.2

/-- The operators of arithmetic. -/
def BinaryOp.arithmetic : List BinaryOp :=
  [.add, .subtract, .multiply, .divide, .modulo]

theorem BinaryOp.mem_arithmetic : op ∈ arithmetic ↔
    op = .add ∨ op = .subtract ∨ op = .multiply ∨ op = .divide ∨ op = .modulo := by
  simp [arithmetic]

/-- The result of an operator on two numbers. -/
inductive BinaryOp.Computes : BinaryOp → Int → Int → Int → Prop
  | add (m n : Int) : Computes .add m n (m + n)
  | subtract (m n : Int) : Computes .subtract m n (m - n)
  | multiply (m n : Int) : Computes .multiply m n (m * n)
  | divide {m n q r : Int} (h : DividesTo m n q r) : Computes .divide m n q
  | modulo {m n q r : Int} (h : DividesTo m n q r) : Computes .modulo m n r

/-- The operands for which an operator is not defined in a form. -/
def BinaryOp.Undefined (op : BinaryOp) (form : IntegerForm) (m n : Int) : Prop :=
  (op = .divide ∨ op = .modulo) ∧ n = 0 ∨
    op = .modulo ∧ form = .long ∧ m = -2 ^ 63 ∧ n = -1

namespace BinaryOp

theorem computes_add_iff : Computes .add m n k ↔ k = m + n := by
  constructor
  · rintro ⟨⟩
    rfl
  · rintro rfl
    exact .add m n

theorem computes_subtract_iff : Computes .subtract m n k ↔ k = m - n := by
  constructor
  · rintro ⟨⟩
    rfl
  · rintro rfl
    exact .subtract m n

theorem computes_multiply_iff : Computes .multiply m n k ↔ k = m * n := by
  constructor
  · rintro ⟨⟩
    rfl
  · rintro rfl
    exact .multiply m n

theorem computes_divide_iff : Computes .divide m n k ↔ n ≠ 0 ∧ k = m.tdiv n := by
  constructor
  · rintro ⟨⟩
    next h => exact ⟨(dividesTo_iff.mp h).1, (dividesTo_iff.mp h).2.1⟩
  · rintro ⟨hn, hk⟩
    exact .divide (dividesTo_iff.mpr ⟨hn, hk, rfl⟩)

theorem computes_modulo_iff : Computes .modulo m n k ↔ n ≠ 0 ∧ k = m.tmod n := by
  constructor
  · rintro ⟨⟩
    next h => exact ⟨(dividesTo_iff.mp h).1, (dividesTo_iff.mp h).2.2⟩
  · rintro ⟨hn, hk⟩
    exact .modulo (dividesTo_iff.mpr ⟨hn, rfl, hk⟩)

theorem undefined_divide_iff : Undefined .divide form m n ↔ n = 0 := by
  simp [Undefined]

theorem undefined_modulo_iff :
    Undefined .modulo form m n ↔ n = 0 ∨ form = .long ∧ m = -2 ^ 63 ∧ n = -1 := by
  simp [Undefined]

/-- The least number of 64 bits is no short operand. -/
theorem undefined_short_iff (h : IntegerForm.short.Holds m) :
    op.Undefined .long m n ↔ op.Undefined .short m n := by
  have hm : m ≠ -2 ^ 63 := by
    unfold IntegerForm.Holds at h
    omega
  constructor
  · rintro (h | ⟨_, _, hleast, _⟩)
    · exact .inl h
    · exact absurd hleast hm
  · rintro (h | ⟨_, _, hleast, _⟩)
    · exact .inl h
    · exact absurd hleast hm

theorem not_undefined (hdivide : op ≠ .divide) (hmodulo : op ≠ .modulo) :
    ¬ op.Undefined form m n := by
  simp [Undefined, hdivide, hmodulo]

/-- There is a result wherever the operator is defined, and never more than one. -/
theorem existsUnique_computes (hop : op ∈ arithmetic) (h : ¬ op.Undefined form m n) :
    ∃ k, op.Computes m n k ∧ ∀ k', op.Computes m n k' → k' = k := by
  rcases BinaryOp.mem_arithmetic.mp hop with rfl | rfl | rfl | rfl | rfl
  · exact ⟨m + n, .add m n, fun _ => computes_add_iff.mp⟩
  · exact ⟨m - n, .subtract m n, fun _ => computes_subtract_iff.mp⟩
  · exact ⟨m * n, .multiply m n, fun _ => computes_multiply_iff.mp⟩
  · have hn : n ≠ 0 := fun hn => h (undefined_divide_iff.mpr hn)
    exact ⟨m.tdiv n, computes_divide_iff.mpr ⟨hn, rfl⟩, fun _ h => (computes_divide_iff.mp h).2⟩
  · have hn : n ≠ 0 := fun hn => h (undefined_modulo_iff.mpr (.inl hn))
    exact ⟨m.tmod n, computes_modulo_iff.mpr ⟨hn, rfl⟩, fun _ h => (computes_modulo_iff.mp h).2⟩

end BinaryOp

/-! ### Operators on integers -/

/-- The exact result is the one that arithmetic says. -/
theorem Integers.exact_eq_ok_iff (hop : op ∈ BinaryOp.arithmetic) :
    Integers.exact op m n = .ok k ↔ op.Computes m n k ∧ ¬ op.Undefined .long m n := by
  rcases BinaryOp.mem_arithmetic.mp hop with rfl | rfl | rfl | rfl | rfl
  · have hdefined : ¬ BinaryOp.add.Undefined .long m n := BinaryOp.not_undefined nofun nofun
    rw [BinaryOp.computes_add_iff, and_iff_left hdefined, exact, Except.ok.injEq, eq_comm]
  · have hdefined : ¬ BinaryOp.subtract.Undefined .long m n := BinaryOp.not_undefined nofun nofun
    rw [BinaryOp.computes_subtract_iff, and_iff_left hdefined, exact, Except.ok.injEq, eq_comm]
  · have hdefined : ¬ BinaryOp.multiply.Undefined .long m n := BinaryOp.not_undefined nofun nofun
    rw [BinaryOp.computes_multiply_iff, and_iff_left hdefined, exact, Except.ok.injEq, eq_comm]
  · rw [BinaryOp.computes_divide_iff, BinaryOp.undefined_divide_iff, exact]
    by_cases hn : n = 0
    · simp [hn, evaluationFailure]
    · simp [hn, eq_comm]
  · rw [BinaryOp.computes_modulo_iff, BinaryOp.undefined_modulo_iff, exact]
    by_cases hn : n = 0
    · simp [hn, evaluationFailure]
    · by_cases hleast : m = -2 ^ 63 ∧ n = -1
      · simp [hleast, evaluationFailure]
      · -- The same number, as the evaluation writes it.
        have hleast' : ¬ (m = -9223372036854775808 ∧ n = -1) := hleast
        simp [hn, hleast', eq_comm]

theorem Integers.apply_eq_ok_iff (hop : op ∈ BinaryOp.arithmetic) :
    Integers.apply op m n = .ok k ↔
      op.Computes m n k ∧ ¬ op.Undefined .long m n ∧ IntegerForm.long.Holds k := by
  unfold Integers.apply
  rw [Except.bind_eq_ok]
  constructor
  · rintro ⟨k', hk', h⟩
    split at h
    · next hfits =>
        cases h
        exact ⟨((exact_eq_ok_iff hop).mp hk').1, ((exact_eq_ok_iff hop).mp hk').2,
          fits64_iff.mp hfits⟩
    · cases h
  · rintro ⟨hk, hdefined, hholds⟩
    exact ⟨k, (exact_eq_ok_iff hop).mpr ⟨hk, hdefined⟩, if_pos (fits64_iff.mpr hholds)⟩

theorem Integers.holds_of_apply (h : Integers.apply op m n = .ok k) : IntegerForm.long.Holds k := by
  rcases Except.bind_eq_ok.mp h with ⟨k', _, hk⟩
  split at hk
  · next hfits =>
      cases hk
      exact fits64_iff.mp hfits
  · cases hk

/-- A result in a form. In 64 bits it has been looked at already. -/
def IntegerForm.result (op : BinaryOp) : IntegerForm → Int → Except QueryError Value
  | short, k =>
    if Integers.fits32 k then .ok (.int32 (.ofInt k)) else evaluationFailure (.overflow op)
  | long, k => .ok (.int64 (.ofInt k))

theorem IntegerForm.result_eq_ok_iff (h : long.Holds k) :
    form.result op k = .ok v ↔ v.integer? = some (form, k) := by
  rw [integer?_eq_some_iff]
  cases form with
  | short =>
      rw [result, ← fits32_iff]
      split
      · next hfits => rw [and_iff_right hfits, Except.ok.injEq, eq_comm, value]
      · next hfits => exact ⟨nofun, fun h => absurd h.1 hfits⟩
  | long => rw [result, and_iff_right h, Except.ok.injEq, eq_comm, value]

/-- Integers are computed with in 64 bits, and the result is put in the form in which the
    operands meet. -/
theorem BinaryOp.applyNumbers_eq (op : BinaryOp) (ha : a.integer? = some (form, m))
    (hb : b.integer? = some (form', n)) :
    op.applyNumbers a b = (do (form.join form').result op (← Integers.apply op m n)) := by
  cases a with
  | int32 i =>
      cases ha
      cases b with
      | int32 j =>
          cases hb
          rfl
      | int64 j =>
          cases hb
          -- The short integer is widened, which leaves its value as it is.
          rw [← Int32.toInt_toInt64 i]
          rfl
      | _ => cases hb
  | int64 i =>
      cases ha
      cases b with
      | int32 j =>
          cases hb
          rw [← Int32.toInt_toInt64 j]
          rfl
      | int64 j =>
          cases hb
          rfl
      | _ => cases hb
  | _ => cases ha

theorem BinaryOp.applyNumbers_eq_ok (ha : a.integer? = some (form, m))
    (hb : b.integer? = some (form', n)) :
    op.applyNumbers a b = .ok v ↔
      ∃ k, Integers.apply op m n = .ok k ∧ v.integer? = some (form.join form', k) := by
  rw [applyNumbers_eq op ha hb, Except.bind_eq_ok]
  refine exists_congr fun k => and_congr_right fun hk => ?_
  exact IntegerForm.result_eq_ok_iff (Integers.holds_of_apply hk)

/-- What an operator gives for two integers. -/
theorem BinaryOp.applyNumbers_eq_ok_iff (hop : op ∈ arithmetic)
    (ha : a.integer? = some (form, m)) (hb : b.integer? = some (form', n)) :
    op.applyNumbers a b = .ok v ↔
      ∃ k, op.Computes m n k ∧ ¬ op.Undefined (form.join form') m n ∧
        v.integer? = some (form.join form', k) := by
  -- Only the least number of 64 bits is at stake, and no number of 32 bits is that one.
  have hundefined : op.Undefined .long m n ↔ op.Undefined (form.join form') m n := by
    cases hjoin : form.join form' with
    | long => exact Iff.rfl
    | short =>
        rcases form with _ | _ <;> rcases form' with _ | _ <;> cases hjoin
        exact undefined_short_iff (integer?_eq_some_iff.mp ha).1
  rw [applyNumbers_eq_ok ha hb, ← hundefined]
  refine exists_congr fun k => ?_
  rw [Integers.apply_eq_ok_iff hop]
  constructor
  · rintro ⟨⟨hcomputes, hdefined, _⟩, hv⟩
    exact ⟨hcomputes, hdefined, hv⟩
  · rintro ⟨hcomputes, hdefined, hv⟩
    exact ⟨⟨hcomputes, hdefined, (integer?_eq_some_iff.mp hv).1.long⟩, hv⟩

/-- The negative of an integer, where the form holds it. -/
theorem UnaryOp.apply_negate_eq_ok_iff (ha : a.integer? = some (form, m)) :
    UnaryOp.negate.apply a = .ok v ↔ v.integer? = some (form, -m) := by
  rw [integer?_eq_some_iff]
  cases a <;> cases ha <;> rw [apply]
  · rw [← fits32_iff]
    split
    · next hfits => rw [and_iff_right hfits, Except.ok.injEq, eq_comm, IntegerForm.value]
    · next hfits => exact ⟨nofun, fun h => absurd h.1 hfits⟩
  · rw [← fits64_iff]
    split
    · next hfits => rw [and_iff_right hfits, Except.ok.injEq, eq_comm, IntegerForm.value]
    · next hfits => exact ⟨nofun, fun h => absurd h.1 hfits⟩

/-! ### Expressions on integers -/

/-- A computation that gives the numbers that there are, in a form, and fails if there is none
    or the form does not hold it. -/
structure Exactly (form : IntegerForm) (computes : Int → Prop) (undefined : Prop)
    (x : Except QueryError Value) : Prop where
  gives : ∀ v, x = .ok v ↔ ∃ k, computes k ∧ ¬ undefined ∧ v.integer? = some (form, k)
  fails : (∃ e, x = .error e) ↔ undefined ∨ ∃ k, computes k ∧ ¬ form.Holds k

/-- Where there is one number at most, what is given says when the computation fails. -/
theorem Exactly.of_gives {computes : Int → Prop} {undefined : Prop} {x : Except QueryError Value}
    (hgives : ∀ v, x = .ok v ↔ ∃ k, computes k ∧ ¬ undefined ∧ v.integer? = some (form, k))
    (hunique : ¬ undefined → ∃ k, computes k ∧ ∀ k', computes k' → k' = k) :
    Exactly form computes undefined x where
  gives := hgives
  fails := by
    constructor
    · rintro ⟨e, rfl⟩
      -- Were the result defined and held, it would be given, so a failure has one of the two
      -- reasons.
      by_contra hnone
      rw [not_or, not_exists] at hnone
      rcases hunique hnone.1 with ⟨k, hk, _⟩
      have hholds : form.Holds k := by
        by_contra hholds
        exact hnone.2 k ⟨hk, hholds⟩
      have hvalue := integer?_eq_some_iff.mpr ⟨hholds, rfl⟩
      cases (hgives _).mpr ⟨k, hk, hnone.1, hvalue⟩
    · intro h
      cases x with
      | error e => exact ⟨e, rfl⟩
      | ok v =>
          rcases (hgives v).mp rfl with ⟨k, hk, hdefined, hv⟩
          rcases h with h | ⟨k', hk', hnot⟩
          · exact absurd h hdefined
          · rcases hunique hdefined with ⟨l, _, hl⟩
            rw [hl k' hk', ← hl k hk] at hnot
            exact absurd (integer?_eq_some_iff.mp hv).1 hnot

/-- An operator of arithmetic looks at its operands as numbers unless one is a text. -/
theorem BinaryOp.apply_of_integers (hop : op ∈ arithmetic) (ha : a.integer? = some (form, m))
    (hb : b.integer? = some (form', n)) : op.apply a b = op.applyNumbers a b := by
  have htext {u : Value} {f : IntegerForm} {i : Int} (h : u.integer? = some (f, i)) :
      u.isText = false := by
    cases u <;> cases h <;> rfl
  rcases BinaryOp.mem_arithmetic.mp hop with rfl | rfl | rfl | rfl | rfl
  · rw [apply, htext ha, htext hb]
    rfl
  all_goals rfl

end

namespace Expr

variable {row : Option Document} {l r : Expr} {form form' : IntegerForm} {a b : Value} {m n : Int}
  {op : BinaryOp}

theorem evaluate_constant (row : Option Document) (v : Value) :
    (constant v).evaluate row = .ok v := by
  rw [evaluate]

theorem evaluate_unary (op : UnaryOp) (hl : l.evaluate row = .ok a) :
    (unary op l).evaluate row = op.apply a := by
  rw [evaluate, hl]
  rfl

/-- An operator of arithmetic is applied to the values of both operands. -/
theorem evaluate_arithmetic (hop : op ∈ BinaryOp.arithmetic) (hl : l.evaluate row = .ok a)
    (hr : r.evaluate row = .ok b) : (binary op l r).evaluate row = op.apply a b := by
  refine evaluate_of_values ?_ hl hr
  rcases BinaryOp.mem_arithmetic.mp hop with rfl | rfl | rfl | rfl | rfl <;> rfl

/-- An operator on constants is folded to the value that it has at any row. -/
theorem folded_eq {e : Expr} (hfoldable : e.isFoldable = true) (hfold : e.fold = e.settle)
    (row : Option Document) : e.folded = (fun v => (.constant v, 1)) <$> e.evaluate row := by
  unfold folded
  rw [hfold, settle, if_pos hfoldable, evaluate_of_isFoldable hfoldable row]
  cases e.evaluate none with
  | error err => rfl
  | ok v => rfl

/-- What the operators of arithmetic and the negative give for integers, at a row or folded. -/
theorem integers_exact (hm : form.Holds m) (hn : form'.Holds n)
    (hl : l.evaluate row = .ok (form.value m)) (hr : r.evaluate row = .ok (form'.value n)) :
    (∀ op ∈ BinaryOp.arithmetic,
      Exactly (form.join form') (op.Computes m n) (op.Undefined (form.join form') m n)
        ((binary op l r).evaluate row) ∧
      (binary op (.constant (form.value m)) (.constant (form'.value n))).folded =
        (fun v => (.constant v, 1)) <$> (binary op l r).evaluate row) ∧
    Exactly form (fun k => k = -m) False ((unary .negate l).evaluate row) ∧
    (unary .negate (.constant (form.value m))).folded =
      (fun v => (.constant v, 1)) <$> (unary .negate l).evaluate row := by
  have ha := integer?_eq_some_iff.mpr ⟨hm, rfl⟩
  have hb := integer?_eq_some_iff.mpr ⟨hn, rfl⟩
  refine ⟨fun op hop => ⟨?_, ?_⟩, ?_, ?_⟩
  · rw [evaluate_arithmetic hop hl hr, BinaryOp.apply_of_integers hop ha hb]
    exact .of_gives (fun v => BinaryOp.applyNumbers_eq_ok_iff hop ha hb)
      (BinaryOp.existsUnique_computes hop)
  · rw [folded_eq rfl rfl row, evaluate_arithmetic hop hl hr,
      evaluate_arithmetic hop (evaluate_constant row _) (evaluate_constant row _)]
  · rw [evaluate_unary .negate hl]
    refine .of_gives (fun v => ?_) fun _ => ⟨-m, rfl, fun _ hk => hk⟩
    rw [UnaryOp.apply_negate_eq_ok_iff ha]
    simp only [not_false_eq_true, true_and, exists_eq_left]
  · rw [folded_eq rfl rfl row, evaluate_unary .negate hl,
      evaluate_unary .negate (evaluate_constant row _)]

end Expr

namespace Halving

/-- A row with a number of 32 bits and one of 64 bits. -/
def row : Document :=
  .ofList [("A", .int32 (-7)), ("B", .int64 2)]

def dividend : Expr :=
  .field ⟨"t0", "A"⟩

def divisor : Expr :=
  .field ⟨"t0", "B"⟩

/-- Half of minus seven is minus three in 64 bits, and minus seven of 32 bits has a negative. -/
theorem minus_seven_halved :
    IntegerForm.short.Holds (-7) ∧ IntegerForm.long.Holds 2 ∧
      dividend.evaluate (some row) = .ok (IntegerForm.short.value (-7)) ∧
      divisor.evaluate (some row) = .ok (IntegerForm.long.value 2) ∧
      (Expr.binary .divide dividend divisor).evaluate (some row) = .ok (.int64 (-3)) ∧
      (Expr.unary .negate dividend).evaluate (some row) = .ok (.int32 7) := by
  have hm : IntegerForm.short.Holds (-7) := by
    unfold IntegerForm.Holds
    omega
  have hn : IntegerForm.long.Holds 2 := by
    unfold IntegerForm.Holds
    omega
  have hl : dividend.evaluate (some row) = .ok (IntegerForm.short.value (-7)) := by
    rfl
  have hr : divisor.evaluate (some row) = .ok (IntegerForm.long.value 2) := by
    rfl
  rcases Expr.integers_exact hm hn hl hr with ⟨hoperators, hnegative, _⟩
  refine ⟨hm, hn, hl, hr, ?_, ?_⟩
  · have hquotient : BinaryOp.Computes .divide (-7) 2 (-3) :=
      BinaryOp.computes_divide_iff.mpr ⟨by decide, rfl⟩
    have hdefined : ¬ BinaryOp.Undefined .divide .long (-7) 2 :=
      mt BinaryOp.undefined_divide_iff.mp (by decide)
    exact ((hoperators .divide (by decide)).1.gives _).mpr ⟨-3, hquotient, hdefined, rfl⟩
  · exact (hnegative.gives _).mpr ⟨7, rfl, not_false, rfl⟩

end Halving

end DocumentMapper
