import DocumentMapper.Proofs.Data.Rounding
import DocumentMapper.Proofs.Query.Comparison
import DocumentMapper.Proofs.Query.IntegerArithmetic
import Mathlib.Tactic.FinCases

/-!
# Equality and order

Of two values that have an order, one should be less than, equal to or greater than the
other, and the three further comparisons should follow from these. But two integers are
ordered as integers, and they are equal if the doubles nearest to them are. So two
different integers that are rounded to one double are equal and at the same time one less
than the other. Here it is shown that nothing else goes wrong: whatever the values are, the
comparisons make up an order exactly if the values are no such integers.

The doubles of integers are numbers, and a double that is an integer's is no negative zero,
so equal ones have the same bits. Therefore the equality of two integers is that of the
doubles, and what these are is left to the rounding.

## Main definitions

* `Trichotomous`: Six comparisons that make up an order.
* `Value.Merged`: Different integers that are rounded to one double.

## Theorems

* `IsNearest.equals_iff`: The doubles of integers are equal only if they are the same.
* `same_eq_iff`: Where equality is what the order says.
* `Merged.large`: Integers of at most 53 bits are not merged.
* `trichotomous_iff`: The comparisons of two expressions.
-/

namespace DocumentMapper

namespace Double

section

variable {d d' : Double} {m n : Int}

theorem units_eq_of_key (h : d.key = d'.key) : d.units = d'.units := by
  rw [units_eq, units_eq]
  unfold key at h
  have hzero : ∀ k : Nat, k = 0 → size k = 0 := fun k hk => hk ▸ size_zero
  -- With different signs the key is zero, and so are both magnitudes.
  cases hd : d.isNegative <;> cases hd' : d'.isNegative <;> simp only [hd, hd'] at h ⊢ <;>
    simp only [if_true, Bool.false_eq_true, if_false] at h ⊢
  · rw [Int.natCast_inj.mp h]
  · rw [hzero d.magnitude (by omega), hzero d'.magnitude (by omega)]
    rfl
  · rw [hzero d.magnitude (by omega), hzero d'.magnitude (by omega)]
    rfl
  · rw [Int.natCast_inj.mp (Int.neg_inj.mp h)]

theorem isNaN_of_isFinite (h : d.isFinite = true) : d.isNaN = false := by
  unfold isFinite at h
  unfold isNaN
  rw [decide_eq_true_eq] at h
  rw [decide_eq_false_iff_not]
  omega

/-- The doubles of integers are equal only if they are the same. -/
theorem IsNearest.equals_iff (h : IsNearest m d) (h' : IsNearest n d') :
    d.equals d' = true ↔ d = d' := by
  rw [Double.equals_iff, and_iff_right (isNaN_of_isFinite h.finite),
    and_iff_right (isNaN_of_isFinite h'.finite)]
  constructor
  · intro hkey
    rcases eq_of_units (units_eq_of_key hkey) with heq | ⟨hzero, hzero'⟩
    · exact heq
    · rw [h.unsigned hzero, h'.unsigned hzero']
  · rintro rfl
    rfl

end

end Double

/-- Six comparisons make up an order: exactly one of less, equal and greater is true, and
    the others follow from these. -/
def Trichotomous (outcome : BinaryOp → Except QueryError Value) : Prop :=
  ∃ less equal greater : Bool,
    outcome .less = .ok (.boolean less) ∧
    outcome .equal = .ok (.boolean equal) ∧
    outcome .greater = .ok (.boolean greater) ∧
    [less, equal, greater].count true = 1 ∧
    outcome .lessOrEqual = .ok (.boolean (less || equal)) ∧
    outcome .greaterOrEqual = .ok (.boolean (greater || equal)) ∧
    outcome .notEqual = .ok (.boolean !equal)

theorem Instant.eq_iff {s t : Instant} : s = t ↔ s.millis = t.millis := by
  rcases s with ⟨millis, _⟩
  rcases t with ⟨millis', _⟩
  constructor
  · rintro ⟨⟩
    rfl
  · rintro ⟨⟩
    rfl

namespace Value

/-- Different integers that are rounded to one double. -/
def Merged (a b : Value) : Prop :=
  ∃ form m form' n d, a.integer? = some (form, m) ∧ b.integer? = some (form', n) ∧ m ≠ n ∧
    Double.IsNearest m d ∧ Double.IsNearest n d

section

variable {a b v : Value} {form form' : IntegerForm} {m n : Int} {o : Ordering}

theorem natAbs_le_of_integer? (h : v.integer? = some (form, n)) : n.natAbs ≤ 2 ^ 63 := by
  have hlong := (integer?_eq_some_iff.mp h).1.long
  unfold IntegerForm.Holds at hlong
  omega

theorem asDouble?_of_integer? (h : v.integer? = some (form, n)) :
    v.asDouble? = some (.ofInt n) := by
  cases v <;> cases h
  · rw [asDouble?, Double.ofInt32, Double.ofInt64, Int32.toInt_toInt64]
  · rfl

theorem exists_integer?_of_asInt64? {i : Int64} (h : v.asInt64? = some i) :
    ∃ form, v.integer? = some (form, i.toInt) := by
  cases v <;> cases h
  · exact ⟨.short, by rw [Int32.toInt_toInt64]; rfl⟩
  · exact ⟨.long, rfl⟩

/-- Integers are equal if they are rounded to one double. -/
theorem same_integers_iff (ha : a.integer? = some (form, m)) (hb : b.integer? = some (form', n)) :
    a.same b = true ↔ ∃ d, Double.IsNearest m d ∧ Double.IsNearest n d := by
  have hm := Double.ofInt_isNearest (natAbs_le_of_integer? ha)
  have hn := Double.ofInt_isNearest (natAbs_le_of_integer? hb)
  unfold same
  rw [asDouble?_of_integer? ha, asDouble?_of_integer? hb]
  dsimp only
  rw [hm.equals_iff hn]
  constructor
  · intro heq
    exact ⟨_, hm, heq ▸ hn⟩
  · rintro ⟨d, hd, hd'⟩
    exact (hm.unique hd).trans (hd'.unique hn)

theorem merged_iff (ha : a.integer? = some (form, m)) (hb : b.integer? = some (form', n)) :
    Merged a b ↔ m ≠ n ∧ a.same b = true := by
  rw [same_integers_iff ha hb]
  constructor
  · rintro ⟨_, _, _, _, d, ha', hb', hne, hm, hn⟩
    cases ha.symm.trans ha'
    cases hb.symm.trans hb'
    exact ⟨hne, d, hm, hn⟩
  · rintro ⟨hne, d, hm, hn⟩
    exact ⟨_, _, _, _, d, ha, hb, hne, hm, hn⟩

theorem not_merged_left (h : a.integer? = none) : ¬ Merged a b := by
  rintro ⟨_, _, _, _, _, ha, _⟩
  cases h.symm.trans ha

/-- Integers of at most 53 bits are not merged. -/
theorem Merged.large (h : Merged a b) :
    ∃ form n, (a.integer? = some (form, n) ∨ b.integer? = some (form, n)) ∧ 2 ^ 53 < n.natAbs := by
  rcases h with ⟨form, m, form', n, d, ha, hb, hne, hm, hn⟩
  by_cases hlarge : 2 ^ 53 < m.natAbs
  · exact ⟨form, m, .inl ha, hlarge⟩
  · refine ⟨form', n, .inr hb, ?_⟩
    by_contra hsmall
    -- Both integers are the number that the double is.
    have hunits : m * Double.unitsOfOne = n * Double.unitsOfOne := by
      rw [← Double.units_ofInt_of_le (by omega), ← Double.units_ofInt_of_le (by omega),
        (Double.ofInt_isNearest (natAbs_le_of_integer? ha)).unique hm,
        (Double.ofInt_isNearest (natAbs_le_of_integer? hb)).unique hn]
    have hpos : (Double.unitsOfOne : Int) ≠ 0 :=
      Int.natCast_ne_zero.mpr (Nat.ne_of_gt Double.unitsOfOne_pos)
    exact hne (Int.eq_of_mul_eq_mul_right hpos hunits)

/-- For integers, equality is what the order says unless they are merged. -/
theorem same_integers_eq_iff (ha : a.integer? = some (form, m))
    (hb : b.integer? = some (form', n)) :
    a.same b = (compare m n == .eq) ↔ ¬ Merged a b := by
  have hcompare : (compare m n == .eq) = decide (m = n) := by
    rw [Bool.eq_iff_iff, beq_iff_eq, compare_eq_iff_eq, decide_eq_true_iff]
  rw [merged_iff ha hb, hcompare]
  by_cases heq : m = n
  · -- An integer is equal to itself, since it is rounded to some double.
    have hm := Double.ofInt_isNearest (natAbs_le_of_integer? ha)
    have hsame : a.same b = true := (same_integers_iff ha hb).mpr ⟨_, hm, heq ▸ hm⟩
    rw [hsame, decide_eq_true heq]
    exact iff_of_true rfl fun h => h.1 heq
  · rw [decide_eq_false heq, and_iff_right heq, Bool.not_eq_true]

/-- Doubles are equal and ordered by one comparison. -/
theorem same_eq_of_doubles {x y : Double} (hx : a.asDouble? = some x) (hy : b.asDouble? = some y)
    (h : x.compare? y = some o) : a.same b = (o == .eq) := by
  unfold same
  rw [hx, hy]
  dsimp only
  unfold Double.equals
  rw [h]
  rfl

/-- What is ordered by the things it is equal by. -/
theorem same_eq_compare {α : Type} [Ord α] [Std.LawfulEqOrd α] {x y : α}
    (hsame : a.same b = true ↔ x = y) : a.same b = (compare x y == .eq) := by
  rw [Bool.eq_iff_iff, beq_iff_eq, Std.LawfulEqOrd.compare_eq_iff_eq, hsame]

/-- Of two values that have an order, whether they are equal is what the order says exactly if
    they are not integers that are merged. -/
theorem same_eq_iff (h : a.order? b = some o) : a.same b = (o == .eq) ↔ ¬ Merged a b := by
  rcases order?_cases a b with ⟨s, t, rfl, rfl⟩ | ⟨s, t, rfl, rfl⟩ | ⟨s, t, rfl, rfl⟩ | ⟨hab, _⟩
  · rw [← Option.some.inj h]
    refine iff_of_true (same_eq_compare ?_) (not_merged_left rfl)
    change (string s).equals (string t) = true ↔ _
    rw [Value.equals, decide_eq_true_iff]
  · rw [← Option.some.inj h]
    refine iff_of_true (same_eq_compare ?_) (not_merged_left rfl)
    change (instant s).equals (instant t) = true ↔ _
    rw [Value.equals, decide_eq_true_iff, Instant.eq_iff]
  · rw [← Option.some.inj h]
    refine iff_of_true (same_eq_compare ?_) (not_merged_left rfl)
    change (boolean s).equals (boolean t) = true ↔ _
    rw [Value.equals, decide_eq_true_iff]
  · rw [hab] at h
    unfold orderNumbers? at h
    split at h
    · next i j hi hj =>
        rcases exists_integer?_of_asInt64? hi with ⟨form, ha⟩
        rcases exists_integer?_of_asInt64? hj with ⟨form', hb⟩
        rw [← Option.some.inj h]
        exact same_integers_eq_iff ha hb
    · next hnone =>
        -- One of the two is no integer, and both are looked at as doubles.
        have hmerged : ¬ Merged a b := by
          rintro ⟨_, _, _, _, _, ha, hb, _⟩
          rcases asInt64?_of_integer? ha with ⟨i, hi, _⟩
          rcases asInt64?_of_integer? hb with ⟨j, hj, _⟩
          exact hnone i j hi hj
        rcases Option.bind_eq_some_iff.mp h with ⟨x, hx, hrest⟩
        rcases Option.bind_eq_some_iff.mp hrest with ⟨y, hy, hcompare⟩
        exact iff_of_true (same_eq_of_doubles hx hy hcompare) hmerged

end

end Value

namespace Expr

variable {row : Option Document} {l r : Expr} {a b : Value}

/-- Equality and an order make up an order together if they agree. -/
theorem trichotomous_of_order {outcome : BinaryOp → Except QueryError Value} {o : Ordering}
    {same : Bool}
    (hordered : ∀ op ∈ [BinaryOp.less, .greater, .lessOrEqual, .greaterOrEqual],
      outcome op = .ok (.boolean (op.accepts o)))
    (hequal : outcome .equal = .ok (.boolean same))
    (hnotEqual : outcome .notEqual = .ok (.boolean !same)) :
    Trichotomous outcome ↔ same = (o == .eq) := by
  have hless := hordered .less (by decide)
  have hgreater := hordered .greater (by decide)
  constructor
  · rintro ⟨less, equal, greater, hless', hequal', hgreater', hcount, _⟩
    cases hless.symm.trans hless'
    cases hequal.symm.trans hequal'
    cases hgreater.symm.trans hgreater'
    -- Three orderings and two answers: exactly one relation holds if they go together.
    cases o <;> cases same <;> first | rfl | exact absurd hcount (by decide)
  · rintro rfl
    refine ⟨_, _, _, hless, hequal, hgreater, ?_, ?_, ?_, hnotEqual⟩
    · cases o <;> rfl
    · rw [hordered .lessOrEqual (by decide)]
      cases o <;> rfl
    · rw [hordered .greaterOrEqual (by decide)]
      cases o <;> rfl

/-- Wherever less is defined, the comparisons make up an order exactly if the operands are
    not two integers that are rounded to one double. -/
theorem trichotomous_iff (hl : l.evaluate row = .ok a) (hr : r.evaluate row = .ok b)
    (hless : ∃ v, (binary .less l r).evaluate row = .ok v) :
    Trichotomous (fun op => (binary op l r).evaluate row) ↔ ¬ Value.Merged a b := by
  rcases hless with ⟨v, hless⟩
  rw [evaluate_of_values rfl hl hr] at hless
  rcases Except.bind_eq_ok.mp hless with ⟨o, horder, _⟩
  have hordered : ∀ op ∈ [BinaryOp.less, .greater, .lessOrEqual, .greaterOrEqual],
      (binary op l r).evaluate row = .ok (.boolean (op.accepts o)) := by
    intro op hop
    have happly : op.skipsRight = false ∧ op.apply a b = .ok (.boolean (op.accepts o)) := by
      fin_cases hop <;> exact ⟨rfl, by rw [BinaryOp.apply, horder]; rfl⟩
    rw [evaluate_of_values happly.1 hl hr, happly.2]
  rw [← Value.same_eq_iff (Value.order_eq_ok_iff.mp horder)]
  exact trichotomous_of_order hordered (evaluate_of_values rfl hl hr) (evaluate_of_values rfl hl hr)

end Expr

namespace Neighbours

/-- The least positive integer that is no double. -/
def odd : Expr :=
  .constant (.int64 9007199254740993)

/-- The double that it is rounded to, as an integer. -/
def below : Expr :=
  .constant (.int64 9007199254740992)

def above : Expr :=
  .constant (.int64 9007199254740994)

/-- Compared with the integer above it, it is less, not equal and not greater. -/
theorem odd_above_trichotomous :
    (∃ v, (Expr.binary .less odd above).evaluate none = .ok v) ∧
      Trichotomous (fun op => (Expr.binary op odd above).evaluate none) := by
  have hless : ∃ v, (Expr.binary .less odd above).evaluate none = .ok v :=
    ⟨.boolean true, by rfl⟩
  have hmerged : ¬ Value.Merged (.int64 9007199254740993) (.int64 9007199254740994) := by
    rw [Value.merged_iff rfl rfl]
    decide
  refine ⟨hless, ?_⟩
  exact (Expr.trichotomous_iff (Expr.evaluate_constant none _) (Expr.evaluate_constant none _)
    hless).mpr hmerged

/-- Compared with the integer below it, it is equal and greater. -/
theorem odd_below_equal_and_greater :
    (Expr.binary .equal odd below).evaluate none = .ok (.boolean true) ∧
      (Expr.binary .greater odd below).evaluate none = .ok (.boolean true) ∧
      (Expr.binary .less odd below).evaluate none = .ok (.boolean false) ∧
      ¬ Trichotomous (fun op => (Expr.binary op odd below).evaluate none) := by
  have hequal : (Expr.binary .equal odd below).evaluate none = .ok (.boolean true) := by
    rfl
  have hgreater : (Expr.binary .greater odd below).evaluate none = .ok (.boolean true) := by
    rfl
  have hless : (Expr.binary .less odd below).evaluate none = .ok (.boolean false) := by
    rfl
  refine ⟨hequal, hgreater, hless, ?_⟩
  rintro ⟨less, equal, greater, hless', hequal', hgreater', hcount, _⟩
  cases hless.symm.trans hless'
  cases hequal.symm.trans hequal'
  cases hgreater.symm.trans hgreater'
  exact absurd hcount (by decide)

end Neighbours

end DocumentMapper
