import DocumentMapper.Data.Double
import Mathlib.Tactic.Positivity
import Mathlib.Tactic.Ring

/-!
# Integers as doubles

An integer is converted to the double that is nearest to it, and to the even one of two
that are equally near. That is said here of all doubles: every other one is farther from
the integer, or is as far and odd (`IsNearest`). Such a double is unique, so the statement
determines the conversion.

All finite doubles are multiples of the smallest positive one, so distances are natural
numbers in units of that. The magnitude of a double is the place of its absolute value in
the order of all absolute values (`size_strictMono`). So an integer lies between two
doubles whose magnitudes follow each other, any other double lies beyond one of the two,
and only these have to be compared with it. A carry out of the fraction needs no case of
its own, since it leads to the next magnitude like any other step.

## Main definitions

* `size`, `units`: The number that a double is, in units of the smallest positive one.
* `IsNearest`: The double that an integer is rounded to.

## Theorems

* `size_strictMono`: Larger magnitudes are larger numbers.
* `IsNearest.unique`: There is only one such double.
* `ofInt_isNearest`: What an integer is converted to.
* `units_ofInt_of_le`: Integers of at most 53 bits are not changed.
-/

namespace DocumentMapper

namespace Double

/-! ### Doubles as numbers -/

/-- The number that the bits below the sign stand for, in units of `2 ^ (-1074)`. -/
def size (magnitude : Nat) : Nat :=
  if magnitude / hiddenBit = 0 then magnitude % hiddenBit
  else (magnitude % hiddenBit + hiddenBit) * 2 ^ (magnitude / hiddenBit - 1)

/-- How many of the units one is: `2 ^ 1074`. -/
def unitsOfOne : Nat :=
  hiddenBit * 2 ^ 1022

/-- The number that a finite double is, in units of `2 ^ (-1074)`. -/
def units (d : Double) : Int :=
  let size : Int := d.significand.1 * 2 ^ (d.significand.2 + 1074).toNat
  if d.isNegative then -size else size

theorem hiddenBit_pos : 0 < hiddenBit := by
  decide

theorem unitsOfOne_pos : 0 < unitsOfOne := by
  unfold unitsOfOne
  exact Nat.mul_pos hiddenBit_pos (by positivity)

theorem size_mul_add {exponent fraction : Nat} (h : fraction < hiddenBit) :
    size (exponent * hiddenBit + fraction) =
      if exponent = 0 then fraction else (fraction + hiddenBit) * 2 ^ (exponent - 1) := by
  have hdiv : (exponent * hiddenBit + fraction) / hiddenBit = exponent := by
    rw [Nat.mul_comm, Nat.mul_add_div hiddenBit_pos, Nat.div_eq_of_lt h, Nat.add_zero]
  have hmod : (exponent * hiddenBit + fraction) % hiddenBit = fraction := by
    rw [Nat.mul_comm, Nat.mul_add_mod, Nat.mod_eq_of_lt h]
  unfold size
  rw [hdiv, hmod]

theorem size_lt_succ (magnitude : Nat) : size magnitude < size (magnitude + 1) := by
  have hlt : magnitude % hiddenBit < hiddenBit := Nat.mod_lt _ hiddenBit_pos
  rw [← Nat.div_add_mod magnitude hiddenBit, Nat.mul_comm]
  generalize magnitude / hiddenBit = exponent at *
  generalize magnitude % hiddenBit = fraction at *
  rw [size_mul_add hlt]
  by_cases hcarry : fraction + 1 < hiddenBit
  · rw [Nat.add_assoc, size_mul_add hcarry]
    -- Subnormal numbers step by one, the others by the unit of their exponent.
    split
    · exact Nat.lt_succ_self fraction
    · exact Nat.mul_lt_mul_of_pos_right (by omega) (Nat.two_pow_pos _)
  · -- The fraction is used up, and the next exponent begins.
    have hnext : exponent * hiddenBit + fraction + 1 = (exponent + 1) * hiddenBit + 0 := by
      rw [Nat.add_mul]
      omega
    rw [hnext, size_mul_add hiddenBit_pos, if_neg (Nat.succ_ne_zero exponent)]
    rw [Nat.add_sub_cancel, Nat.zero_add]
    cases exponent with
    | zero =>
        rw [if_pos rfl, Nat.pow_zero, Nat.mul_one]
        exact hlt
    | succ exponent =>
        rw [if_neg (Nat.succ_ne_zero exponent), Nat.add_sub_cancel, Nat.pow_succ',
          ← Nat.mul_assoc]
        exact Nat.mul_lt_mul_of_pos_right (by omega) (Nat.two_pow_pos _)

/-- Larger magnitudes are larger numbers. -/
theorem size_strictMono : StrictMono size :=
  strictMono_nat_of_lt_succ size_lt_succ

theorem size_zero : size 0 = 0 := by
  decide

theorem units_eq (d : Double) :
    d.units = if d.isNegative then -(size d.magnitude : Int) else size d.magnitude := by
  have hsize : (d.significand.1 * 2 ^ (d.significand.2 + 1074).toNat : Int) = size d.magnitude := by
    unfold significand size
    -- Without an exponent there is no hidden bit, and no factor either.
    by_cases h : d.magnitude / hiddenBit = 0
    · simp [h]
    · have hexponent : ((d.magnitude / hiddenBit : Nat) - 1075 + 1074 : Int).toNat =
          d.magnitude / hiddenBit - 1 := by
        omega
      simp only [h, if_false]
      rw [hexponent]
      norm_cast
  unfold units
  rw [hsize]

/-- The bits are the sign and the magnitude. -/
theorem eq_of_magnitude {d d' : Double} (hsign : d.isNegative = d'.isNegative)
    (h : d.magnitude = d'.magnitude) : d = d' := by
  rcases d with ⟨bits⟩
  rcases d' with ⟨bits'⟩
  simp only [isNegative, magnitude, decide_eq_decide] at hsign h
  have hlt := bits.toNat_lt
  have hlt' := bits'.toNat_lt
  have hbits : bits.toNat = bits'.toNat := by
    unfold signBit at hsign h
    omega
  rw [UInt64.toNat_inj.mp hbits]

theorem units_eq_zero_iff {d : Double} : d.units = 0 ↔ d.magnitude = 0 := by
  have hsize : size d.magnitude = 0 ↔ d.magnitude = 0 := by
    rw [← size_zero, size_strictMono.injective.eq_iff, size_zero]
  rw [units_eq, ← hsize]
  split <;> omega

/-- The units determine a double up to the sign of a zero. -/
theorem eq_of_units {d d' : Double} (h : d.units = d'.units) :
    d = d' ∨ (d.units = 0 ∧ d'.units = 0) := by
  by_cases hzero : d.units = 0
  · exact .inr ⟨hzero, h ▸ hzero⟩
  · left
    rw [units_eq, units_eq] at h
    rw [units_eq] at hzero
    -- Sizes are not negative, so a number that is not zero shows its sign.
    have hsign : d.isNegative = d'.isNegative := by
      cases hd : d.isNegative <;> cases hd' : d'.isNegative <;> simp only [hd, hd'] at h hzero ⊢ <;>
        simp only [if_true, Bool.false_eq_true, if_false] at h hzero <;> omega
    refine eq_of_magnitude hsign (size_strictMono.injective ?_)
    rw [hsign] at h
    split at h <;> omega

/-! ### The nearest double -/

/-- How far a double is from an integer, in units. -/
def distance (n : Int) (d : Double) : Nat :=
  (d.units - n * unitsOfOne).natAbs

/-- The double that an integer is rounded to: every other one is farther from it, or is
    as far and odd where this one is even. A zero has no sign. -/
structure IsNearest (n : Int) (d : Double) : Prop where
  finite : d.isFinite = true
  unsigned : d.units = 0 → d = zero
  nearest : ∀ d' : Double, d'.isFinite = true → d'.units ≠ d.units →
    d.distance n < d'.distance n ∨
      (d.distance n = d'.distance n ∧ d.magnitude % 2 = 0 ∧ d'.magnitude % 2 = 1)

section

variable {n : Int} {m below magnitude target : Nat} {d d' : Double}

theorem IsNearest.unique (h : IsNearest n d) (h' : IsNearest n d') : d = d' := by
  by_cases hunits : d.units = d'.units
  · rcases eq_of_units hunits with heq | ⟨hzero, hzero'⟩
    · exact heq
    · rw [h.unsigned hzero, h'.unsigned hzero']
  · have hd := h.nearest d' h'.finite (Ne.symm hunits)
    have hd' := h'.nearest d h.finite hunits
    omega

/-- Of two magnitudes that follow each other, the one whose number is nearer to a target
    between them, or else the even one. -/
def nearer (below target : Nat) : Nat :=
  if 2 * target < size below + size (below + 1) then below
  else if size below + size (below + 1) < 2 * target then below + 1
  else below + below % 2

theorem nearer_cases (below target : Nat) :
    (nearer below target = below ∧ 2 * target ≤ size below + size (below + 1) ∧
        (2 * target = size below + size (below + 1) → below % 2 = 0)) ∨
      (nearer below target = below + 1 ∧ size below + size (below + 1) ≤ 2 * target ∧
        (2 * target = size below + size (below + 1) → below % 2 = 1)) := by
  unfold nearer
  split
  · omega
  · split
    · omega
    · rcases Nat.mod_two_eq_zero_or_one below with heven | hodd <;> omega

/-- Where the numbers of all magnitudes lie with regard to two that follow each other. -/
theorem size_place (below magnitude : Nat) :
    size magnitude < size below ∨ magnitude = below ∨ magnitude = below + 1 ∨
      size (below + 1) < size magnitude := by
  rcases Nat.lt_trichotomy magnitude below with hlt | heq | hgt
  · exact .inl (size_strictMono hlt)
  · exact .inr (.inl heq)
  · rcases Nat.lt_or_eq_of_le (Nat.succ_le_of_lt hgt) with hgt | heq
    · exact .inr (.inr (.inr (size_strictMono hgt)))
    · exact .inr (.inr (.inl heq.symm))

/-- No other number of a double, of either sign, is as near, unless it is as far from the
    target on the other side. -/
theorem size_nearer (hlow : size below ≤ target) (hhigh : target < size (below + 1)) {u : Int}
    (hu : u.natAbs = size magnitude) (hne : u ≠ size (nearer below target)) :
    ((size (nearer below target) : Int) - target).natAbs < (u - target).natAbs ∨
      (((size (nearer below target) : Int) - target).natAbs = (u - target).natAbs ∧
        nearer below target % 2 = 0 ∧ magnitude % 2 = 1) := by
  -- The number is below both neighbours, one of them, or above both; on the other side of zero it
  -- is farther away than its size. What is left in each case is linear.
  rcases nearer_cases below target with ⟨heq, hhalf, htie⟩ | ⟨heq, hhalf, htie⟩
  · rw [heq] at hne ⊢
    rcases size_place below magnitude with hless | rfl | rfl | hmore <;> omega
  · rw [heq] at hne ⊢
    rcases size_place below magnitude with hless | rfl | rfl | hmore <;> omega

/-- An integer scaled to 53 bits. -/
theorem scaled_bounds (hm : m ≠ 0) :
    hiddenBit ≤ m * hiddenBit / 2 ^ m.log2 ∧ m * hiddenBit / 2 ^ m.log2 < 2 * hiddenBit := by
  have hpos := Nat.two_pow_pos m.log2
  have hlow : 2 ^ m.log2 ≤ m := Nat.log2_self_le hm
  have hhigh : m < 2 ^ m.log2 * 2 := by
    rw [← Nat.pow_succ]
    exact Nat.lt_log2_self
  constructor
  · rw [Nat.le_div_iff_mul_le hpos, Nat.mul_comm]
    exact Nat.mul_le_mul_right hiddenBit hlow
  · rw [Nat.div_lt_iff_lt_mul hpos]
    calc m * hiddenBit < 2 ^ m.log2 * 2 * hiddenBit :=
          Nat.mul_lt_mul_of_pos_right hhigh hiddenBit_pos
      _ = 2 * hiddenBit * 2 ^ m.log2 := by ring

/-- A scaled number and the next one, in units. -/
theorem size_scaled {exponent scaled : Nat} (hlow : hiddenBit ≤ scaled)
    (hhigh : scaled ≤ 2 * hiddenBit) :
    size ((exponent + 1022) * hiddenBit + scaled) = scaled * 2 ^ (exponent + 1022) := by
  rcases Nat.lt_or_eq_of_le hhigh with hlt | rfl
  · have hplace : (exponent + 1022) * hiddenBit + scaled =
        (exponent + 1023) * hiddenBit + (scaled - hiddenBit) := by
      rw [Nat.add_mul, Nat.add_mul]
      omega
    rw [hplace, size_mul_add (by omega), if_neg (by omega), Nat.sub_add_cancel hlow]
    rfl
  · have hplace : (exponent + 1022) * hiddenBit + 2 * hiddenBit =
        (exponent + 1024) * hiddenBit + 0 := by
      ring
    rw [hplace, size_mul_add hiddenBit_pos, if_neg (by omega), Nat.zero_add,
      show exponent + 1024 - 1 = exponent + 1022 + 1 from rfl, Nat.pow_succ',
      ← Nat.mul_assoc, Nat.mul_comm hiddenBit 2]

/-- The nearer of two magnitudes, if they and the target are known up to a factor. -/
theorem nearer_scaled {factor part rest step : Nat} (hfactor : 0 < factor)
    (hbelow : size below = part * factor) (habove : size (below + 1) = (part + step) * factor) :
    nearer below ((part + rest) * factor) =
      below + if step < 2 * rest ∨ (2 * rest = step ∧ below % 2 = 1) then 1 else 0 := by
  have hless : 2 * ((part + rest) * factor) < part * factor + (part + step) * factor ↔
      2 * rest < step := by
    rw [← Nat.add_mul, ← Nat.mul_assoc, Nat.mul_lt_mul_right hfactor]
    omega
  have hmore : part * factor + (part + step) * factor < 2 * ((part + rest) * factor) ↔
      step < 2 * rest := by
    rw [← Nat.add_mul, ← Nat.mul_assoc, Nat.mul_lt_mul_right hfactor]
    omega
  unfold nearer
  rw [hbelow, habove]
  simp only [hless, hmore]
  split
  · rw [if_neg (by omega)]
    rfl
  · split
    · rw [if_pos (by omega)]
    · rcases Nat.mod_two_eq_zero_or_one below with heven | hodd
      · rw [heven, if_neg (by omega)]
      · rw [hodd, if_pos (by omega)]

/-- Nothing is cut off from a number of at most 53 bits. -/
theorem scaled_mod_eq_zero (h : m ≤ 2 ^ 53) : m * hiddenBit % 2 ^ m.log2 = 0 := by
  rcases Nat.lt_or_eq_of_le h with hlt | rfl
  · -- A power below the hidden bit divides it.
    have hlog : m.log2 ≤ 52 := by
      by_cases hm : m = 0
      · rw [hm]
        decide
      · exact Nat.le_of_lt_succ ((Nat.log2_lt hm).mpr hlt)
    have hdvd : 2 ^ m.log2 ∣ hiddenBit := Nat.pow_dvd_pow 2 hlog
    exact Nat.mod_eq_zero_of_dvd (Dvd.dvd.mul_left hdvd m)
  · rw [Nat.log2_two_pow, Nat.mul_mod_right]

/-- The magnitude that is computed for a natural number is the nearer one of two that have
    the number between them. -/
theorem nearestMagnitude_eq (m : Nat) :
    ∃ below, size below ≤ m * unitsOfOne ∧ m * unitsOfOne < size (below + 1) ∧
      nearestMagnitude m = nearer below (m * unitsOfOne) ∧
      below < (m.log2 + 1024) * hiddenBit ∧
      (m ≤ 2 ^ 53 → size below = m * unitsOfOne) := by
  by_cases hm : m = 0
  · subst hm
    rw [Nat.zero_mul]
    exact ⟨0, by decide, by decide, by decide, by decide, fun _ => by decide⟩
  · rcases scaled_bounds hm with ⟨hlow, hhigh⟩
    -- What is left of the number in 53 bits, and the rest that is cut off.
    have hparts := Nat.div_add_mod (m * hiddenBit) (2 ^ m.log2)
    have hrest := Nat.mod_lt (m * hiddenBit) (Nat.two_pow_pos m.log2)
    have hunits : m * unitsOfOne = m * hiddenBit * 2 ^ 1022 := by
      rw [unitsOfOne, Nat.mul_assoc]
    have hfactor : 0 < 2 ^ 1022 := by
      positivity
    have hexact := scaled_mod_eq_zero (m := m)
    have hnearest : nearestMagnitude m = (m.log2 + 1022) * hiddenBit + m * hiddenBit / 2 ^ m.log2 +
        if 2 ^ m.log2 < 2 * (m * hiddenBit % 2 ^ m.log2) ∨
          (2 * (m * hiddenBit % 2 ^ m.log2) = 2 ^ m.log2 ∧ m * hiddenBit / 2 ^ m.log2 % 2 = 1)
        then 1 else 0 :=
      if_neg hm
    -- Only these facts about the two parts are needed.
    generalize m * hiddenBit / 2 ^ m.log2 = scaled at *
    generalize m * hiddenBit % 2 ^ m.log2 = rest at *
    -- The two neighbours are the scaled number and the next one.
    have hbelow : size ((m.log2 + 1022) * hiddenBit + scaled) =
        2 ^ m.log2 * scaled * 2 ^ 1022 := by
      rw [size_scaled hlow (Nat.le_of_lt hhigh), pow_add, ← Nat.mul_assoc scaled,
        Nat.mul_comm scaled]
    have habove : size ((m.log2 + 1022) * hiddenBit + scaled + 1) =
        (2 ^ m.log2 * scaled + 2 ^ m.log2) * 2 ^ 1022 := by
      rw [Nat.add_assoc, size_scaled (by omega) hhigh, pow_add, ← Nat.mul_assoc (scaled + 1),
        Nat.mul_comm (scaled + 1), Nat.mul_add, Nat.mul_one]
    have hparity : ((m.log2 + 1022) * hiddenBit + scaled) % 2 = scaled % 2 := by
      unfold hiddenBit
      omega
    rw [hunits, ← hparts]
    -- A factor of this size must not be computed.
    generalize 2 ^ 1022 = factor at *
    refine ⟨(m.log2 + 1022) * hiddenBit + scaled, ?_, ?_, ?_, ?_, ?_⟩
    · rw [hbelow]
      exact Nat.mul_le_mul_right _ (Nat.le_add_right _ _)
    · rw [habove]
      exact Nat.mul_lt_mul_of_pos_right (Nat.add_lt_add_left hrest _) hfactor
    · rw [nearer_scaled hfactor hbelow habove, hparity, hnearest]
    · rw [Nat.add_mul, Nat.add_mul]
      omega
    · intro h
      rw [hbelow, hexact h, Nat.add_zero]

theorem nearer_le (below target : Nat) : nearer below target ≤ below + 1 := by
  rcases nearer_cases below target with ⟨heq, _⟩ | ⟨heq, _⟩ <;> omega

/-- Numbers of 64 bits are far from the largest double. -/
theorem nearestMagnitude_lt (h : m ≤ 2 ^ 63) : nearestMagnitude m < infiniteMagnitude := by
  rcases nearestMagnitude_eq m with ⟨below, _, _, heq, hbelow, _⟩
  have hnearer := nearer_le below (m * unitsOfOne)
  have hlog : m.log2 ≤ 63 := by
    by_cases hm : m = 0
    · rw [hm]
      decide
    · exact Nat.le_of_lt_succ ((Nat.log2_lt hm).mpr (by omega))
  -- The exponent is at most 1087, and infinity has 2047.
  have hplace : (m.log2 + 1024) * hiddenBit ≤ 1087 * hiddenBit :=
    Nat.mul_le_mul_right hiddenBit (by omega)
  unfold hiddenBit at hbelow hplace
  unfold infiniteMagnitude
  omega

theorem nearestMagnitude_eq_zero_iff : nearestMagnitude m = 0 ↔ m = 0 := by
  constructor
  · intro h
    by_contra hm
    -- Any other number has an exponent.
    have hpos : 0 < (m.log2 + 1022) * hiddenBit := Nat.mul_pos (Nat.succ_pos _) hiddenBit_pos
    rw [nearestMagnitude, if_neg hm] at h
    exact absurd (Nat.add_eq_zero_iff.mp (Nat.add_eq_zero_iff.mp h).1).1 (Nat.ne_of_gt hpos)
  · rintro rfl
    rfl

/-- The parts of a converted integer. -/
theorem ofInt_parts (h : n.natAbs ≤ 2 ^ 63) :
    (ofInt n).isNegative = decide (n < 0) ∧ (ofInt n).magnitude = nearestMagnitude n.natAbs := by
  have hlt := nearestMagnitude_lt h
  unfold infiniteMagnitude at hlt
  unfold ofInt isNegative magnitude signBit
  rw [UInt64.toNat_ofNat']
  -- Below infinity the magnitude leaves the sign bit free.
  by_cases hn : n < 0
  · rw [if_pos hn, decide_eq_true hn, decide_eq_true_eq]
    omega
  · rw [if_neg hn, decide_eq_false hn, decide_eq_false_iff_not]
    omega

theorem units_ofInt (h : n.natAbs ≤ 2 ^ 63) :
    (ofInt n).units =
      if n < 0 then -(size (nearestMagnitude n.natAbs) : Int)
      else size (nearestMagnitude n.natAbs) := by
  rw [units_eq, (ofInt_parts h).1, (ofInt_parts h).2]
  simp only [decide_eq_true_eq]

theorem natAbs_units (d : Double) : d.units.natAbs = size d.magnitude := by
  rw [units_eq]
  split <;> omega

/-- What an integer is converted to. -/
theorem ofInt_isNearest (h : n.natAbs ≤ 2 ^ 63) : IsNearest n (ofInt n) := by
  rcases ofInt_parts h with ⟨_, hmagnitude⟩
  constructor
  · unfold isFinite
    rw [hmagnitude, decide_eq_true_eq]
    exact nearestMagnitude_lt h
  · rw [units_eq_zero_iff, hmagnitude, nearestMagnitude_eq_zero_iff, Int.natAbs_eq_zero]
    rintro rfl
    rfl
  · intro d' _ hne
    rcases nearestMagnitude_eq n.natAbs with ⟨below, hlow, hhigh, heq, _, _⟩
    have hd' := natAbs_units d'
    have htarget : ((n.natAbs * unitsOfOne : Nat) : Int) = n.natAbs * unitsOfOne :=
      Int.natCast_mul _ _
    unfold distance
    rw [units_ofInt h] at hne ⊢
    rw [hmagnitude, heq]
    rw [heq] at hne
    by_cases hn : n < 0
    · -- Distances from a negative integer are those from its absolute value, with all
      -- signs changed.
      rw [if_pos hn] at hne ⊢
      have habs : n * unitsOfOne = -(n.natAbs * unitsOfOne : Int) := by
        rw [show (n.natAbs : Int) = -n by omega, Int.neg_mul, Int.neg_neg]
      have hopposite : -d'.units ≠ size (nearer below (n.natAbs * unitsOfOne)) :=
        fun heq => hne (by rw [← heq, Int.neg_neg])
      have hnearest := size_nearer hlow hhigh (by rw [Int.natAbs_neg, hd']) hopposite
      rw [habs, ← htarget]
      generalize n.natAbs * unitsOfOne = target at *
      generalize size (nearer below target) = nearest at *
      omega
    · rw [if_neg hn] at hne ⊢
      have habs : n * unitsOfOne = (n.natAbs * unitsOfOne : Int) := by
        rw [show (n.natAbs : Int) = n by omega]
      have hnearest := size_nearer hlow hhigh hd' hne
      rw [habs, ← htarget]
      exact hnearest

/-- Integers of at most 53 bits are not changed. -/
theorem units_ofInt_of_le (h : n.natAbs ≤ 2 ^ 53) : (ofInt n).units = n * unitsOfOne := by
  rcases nearestMagnitude_eq n.natAbs with ⟨below, _, _, heq, _, hexact⟩
  have hsize := hexact h
  have hstep := size_lt_succ below
  -- The target is the lower neighbour itself, so it is not half way to the next one.
  have hbelow : nearer below (n.natAbs * unitsOfOne) = below := by
    rcases nearer_cases below (n.natAbs * unitsOfOne) with ⟨heq, _⟩ | ⟨_, hhalf, _⟩
    · exact heq
    · omega
  rw [units_ofInt (by omega), heq, hbelow, hsize, Int.natCast_mul]
  split
  · rw [show (n.natAbs : Int) = -n by omega, Int.neg_mul, Int.neg_neg]
  · rw [show (n.natAbs : Int) = n by omega]

end

end Double

end DocumentMapper
