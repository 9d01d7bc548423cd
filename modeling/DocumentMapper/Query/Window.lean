import DocumentMapper.Query.Error

/-!
# Windows of rows

A window drops a number of rows and then keeps a number of them, where keeping none
stands for keeping all. Skipping and taking rows of a window gives a window again,
except where all rows would be gone or a count would leave its 32 bits.

## Main definitions

* `Window`: The two counts.
* `Window.skipRows`, `Window.takeRows`: The window after a further skip or take.
-/

namespace DocumentMapper

/-- The rows to drop, and then the rows to keep; a limit of zero keeps all. -/
structure Window where
  skip : Nat := 0
  limit : Nat := 0
deriving DecidableEq, Repr, Inhabited

namespace Window

/-- The largest count. -/
def maxCount : Nat :=
  2147483647

/-- The window after dropping further rows, which come off the limit. -/
def skipRows (w : Window) (count : Nat) : Except QueryError Window :=
  if 0 < w.limit ∧ w.limit ≤ count then .error (.unsupported .skipPastTake)
  else if maxCount < w.skip + count then .error (.unsupported .skipOverflow)
  else .ok ⟨w.skip + count, w.limit - count⟩

/-- The window after keeping a number of its rows. -/
def takeRows (w : Window) (count : Nat) : Except QueryError Window :=
  if count = 0 then .error (.unsupported .emptyTake)
  else .ok ⟨w.skip, if w.limit = 0 then count else min w.limit count⟩

end Window

/-- The count of a clause: a constant integer of 32 bits that is not negative. -/
def clauseCount (clause : String) (e : Expr) : Except QueryError Nat :=
  match e.asConstant?.bind Value.asInt32? with
  | some n => if 0 ≤ n.toInt then .ok n.toInt.toNat else .error (.invalid (.countRequired clause))
  | none => .error (.invalid (.countRequired clause))

/-- The count of an optional clause. -/
def clauseCount? (clause : String) : Option Expr → Except QueryError (Option Nat)
  | none => .ok none
  | some e => some <$> clauseCount clause e

/-- The window after the clauses of a level: the skip comes before the take. -/
def Select.narrow (s : Select) (w : Window) : Except QueryError Window := do
  let take ← clauseCount? "take" s.take
  let skip ← clauseCount? "skip" s.skip
  let w ← match skip with
    | some count => w.skipRows count
    | none => pure w
  match take with
  | some count => w.takeRows count
  | none => return w

end DocumentMapper
