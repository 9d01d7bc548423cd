import DocumentMapper.Proofs.Query.FlatQuery
import DocumentMapper.Proofs.Query.WellOrdered

/-!
# When a query respects the order of its calls

A flat query filters, sorts and cuts out a window, in this order and each of them once.
Every sequence of calls over filters and keys is accepted whose windows can be narrowed,
also where the calls say something else. So running the query object gives what the
calls give one after another exactly if doing everything at once does
(`QueryBuilder.run_compile`). It does for well-ordered calls, whatever the filters, the
keys and the rows are.

Taking a row and then filtering is accepted as well, and comes to filtering and then
taking a row.

## Theorems

* `QueryBuilder.run_compile`: When a query object gives what the calls give.
* `Overtaking.takeThenFilter_differs`: Calls that are accepted and change their meaning.
-/

namespace DocumentMapper

/-- Running the query object of accepted calls is doing everything at once, so that it
    gives what the calls give one after another exactly if that does. So it is for
    well-ordered calls. -/
theorem QueryBuilder.run_compile (order : Value → Value → Ordering) [Std.TransCmp order]
    {store : Option Store} {database name : String} {calls : List Call} {q : QueryObject}
    (hpaths : (sortPaths calls).Nodup) (h : (built database name calls).compile store = .ok q) :
    (∀ rows, Evaluate calls rows → q.run order rows = allAtOnce order calls rows) ∧
    ((∀ rows, Evaluate calls rows → q.run order rows = inOrder order calls rows) ↔
      ∀ rows, Evaluate calls rows → allAtOnce order calls rows = inOrder order calls rows) ∧
    (WellOrdered (calls.map Call.kind) →
      ∀ rows, Evaluate calls rows → q.run order rows = inOrder order calls rows) := by
  have hrun : ∀ rows, Evaluate calls rows → q.run order rows = allAtOnce order calls rows :=
    fun rows hrows => run_eq_allAtOnce hpaths h hrows
  refine ⟨hrun, ?_, ?_⟩
  · constructor
    · intro hagree rows hrows
      rw [← hrun rows hrows, hagree rows hrows]
    · intro hagree rows hrows
      rw [hrun rows hrows, hagree rows hrows]
  · intro hordered rows hrows
    rw [hrun rows hrows, hordered.inOrder_eq hpaths hrows]

namespace Overtaking

/-- The field of a name. -/
def field (name : String) (h : '.' ∉ name.toList) : FieldChain where
  parents := []
  last := name
  dotless other hother := by
    rw [List.mem_singleton.mp hother]
    exact h
  namesField h := absurd rfl h

/-- The field of what is done. -/
def done : FieldChain :=
  field "Done" (by decide)

/-- The filter for what is done. -/
def isDone : Conjunction FieldChain :=
  .test ⟨done, .equal, .boolean true, false, rfl, rfl⟩

/-- A row that says whether it is done. -/
def task (b : Bool) : Document :=
  ⟨[("Done", .boolean b)]⟩

/-- Filters, sorts, and takes a row. -/
def filterThenTake : List Call :=
  [.filter isDone, .orderBy ⟨.descending, field "Due" (by decide)⟩, .take 1]

/-- Takes a row and filters then. -/
def takeThenFilter : List Call :=
  [.take 1, .filter isDone]

/-- The number that a value is, if it is a short one. -/
def numberOf : Value → Int
  | .int32 n => n.toInt
  | _ => 0

/-- Values in the order of their numbers. -/
def byNumber : Value → Value → Ordering :=
  compareOn numberOf

instance transCmp_byNumber : Std.TransCmp byNumber :=
  inferInstanceAs (Std.TransCmp (compareOn numberOf))

/-- The expressions of the calls have values on rows that say whether they are done. -/
theorem evaluate_tasks {calls : List Call}
    (hcalls : calls = takeThenFilter ∨ calls = filterThenTake) :
    Evaluate calls [task false, task true] := by
  have hdone : ∀ b, (Call.filter isDone).EvaluatesAt (task b) := by
    intro b
    cases b <;> exact ⟨_, rfl⟩
  intro row hrow call hcall
  have hrow : ∃ b, row = task b := by
    rcases List.mem_cons.mp hrow with rfl | hrow
    · exact ⟨false, rfl⟩
    · exact ⟨true, List.mem_singleton.mp hrow⟩
  rcases hrow with ⟨b, rfl⟩
  rcases hcalls with rfl | rfl
  · rcases List.mem_cons.mp hcall with rfl | hcall
    · exact trivial
    · rw [List.mem_singleton.mp hcall]
      exact hdone b
  · rcases List.mem_cons.mp hcall with rfl | hcall
    · exact hdone b
    · rcases List.mem_cons.mp hcall with rfl | hcall
      · cases b <;> exact ⟨_, rfl⟩
      · rw [List.mem_singleton.mp hcall]
        exact trivial

/-- Filtering, sorting and taking come to the same at once and one after another. -/
theorem filterThenTake_run :
    ∃ q, (built "db" "tasks" filterThenTake).compile none = .ok q ∧
      q.run byNumber [task false, task true] =
        inOrder byNumber filterThenTake [task false, task true] := by
  have hq : ∃ q, (built "db" "tasks" filterThenTake).compile none = .ok q := ⟨_, rfl⟩
  rcases hq with ⟨q, hq⟩
  have hrun := QueryBuilder.run_compile byNumber (by decide) hq
  exact ⟨q, hq, hrun.2.2 (by decide) _ (evaluate_tasks (.inr rfl))⟩

/-- Taking a row and then filtering is accepted. One after another the calls leave nothing
    of a row that is not done and one that is, and the query object selects the latter. -/
theorem takeThenFilter_differs :
    ∃ q, (built "db" "tasks" takeThenFilter).compile none = .ok q ∧
      (sortPaths takeThenFilter).Nodup ∧ Evaluate takeThenFilter [task false, task true] ∧
      inOrder byNumber takeThenFilter [task false, task true] = [] ∧
      q.run byNumber [task false, task true] = [task true] := by
  have hq : ∃ q, (built "db" "tasks" takeThenFilter).compile none = .ok q := ⟨_, rfl⟩
  rcases hq with ⟨q, hq⟩
  refine ⟨q, hq, by decide, evaluate_tasks (.inl rfl), ?_, ?_⟩
  · with_unfolding_all rfl
  · rw [run_eq_allAtOnce (by decide) hq (evaluate_tasks (.inl rfl))]
    with_unfolding_all rfl

end Overtaking

end DocumentMapper
