import DocumentMapper.Proofs.Query.PlacedConditions

/-!
# Conditions under scopes that come and go

Work on a builder enters scopes, adds conditions under them, and may fail anywhere. What
does a failure leave behind? Two things could be left: a part of a condition that was not
accepted, and scopes that nobody left.

Nothing of a condition is left, since what is opened on the way to its place is empty, and
in an empty document nothing is in the way. So the document only ever changes by a whole
condition that is put in its place (`Grows`).

Scopes can be left by work that fails between entering and leaving. So the claim that all
work keeps cannot be that the scopes are as before. It is that they are the scopes before
with more behind them (`run_scopes`), and that is enough for the scope around the work: it
is left by going back to a number of scopes, and those that are kept are those from before,
however many are behind them.

## Main definitions

* `Work`: Conditions, failures and scopes, nested in any way.
* `Grows`: Documents that differ by conditions put in their places.

## Theorems

* `ConditionBuilder.withScope_run`: What work within a further scope comes to.
* `Work.run_scopes`: Work adds to the scopes and takes none away.
* `Work.run_grows`: Work changes the document by whole conditions only.
* `ConditionBuilder.add_cases`: A condition is rejected without a trace, or in its place.
* `Work.rejection_leaves_builder`: What is left after a scope was left.
-/

namespace DocumentMapper

namespace Building

variable {α : Type} (b : ConditionBuilder)

theorem run_modify (f : ConditionBuilder → ConditionBuilder) :
    (modify f : Building PUnit).run.run b = (.ok ⟨⟩, f b) :=
  rfl

theorem run_tryCatch (work : Building α) (handle : QueryError → Building α) :
    (tryCatch work handle).run.run b =
      match work.run.run b with
      | (.ok a, b') => (.ok a, b')
      | (.error e, b') => (handle e).run.run b' := by
  simp only [ExceptT.run_tryCatch, StateT.run_bind]
  rcases work.run.run b with ⟨_ | _, b'⟩ <;> rfl

/-- A change that comes last is made whatever becomes of the work. -/
theorem run_finally (work : Building α) (f : ConditionBuilder → ConditionBuilder) :
    (tryFinally work (modify f)).run.run b = ((work.run.run b).1, f (work.run.run b).2) := by
  rw [tryFinally, ExceptT.run_map, StateT.run_map]
  simp only [tryFinally', ExceptT.run_mk, StateT.run_bind]
  rcases hwork : work.run.run b with ⟨e | a, b'⟩
  · have hsame : work b = (.error e, b') := hwork
    simp only [StateT.run, hsame]
    rfl
  · have hsame : work b = (.ok a, b') := hwork
    simp only [StateT.run, hsame]
    rfl

end Building

/-- Work on a condition builder. -/
inductive Work where
  /-- Nothing. -/
  | skip
  /-- Adds a condition. -/
  | add (v : Value)
  /-- Fails for a reason of its own. -/
  | fail (e : QueryError)
  /-- Enters a scope that it does not leave. -/
  | enter (s : Scope)
  /-- One after the other, unless the first one fails. -/
  | seq (first second : Work)
  /-- Work in a scope that is left in any case. -/
  | within (s : Scope) (body : Work)
  /-- Work in a scope that is not left if the work fails. -/
  | entered (s : Scope) (body : Work)
  /-- Work that may fail. -/
  | attempt (body : Work)

namespace Work

/-- What the work does. -/
def perform : Work → Building Unit
  | skip => pure ()
  | add v => ConditionBuilder.add v
  | fail e => throw e
  | enter s => modify (·.enter s)
  | seq first second => do
    first.perform
    second.perform
  | within s body => ConditionBuilder.withScope s body.perform
  | entered s body => do
    let depth := (← get).depth
    modify (·.enter s)
    body.perform
    modify (·.leave depth)
  | attempt body => tryCatch body.perform fun _ => pure ()

/-- The outcome of the work, and the builder as it is left. -/
def run (work : Work) (b : ConditionBuilder) : Except QueryError Unit × ConditionBuilder :=
  work.perform.run.run b

end Work

/-- A document that comes from another one by putting values where nothing was. -/
inductive Document.Grows : Document → Document → Prop where
  | same (d : Document) : Grows d d
  | puts {d d' d'' : Document} {v : Value} {path : List String} :
      Grows d d' → Puts v path d' d'' → Grows d d''

theorem Document.Grows.trans {d d' d'' : Document} (h : Grows d d') (h' : Grows d' d'') :
    Grows d d'' := by
  induction h' with
  | same => exact h
  | puts _ hputs ih => exact ih.puts hputs

namespace ConditionBuilder

/-- The scope is left whatever becomes of the work. -/
theorem withScope_run {α : Type} (s : Scope) (work : Building α) (b : ConditionBuilder) :
    (withScope s work).run.run b =
      ((work.run.run (b.enter s)).1, (work.run.run (b.enter s)).2.leave b.depth) := by
  rw [withScope, Building.run_bind, Building.run_get]
  dsimp only
  rw [Building.run_bind, Building.run_modify]
  dsimp only
  exact Building.run_finally _ work (·.leave b.depth)

theorem leave_scopes {b b' : ConditionBuilder} {more : List Scope}
    (h : b'.scopes = b.scopes ++ more) : (b'.leave b.depth).scopes = b.scopes := by
  rw [leave, h, depth]
  exact List.take_left

/-- A condition is rejected and the builder is as it was, or the condition is in its place
    and nothing else has changed. -/
theorem add_cases (v : Value) (b : ConditionBuilder) :
    (∃ e, (add v).run.run b = (.error e, b)) ∨
      ∃ d, (add v).run.run b = (.ok (), { b with query := d }) ∧
        ((d = b.query ∧ ∃ w, d.getPath? (conditionPath b.scopes) = some w ∧ (w == v) = true) ∨
          Document.Puts v (conditionPath b.scopes) b.query d) := by
  rw [add_run, Document.addCondition]
  cases hpath : conditionPath b.scopes with
  | nil => exact .inl ⟨_, rfl⟩
  | cons key rest =>
      dsimp only
      cases hplace : b.query.place? v (key :: rest) with
      | none => exact .inl ⟨_, rfl⟩
      | some d =>
          refine .inr ⟨d, rfl, ?_⟩
          rcases Document.place?_cases _ hplace with ⟨rfl, hthere⟩ | hputs
          · exact .inl ⟨rfl, hthere⟩
          · exact .inr hputs

end ConditionBuilder

namespace Work

theorem run_within (s : Scope) (body : Work) (b : ConditionBuilder) :
    (within s body).run b = ((body.run (b.enter s)).1, (body.run (b.enter s)).2.leave b.depth) :=
  ConditionBuilder.withScope_run s body.perform b

/-- By hand the scope is left only if the work does not fail. -/
theorem run_entered (s : Scope) (body : Work) (b : ConditionBuilder) :
    (entered s body).run b =
      match body.run (b.enter s) with
      | (.ok _, b') => (.ok (), b'.leave b.depth)
      | (.error e, b') => (.error e, b') := by
  rw [run, perform, Building.run_bind, Building.run_get]
  dsimp only
  rw [Building.run_bind, Building.run_modify]
  dsimp only
  rw [Building.run_bind, run]
  rcases body.perform.run.run (b.enter s) with ⟨_ | _, b'⟩ <;> rfl

theorem run_seq (first second : Work) (b : ConditionBuilder) :
    (seq first second).run b =
      match first.run b with
      | (.ok _, b') => second.run b'
      | (.error e, b') => (.error e, b') := by
  rw [run, perform, Building.run_bind, run]
  rcases first.perform.run.run b with ⟨_ | _, b'⟩ <;> rfl

theorem run_attempt (body : Work) (b : ConditionBuilder) :
    (attempt body).run b = (.ok (), (body.run b).2) := by
  rw [run, perform, Building.run_tryCatch, run]
  rcases body.perform.run.run b with ⟨_ | _, b'⟩ <;> rfl

theorem scopes_of_enter {b b' : ConditionBuilder} {s : Scope} {more : List Scope}
    (h : b'.scopes = (b.enter s).scopes ++ more) : b'.scopes = b.scopes ++ (s :: more) := by
  rw [h, ConditionBuilder.enter, List.append_assoc]
  rfl

/-- Work adds to the scopes and takes none away, also where it fails. -/
theorem run_scopes (work : Work) :
    ∀ b : ConditionBuilder, ∃ more, (work.run b).2.scopes = b.scopes ++ more := by
  -- The scopes around the work are the first ones, and leaving keeps the first ones.
  have hnone : ∀ b : ConditionBuilder, ∃ more, b.scopes = b.scopes ++ more :=
    fun b => ⟨[], (List.append_nil _).symm⟩
  induction work with
  | skip => exact hnone
  | fail e => exact hnone
  | add v =>
      intro b
      rcases ConditionBuilder.add_cases v b with ⟨e, hrun⟩ | ⟨d, hrun, _⟩
      · rw [run, perform, hrun]
        exact hnone b
      · rw [run, perform, hrun]
        exact hnone b
  | enter s => exact fun b => ⟨[s], rfl⟩
  | seq first second ihfirst ihsecond =>
      intro b
      rw [run_seq]
      rcases ihfirst b with ⟨more, hfirst⟩
      rcases hrun : first.run b with ⟨_ | _, b'⟩
      · rw [hrun] at hfirst
        exact ⟨more, hfirst⟩
      · rw [hrun] at hfirst
        rcases ihsecond b' with ⟨further, hsecond⟩
        exact ⟨more ++ further, by rw [hsecond, hfirst, List.append_assoc]⟩
  | within s body ih =>
      intro b
      rw [run_within]
      rcases ih (b.enter s) with ⟨more, hbody⟩
      rw [ConditionBuilder.leave_scopes (scopes_of_enter hbody)]
      exact hnone b
  | entered s body ih =>
      intro b
      rw [run_entered]
      rcases ih (b.enter s) with ⟨more, hbody⟩
      rcases hrun : body.run (b.enter s) with ⟨_ | _, b'⟩
      · -- Nobody leaves the scope, nor any that the work has entered.
        rw [hrun] at hbody
        exact ⟨s :: more, scopes_of_enter hbody⟩
      · rw [hrun] at hbody
        dsimp only
        rw [ConditionBuilder.leave_scopes (scopes_of_enter hbody)]
        exact hnone b
  | attempt body ih =>
      intro b
      rw [run_attempt]
      exact ih b

/-- Work changes the document by whole conditions only. -/
theorem run_grows (work : Work) :
    ∀ b : ConditionBuilder, Document.Grows b.query (work.run b).2.query := by
  induction work with
  | skip => exact fun b => .same b.query
  | fail e => exact fun b => .same b.query
  | add v =>
      intro b
      rcases ConditionBuilder.add_cases v b with ⟨e, hrun⟩ | ⟨d, hrun, ⟨rfl, _⟩ | hputs⟩
      · rw [run, perform, hrun]
        exact .same b.query
      · rw [run, perform, hrun]
        exact .same b.query
      · rw [run, perform, hrun]
        exact .puts (.same b.query) hputs
  | enter s => exact fun b => .same b.query
  | seq first second ihfirst ihsecond =>
      intro b
      rw [run_seq]
      have hfirst := ihfirst b
      -- After a failure the second part is not run at all.
      rcases hrun : first.run b with ⟨_ | _, b'⟩
      · rw [hrun] at hfirst
        exact hfirst
      · rw [hrun] at hfirst
        exact hfirst.trans (ihsecond b')
  | within s body ih =>
      intro b
      rw [run_within]
      exact ih (b.enter s)
  | entered s body ih =>
      intro b
      rw [run_entered]
      have hbody := ih (b.enter s)
      rcases hrun : body.run (b.enter s) with ⟨_ | _, b'⟩
      · rw [hrun] at hbody
        exact hbody
      · rw [hrun] at hbody
        exact hbody
  | attempt body ih =>
      intro b
      rw [run_attempt]
      exact ih b

/-- A condition that is rejected leaves the builder as it was. Where the outermost scope
    ends, in either of the ways to leave it, the scopes are those from before, whatever was
    rejected inside. The document has grown by whole conditions, and a later condition is
    under its own path, with no other path affected. -/
theorem rejection_leaves_builder (b : ConditionBuilder) (s : Scope) (body : Work) :
    (∀ v e b', (ConditionBuilder.add v).run.run b = (.error e, b') → b' = b) ∧
      ∀ outermost : Work, (outermost = within s body ∨
          outermost = entered s body ∧ (body.run (b.enter s)).1 = .ok ()) →
        (outermost.run b).2.scopes = b.scopes ∧
          Document.Grows b.query (outermost.run b).2.query ∧
          ∀ v b', (ConditionBuilder.add v).run.run (outermost.run b).2 = (.ok (), b') →
            b'.scopes = b.scopes ∧
              ((b'.query = (outermost.run b).2.query ∧
                ∃ w, b'.query.getPath? (conditionPath b.scopes) = some w ∧ (w == v) = true) ∨
              Document.Puts v (conditionPath b.scopes) (outermost.run b).2.query b'.query) := by
  refine ⟨?_, ?_⟩
  · intro v e b' hrejected
    rcases ConditionBuilder.add_cases v b with ⟨e', hrun⟩ | ⟨d, hrun, _⟩
    · rw [hrun] at hrejected
      exact (congrArg Prod.snd hrejected).symm
    · rw [hrun] at hrejected
      cases hrejected
  · intro outermost hscope
    -- However the scope is left, what is kept are the scopes in front of it.
    have hscopes : (outermost.run b).2.scopes = b.scopes := by
      rcases run_scopes body (b.enter s) with ⟨more, hbody⟩
      have hleft := ConditionBuilder.leave_scopes (scopes_of_enter hbody)
      rcases hscope with rfl | ⟨rfl, hok⟩
      · rw [run_within]
        exact hleft
      · rw [run_entered]
        rcases hrun : body.run (b.enter s) with ⟨e | _, b'⟩
        · rw [hrun] at hok
          cases hok
        · rw [hrun] at hleft
          exact hleft
    refine ⟨hscopes, run_grows outermost b, ?_⟩
    intro v b' haccepted
    rcases ConditionBuilder.add_cases v (outermost.run b).2 with ⟨e, hrun⟩ | ⟨d, hrun, hplaced⟩
    · rw [hrun] at haccepted
      cases haccepted
    · rw [hrun] at haccepted
      have hb' := congrArg Prod.snd haccepted
      dsimp only at hb'
      rw [hscopes] at hplaced
      rw [← hb']
      exact ⟨hscopes, hplaced⟩

/-- A condition for which another one stands in the way, in scopes of its own. -/
def rejected : Work :=
  seq (add (.int32 21)) (entered (.operator "$not") (within (.operator "$gt") (add (.int32 5))))

/-- The builder where the last of its conditions is added. -/
def opened : ConditionBuilder where
  query := ⟨[("Age", .int32 21)]⟩
  scopes := [.field "Age", .operator "$not", .operator "$gt"]

/-- The condition is rejected and leaves no document behind under the two operators; and once
    the field is left, no scope is open, whether it was left for the rejection or after it. -/
theorem scopes_after_rejected :
    (ConditionBuilder.add (.int32 5)).run.run opened =
        (.error (.invalid (.conflict ["Age", "$not", "$gt"])), opened) ∧
      ((within (.field "Age") rejected).run {}).1 =
        .error (.invalid (.conflict ["Age", "$not", "$gt"])) ∧
      ((within (.field "Age") rejected).run {}).2.scopes = [] ∧
      ((entered (.field "Age") (attempt rejected)).run {}).2.scopes = [] := by
  have hadd : ∃ b', (ConditionBuilder.add (.int32 5)).run.run opened =
      (.error (.invalid (.conflict ["Age", "$not", "$gt"])), b') := ⟨_, rfl⟩
  rcases hadd with ⟨b', hadd⟩
  have hleft := (rejection_leaves_builder opened (.field "Age") rejected).1 _ _ _ hadd
  have hwithin := (rejection_leaves_builder {} (.field "Age") rejected).2 _ (.inl rfl)
  have hentered := (rejection_leaves_builder {} (.field "Age") (attempt rejected)).2 _
    (.inr ⟨rfl, rfl⟩)
  rw [hleft] at hadd
  exact ⟨hadd, rfl, hwithin.1, hentered.1⟩

end Work

end DocumentMapper
