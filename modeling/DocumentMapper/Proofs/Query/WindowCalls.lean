import Mathlib.Algebra.GroupWithZero.Nat
import DocumentMapper.Proofs.Query.FlatQuery

/-!
# Skips and takes

A query that only skips and takes rows has a level for each call, and every step of the
translation but the last leaves these levels as they are. The last one narrows the window of
the whole collection, one call after another (`compile_windowed`). What a narrowed window
holds is known from the calls alone: the drop is all that was skipped, and the limit is what
the takes and the skips after them have left (`Window.Tracks`). So a call is refused for one of
four reasons that can be read off the calls, and the counts of an accepted query stay within 32
bits on the way.

## Main definitions

* `WindowCall`, `windowed`: Skips and takes, and the query they build.
* `skippedRows`, `rowsLeft`: What calls skip, and the limit they leave.
* `Inexpressible`: The reasons for which no window is what calls ask for.

## Theorems

* `compile_windowed`: The query object of skips and takes.
* `tracks_narrow`: What one call does to a window.
* `QueryBuilder.compile_windows`: Which calls are accepted, and what they come to.
-/

namespace DocumentMapper

open QueryBuilder (label)

/-- A call that cuts rows off. -/
inductive WindowCall where
  | skip (count : Int32)
  | take (count : Int32)
deriving DecidableEq, Repr

namespace WindowCall

def count : WindowCall → Int32
  | skip count => count
  | take count => count

/-- The call among those of other kinds. -/
def call : WindowCall → Call
  | skip count => .skip count
  | take count => .take count

/-- The rows that a call skips. -/
def skipped : WindowCall → Nat
  | skip count => count.toInt.toNat
  | take _ => 0

/-- The limit after a call; without a take there is none. -/
def leave (left : Option Nat) : WindowCall → Option Nat
  | skip count => left.map (· - count.toInt.toNat)
  | take count => some (left.elim count.toInt.toNat (min · count.toInt.toNat))

end WindowCall

/-- The query that calls build for a collection. -/
def windowed (database name : String) (documentType : MemberType) (calls : List WindowCall) :
    QueryBuilder :=
  calls.foldl (fun q c => c.call.extend q) (.ofCollection database name documentType)

/-- The number of rows that calls skip in all. -/
def skippedRows (calls : List WindowCall) : Nat :=
  (calls.map WindowCall.skipped).sum

/-- The number of rows that calls leave at most, if there is a take among them. -/
def rowsLeft (calls : List WindowCall) : Option Nat :=
  calls.foldl WindowCall.leave none

/-- The window after calls. -/
def narrowAll (calls : List WindowCall) : Except QueryError Window :=
  (calls.map WindowCall.call).foldlM Call.narrow {}

/-- Calls that ask for what no window is: a count is negative, no row is taken, a skip passes
    the end of what is left by then, or more rows are skipped than can be counted. -/
def Inexpressible (calls : List WindowCall) : Prop :=
  (∃ c ∈ calls, c.count < 0) ∨ .take 0 ∈ calls ∨
    (∃ before count after left, calls = before ++ .skip count :: after ∧
      rowsLeft before = some left ∧ left ≤ count.toInt.toNat) ∨
    Window.maxCount < skippedRows calls

theorem windowed_concat {database name : String} {documentType : MemberType}
    (calls : List WindowCall) (c : WindowCall) :
    windowed database name documentType (calls ++ [c]) =
      c.call.extend (windowed database name documentType calls) := by
  unfold windowed
  rw [List.foldl_concat]

theorem rowsLeft_concat (calls : List WindowCall) (c : WindowCall) :
    rowsLeft (calls ++ [c]) = c.leave (rowsLeft calls) := by
  unfold rowsLeft
  rw [List.foldl_concat]

theorem skippedRows_append (calls more : List WindowCall) :
    skippedRows (calls ++ more) = skippedRows calls + skippedRows more := by
  unfold skippedRows
  rw [List.map_append, List.sum_append]

theorem skippedRows_concat (calls : List WindowCall) (c : WindowCall) :
    skippedRows (calls ++ [c]) = skippedRows calls + c.skipped := by
  rw [skippedRows_append]
  rfl

theorem narrowAll_concat (calls : List WindowCall) (c : WindowCall) :
    narrowAll (calls ++ [c]) = (do Call.narrow (← narrowAll calls) c.call) := by
  unfold narrowAll
  rw [List.map_append, List.foldlM_append]
  refine congrArg (_ >>= ·) (funext fun w => ?_)
  exact bind_pure (Call.narrow w c.call)

/-! ### Levels that only cut -/

/-- The level that a call puts around a source. -/
def WindowCall.level (name : String) (source : Expr) : WindowCall → Select
  | skip count => { Select.ofSource name source with skip := some (countClause count) }
  | take count => { Select.ofSource name source with take := some (countClause count) }

/-- A level that is the same after folding, binding and hoisting. -/
structure Select.Untouched (store : Option Store) (s : Select) : Prop where
  fold : s.fold = pure s
  bind : s.bind store = .ok s
  hoist : ∀ outermost, (s.hoist outermost).run {} = (s, {})

namespace Select.Untouched

variable {store : Option Store}

theorem ofCollection (c : Collection) (name : String) :
    (Select.ofSource name (.collection c)).Untouched store where
  fold := by
    simp only [ofSource, Select.fold, foldOption, foldGroup, foldNamed, foldOrder, Expr.fold,
      map_pure, pure_bind]
  bind := rfl
  hoist outermost := by
    cases outermost <;>
      simp only [ofSource, Select.hoist, hoistOption, hoistGroup, hoistNamed, hoistKeys,
        Expr.hoist, pure_bind] <;> rfl

/-- A level that only cuts is the same if what it cuts is. -/
theorem around {s : Select} (h : s.Untouched store) (name : String) (c : WindowCall) :
    (c.level name (.select s)).Untouched store where
  fold := by
    cases c <;>
      simp only [WindowCall.level, ofSource, Select.fold, foldOption, foldGroup, foldNamed,
        foldOrder, Expr.fold, countClause, h.fold, map_pure, pure_bind]
  bind := by
    cases c with
    | skip count | take count =>
        simp only [WindowCall.level, ofSource, Select.bind, bindOption, bindGroup, bindNamed,
          bindOrder, countClause, Expr.bind, Expr.parameterChain?, h.bind, Except.ok_bind]
        rfl
  hoist outermost := by
    have hsource : ((Expr.select s).hoist false).run {} = (.select s, {}) := by
      rw [Expr.hoist, StateT.run_bind, h.hoist]
      rfl
    cases c with
    | skip count | take count =>
        simp only [WindowCall.level, ofSource, Select.hoist, hoistOption, hoistGroup, hoistNamed,
          hoistKeys, countClause, Expr.hoist, pure_bind, bind_assoc, StateT.run_bind, h.hoist]
        cases outermost <;> rfl

end Select.Untouched

/-- What a level that only cuts adds to the query object of what it cuts. -/
theorem WindowCall.addClauses_level (c : WindowCall) (name : String) (source : Expr)
    (q : QueryObject) :
    (c.level name source).addClauses q =
      (fun w => { q with window := w }) <$> Call.narrow q.window c.call := by
  cases c with
  | skip count | take count =>
      simp only [level, Select.ofSource, Select.addClauses, QueryObject.addFilter,
        QueryObject.addKeys, Except.ok_bind, Select.narrow, clauseCount?, call, Call.narrow,
        map_eq_pure_bind, bind_assoc, pure_bind]
      rfl

/-- A query that calls build for a collection: nothing changes its levels, and their query
    object is that of the collection with the window of the calls. -/
structure Cuts (store : Option Store) (c : Collection) (calls : List WindowCall)
    (q : QueryBuilder) : Prop where
  projector : q.projector = none
  untouched : q.level.Untouched store
  ungrouped : q.level.group = none
  object : ∀ outermost, q.level.queryObjectWithin outermost =
    (fun w => { QueryObject.ofCollection c with window := w }) <$> narrowAll calls

theorem cuts (store : Option Store) (database name : String) (documentType : MemberType)
    (calls : List WindowCall) :
    Cuts store ⟨label 0, database, name, documentType⟩ calls
      (windowed database name documentType calls) := by
  induction calls using List.reverseRecOn with
  | nil => exact ⟨rfl, .ofCollection _ _, rfl, fun outermost => by cases outermost <;> rfl⟩
  | append_singleton calls c ih =>
      -- Each call puts a level around the query that has nothing but its count.
      have hlevel : (c.call.extend (windowed database name documentType calls)).level =
          c.level (label (windowed database name documentType calls).next)
            (.select (windowed database name documentType calls).level) := by
        cases c <;> rfl
      rw [windowed_concat]
      refine ⟨?_, ?_, ?_, fun outermost => ?_⟩
      · cases c <;> exact ih.projector
      · rw [hlevel]
        exact ih.untouched.around _ c
      · cases c <;> rfl
      · have hinner : (c.level (label (windowed database name documentType calls).next)
            (.select (windowed database name documentType calls).level)).queryObjectWithin
              outermost =
            (windowed database name documentType calls).level.queryObjectWithin false >>=
              (c.level (label (windowed database name documentType calls).next)
                (.select (windowed database name documentType calls).level)).addClauses := by
          cases c <;> rfl
        rw [hlevel, hinner, ih.object, narrowAll_concat, bind_map_left, map_bind]
        refine congrArg (narrowAll calls >>= ·) (funext fun w => ?_)
        exact c.addClauses_level _ _ _

/-- Skips and takes of a collection are translated to its query object with their window. -/
theorem compile_windowed (store : Option Store) (database name : String)
    (documentType : MemberType) (calls : List WindowCall) :
    (windowed database name documentType calls).compile store =
      (fun w =>
          { QueryObject.ofCollection ⟨label 0, database, name, documentType⟩ with window := w })
        <$> narrowAll calls := by
  have hcuts := cuts store database name documentType calls
  generalize windowed database name documentType calls = q at hcuts
  have hexpr : q.toExpr = .select q.level := by
    rw [QueryBuilder.toExpr, hcuts.projector]
  -- No stage finds anything to do, so the levels reach the query object as they were built.
  have hfolded : (Expr.select q.level).folded = .ok (.select q.level, 0) := by
    rw [Expr.folded, Expr.fold, hcuts.untouched.fold]
    rfl
  have hbound : (Expr.select q.level).bind store none = .ok (.select q.level) := by
    simp only [Expr.bind, Expr.parameterChain?, hcuts.untouched.bind, Except.ok_bind]
    rfl
  have hhoisted : (Expr.select q.level).hoistOrder = .select q.level := by
    rw [Expr.hoistOrder, Expr.hoist, StateT.run_bind, hcuts.untouched.hoist]
    rfl
  rw [QueryBuilder.compile, hexpr, Expr.compile]
  simp only [hfolded, hbound, hhoisted, Expr.outermost, Except.ok_bind, Select.queryObject,
    hcuts.object, QueryObject.addGrouping, hcuts.ungrouped, bind_map_left]
  rfl

/-! ### Windows and what is known of them from the calls -/

/-- The counts of a window are those that can be read off the calls, and have 32 bits. -/
structure Window.Tracks (w : Window) (calls : List WindowCall) : Prop where
  skip_eq : w.skip = skippedRows calls
  skip_le : w.skip ≤ maxCount
  limit_eq : rowsLeft calls = if w.limit = 0 then none else some w.limit
  limit_le : w.limit ≤ maxCount

/-- The reasons to refuse a call after others. -/
def WindowCall.Refused (before : List WindowCall) (c : WindowCall) : Prop :=
  c.count < 0 ∨ c = .take 0 ∨
    (∃ count left, c = .skip count ∧ rowsLeft before = some left ∧ left ≤ count.toInt.toNat) ∨
    Window.maxCount < skippedRows (before ++ [c])

theorem clauseCount_countClause (clause : String) (count : Int32) :
    clauseCount clause (countClause count) =
      if 0 ≤ count.toInt then .ok count.toInt.toNat
      else .error (.invalid (.countRequired clause)) := by
  rfl

namespace Window.Tracks

variable {w : Window} {calls : List WindowCall} {count : Int32}

theorem start : ({} : Window).Tracks [] where
  skip_eq := rfl
  skip_le := Nat.zero_le _
  limit_eq := rfl
  limit_le := Nat.zero_le _

/-- A limit is passed by a skip only if there is one. -/
theorem passes_iff (h : w.Tracks calls) (n : Nat) :
    (∃ left, rowsLeft calls = some left ∧ left ≤ n) ↔ 0 < w.limit ∧ w.limit ≤ n := by
  rw [h.limit_eq]
  by_cases hzero : w.limit = 0
  · rw [if_pos hzero, hzero]
    constructor
    · rintro ⟨left, hleft, _⟩
      cases hleft
    · exact fun h => absurd h.1 (lt_irrefl 0)
  · rw [if_neg hzero]
    constructor
    · rintro ⟨left, hleft, hle⟩
      cases hleft
      exact ⟨Nat.pos_of_ne_zero hzero, hle⟩
    · exact fun h => ⟨w.limit, rfl, h.2⟩

theorem refused_skip_iff (h : w.Tracks calls) (hcount : 0 ≤ count.toInt) :
    (WindowCall.skip count).Refused calls ↔
      (0 < w.limit ∧ w.limit ≤ count.toInt.toNat) ∨
        maxCount < w.skip + count.toInt.toNat := by
  have hsign : ¬ (WindowCall.skip count).count < 0 := by
    rw [Int32.lt_iff_toInt_lt, Int32.toInt_zero]
    exact not_lt.mpr hcount
  -- A skip that leaves no row is refused, since a limit of zero would be no limit.
  have hpast : (∃ n left, WindowCall.skip count = .skip n ∧ rowsLeft calls = some left ∧
      left ≤ n.toInt.toNat) ↔ 0 < w.limit ∧ w.limit ≤ count.toInt.toNat := by
    rw [← h.passes_iff]
    constructor
    · rintro ⟨_, left, ⟨⟩, hleft⟩
      exact ⟨left, hleft⟩
    · rintro ⟨left, hleft⟩
      exact ⟨count, left, rfl, hleft⟩
  unfold WindowCall.Refused
  rw [hpast, skippedRows_concat, ← h.skip_eq]
  simp only [hsign, reduceCtorEq, false_or, WindowCall.skipped]

theorem refused_take_iff (h : w.Tracks calls) (hcount : 0 ≤ count.toInt) :
    (WindowCall.take count).Refused calls ↔ count.toInt.toNat = 0 := by
  have hsign : ¬ (WindowCall.take count).count < 0 := by
    rw [Int32.lt_iff_toInt_lt, Int32.toInt_zero]
    exact not_lt.mpr hcount
  have hskipped : ¬ maxCount < skippedRows (calls ++ [.take count]) := by
    rw [skippedRows_concat, ← h.skip_eq]
    exact not_lt.mpr h.skip_le
  have hzero : WindowCall.take count = .take 0 ↔ count.toInt.toNat = 0 := by
    rw [WindowCall.take.injEq, ← Int32.toInt_inj, Int32.toInt_zero]
    omega
  unfold WindowCall.Refused
  rw [hzero]
  simp only [hsign, hskipped, reduceCtorEq, false_or, false_and, exists_false, or_false]

/-- A skip is refused, or comes off the limit. -/
theorem skip (h : w.Tracks calls) (hcount : 0 ≤ count.toInt) :
    ((WindowCall.skip count).Refused calls ∧
        ∃ error, w.skipRows count.toInt.toNat = .error error) ∨
      ¬ (WindowCall.skip count).Refused calls ∧
        ∃ w', w.skipRows count.toInt.toNat = .ok w' ∧ w'.Tracks (calls ++ [.skip count]) := by
  rw [h.refused_skip_iff hcount]
  unfold skipRows
  by_cases hpast : 0 < w.limit ∧ w.limit ≤ count.toInt.toNat
  · rw [if_pos hpast]
    exact .inl ⟨.inl hpast, _, rfl⟩
  · rw [if_neg hpast]
    by_cases hover : maxCount < w.skip + count.toInt.toNat
    · rw [if_pos hover]
      exact .inl ⟨.inr hover, _, rfl⟩
    · rw [if_neg hover]
      refine .inr ⟨not_or.mpr ⟨hpast, hover⟩, _, rfl, ?_, not_lt.mp hover, ?_, ?_⟩
      · rw [skippedRows_concat, ← h.skip_eq]
        rfl
      · rw [rowsLeft_concat, h.limit_eq, WindowCall.leave]
        by_cases hzero : w.limit = 0
        · rw [if_pos hzero, hzero, Nat.zero_sub]
          rfl
        · -- What is left is not the number that stands for no limit.
          have hleft : w.limit - count.toInt.toNat ≠ 0 := by omega
          rw [if_neg hzero, if_neg hleft]
          rfl
      · exact (Nat.sub_le _ _).trans h.limit_le

/-- A take is refused, or it is a limit. -/
theorem take (h : w.Tracks calls) (hcount : 0 ≤ count.toInt) :
    ((WindowCall.take count).Refused calls ∧
        ∃ error, w.takeRows count.toInt.toNat = .error error) ∨
      ¬ (WindowCall.take count).Refused calls ∧
        ∃ w', w.takeRows count.toInt.toNat = .ok w' ∧ w'.Tracks (calls ++ [.take count]) := by
  have hmax : count.toInt.toNat ≤ maxCount := by
    have hlt := count.toInt_lt
    unfold maxCount
    omega
  rw [h.refused_take_iff hcount]
  unfold takeRows
  by_cases hnone : count.toInt.toNat = 0
  · rw [if_pos hnone]
    exact .inl ⟨hnone, _, rfl⟩
  · rw [if_neg hnone]
    refine .inr ⟨hnone, _, rfl, ?_, h.skip_le, ?_, ?_⟩
    · rw [skippedRows_concat, ← h.skip_eq]
      rfl
    · rw [rowsLeft_concat, h.limit_eq, WindowCall.leave]
      dsimp only
      -- A limit of zero stands for none, so the first count is taken over and later ones are
      -- compared.
      by_cases hzero : w.limit = 0
      · rw [if_pos hzero, if_pos hzero, if_neg hnone]
        rfl
      · have hmin : min w.limit count.toInt.toNat ≠ 0 := by omega
        rw [if_neg hzero, if_neg hzero, if_neg hmin]
        rfl
    · dsimp only
      split
      · exact hmax
      · exact (Nat.min_le_right _ _).trans hmax

/-- One call: it is refused, or the counts are those of the calls with it. -/
theorem narrow (h : w.Tracks calls) (c : WindowCall) :
    (c.Refused calls ∧ ∃ error, Call.narrow w c.call = .error error) ∨
      ¬ c.Refused calls ∧ ∃ w', Call.narrow w c.call = .ok w' ∧ w'.Tracks (calls ++ [c]) := by
  have hsign : ∀ n : Int32, n < 0 ↔ ¬ 0 ≤ n.toInt := by
    intro n
    rw [Int32.lt_iff_toInt_lt, Int32.toInt_zero, not_le]
  cases c with
  | skip count =>
      rw [WindowCall.call, Call.narrow, clauseCount_countClause]
      by_cases hcount : 0 ≤ count.toInt
      · rw [if_pos hcount]
        exact h.skip hcount
      · rw [if_neg hcount]
        exact .inl ⟨.inl ((hsign count).mpr hcount), _, rfl⟩
  | take count =>
      rw [WindowCall.call, Call.narrow, clauseCount_countClause]
      by_cases hcount : 0 ≤ count.toInt
      · rw [if_pos hcount]
        exact h.take hcount
      · rw [if_neg hcount]
        exact .inl ⟨.inl ((hsign count).mpr hcount), _, rfl⟩

end Window.Tracks

/-! ### All calls -/

/-- Calls ask for what no window is if one of them is refused after those before it. -/
theorem inexpressible_concat (calls : List WindowCall) (c : WindowCall) :
    Inexpressible (calls ++ [c]) ↔ Inexpressible calls ∨ c.Refused calls := by
  constructor
  · rintro (⟨c', hc', hsign⟩ | hnone | ⟨before, count, after, left, hsplit, hleft, hle⟩ | hover)
    · rcases List.mem_append.mp hc' with hc' | hc'
      · exact .inl (.inl ⟨c', hc', hsign⟩)
      · rw [List.mem_singleton.mp hc'] at hsign
        exact .inr (.inl hsign)
    · rcases List.mem_append.mp hnone with hnone | hnone
      · exact .inl (.inr (.inl hnone))
      · exact .inr (.inr (.inl (List.mem_singleton.mp hnone).symm))
    · -- The skip that goes too far is the last call or was there before it.
      rcases List.eq_nil_or_concat after with rfl | ⟨after, last, rfl⟩
      · rcases List.append_inj' hsplit rfl with ⟨rfl, hlast⟩
        cases hlast
        exact .inr (.inr (.inr (.inl ⟨count, left, rfl, hleft, hle⟩)))
      · rw [List.concat_eq_append, ← List.cons_append, ← List.append_assoc] at hsplit
        rcases List.append_inj' hsplit rfl with ⟨rfl, _⟩
        exact .inl (.inr (.inr (.inl ⟨before, count, after, left, rfl, hleft, hle⟩)))
    · exact .inr (.inr (.inr (.inr hover)))
  · rintro ((⟨c', hc', hsign⟩ | hnone | ⟨before, count, after, left, rfl, hleft⟩ | hover) |
      (hsign | rfl | ⟨count, left, rfl, hleft⟩ | hover))
    · exact .inl ⟨c', List.mem_append_left _ hc', hsign⟩
    · exact .inr (.inl (List.mem_append_left _ hnone))
    · refine .inr (.inr (.inl ⟨before, count, after ++ [c], left, ?_, hleft⟩))
      rw [List.append_assoc, List.cons_append]
    · refine .inr (.inr (.inr ?_))
      rw [skippedRows_append]
      exact hover.trans_le (Nat.le_add_right _ _)
    · exact .inl ⟨c, List.mem_append_right _ (List.mem_singleton_self c), hsign⟩
    · exact .inr (.inl (List.mem_append_right _ (List.mem_singleton_self _)))
    · exact .inr (.inr (.inl ⟨calls, count, [], left, rfl, hleft⟩))
    · exact .inr (.inr (.inr hover))

/-- Further calls do not make up for what others ask for. -/
theorem Inexpressible.append {calls : List WindowCall} (h : Inexpressible calls)
    (more : List WindowCall) : Inexpressible (calls ++ more) := by
  induction more using List.reverseRecOn with
  | nil => rwa [List.append_nil]
  | append_singleton more c ih =>
      rw [← List.append_assoc, inexpressible_concat]
      exact .inl ih

/-- The window of calls that ask for one. -/
theorem narrowAll_tracks (calls : List WindowCall) :
    (Inexpressible calls ∧ ∃ error, narrowAll calls = .error error) ∨
      ¬ Inexpressible calls ∧ ∃ w, narrowAll calls = .ok w ∧ w.Tracks calls := by
  induction calls using List.reverseRecOn with
  | nil =>
      refine .inr ⟨?_, _, rfl, .start⟩
      rintro (⟨c, hc, _⟩ | hnone | ⟨before, count, after, left, hsplit, _⟩ | hover)
      · cases hc
      · cases hnone
      · exact List.append_ne_nil_of_right_ne_nil _ (List.cons_ne_nil _ _) hsplit.symm
      · cases hover
  | append_singleton calls c ih =>
      rw [inexpressible_concat, narrowAll_concat]
      rcases ih with ⟨hcalls, error, herror⟩ | ⟨hcalls, w, hw, htracks⟩
      · rw [herror]
        exact .inl ⟨.inl hcalls, error, rfl⟩
      · rw [hw, Except.ok_bind]
        rcases htracks.narrow c with ⟨hc, herror⟩ | ⟨hc, hw'⟩
        · exact .inl ⟨.inr hc, herror⟩
        · exact .inr ⟨not_or.mpr ⟨hcalls, hc⟩, hw'⟩

/-- The window of calls holds the rows that the calls leave one after another. -/
theorem cut_narrowAll {α : Type} (calls : List WindowCall) (items : List α) :
    ∀ {w : Window}, narrowAll calls = .ok w →
      w.cut items = cutAll (calls.map WindowCall.call) items := by
  induction calls using List.reverseRecOn with
  | nil =>
      intro w hw
      rw [← Except.ok.inj hw]
      rfl
  | append_singleton calls c ih =>
      intro w' hw'
      rw [narrowAll_concat] at hw'
      rcases Except.bind_eq_ok.mp hw' with ⟨w, hw, hw'⟩
      have hcut : cutAll ((calls ++ [c]).map WindowCall.call) items =
          c.call.cut (cutAll (calls.map WindowCall.call) items) := by
        unfold cutAll
        rw [List.map_append, List.map_singleton, List.foldl_concat]
      rw [hcut, ← ih hw]
      cases c with
      | skip count =>
          rw [WindowCall.call, Call.narrow, clauseCount_countClause] at hw'
          split at hw'
          · exact Window.cut_skipRows hw' items
          · cases hw'
      | take count =>
          rw [WindowCall.call, Call.narrow, clauseCount_countClause] at hw'
          split at hw'
          · exact Window.cut_takeRows hw' items
          · cases hw'

/-! ### Counts of 32 bits -/

/-- The counts of a window as numbers of 32 bits, from which a further count is subtracted
    and to which it is added without an overflow. -/
structure Window.Exact (w : Window) (count skip limit : Int32) : Prop where
  skip_eq : skip.toInt = w.skip
  limit_eq : limit.toInt = w.limit
  limit_sub : (limit - count).toInt = limit.toInt - count.toInt
  skip_add : (skip + count).toInt = skip.toInt + count.toInt

/-- A skip that is not refused is counted without an overflow. -/
theorem Window.Tracks.exact {w : Window} {calls : List WindowCall} (h : w.Tracks calls)
    {count : Int32} (hcount : ¬ (WindowCall.skip count).Refused calls) :
    w.Exact count (.ofNat w.skip) (.ofNat w.limit) := by
  have hsign : 0 ≤ count.toInt := by
    rw [← Int32.toInt_zero, ← Int32.le_iff_toInt_le, ← Int32.not_lt]
    exact fun hnegative => hcount (.inl hnegative)
  -- An accepted skip leaves the sum within the range of numbers of 32 bits.
  have hsum := mt (h.refused_skip_iff hsign).mpr hcount
  have hskip := h.skip_le
  have hlimit := h.limit_le
  have hlt := count.toInt_lt
  unfold maxCount at hsum hskip hlimit
  have hskip' : (Int32.ofNat w.skip).toInt = w.skip := Int32.toInt_ofNat_of_lt (by omega)
  have hlimit' : (Int32.ofNat w.limit).toInt = w.limit := Int32.toInt_ofNat_of_lt (by omega)
  refine ⟨hskip', hlimit', ?_, ?_⟩
  · rw [Int32.toInt_sub, hlimit']
    exact Int.bmod_eq_of_le (by omega) (by omega)
  · rw [Int32.toInt_add, hskip']
    exact Int.bmod_eq_of_le (by omega) (by omega)

/-- Skips and takes are refused exactly if a count is negative, no row is taken, a skip passes
    the end of what is left by then, or more rows are skipped than can be counted. Otherwise
    the window of the query object holds the rows that the calls leave one after another, and
    no count on the way leaves its 32 bits. -/
theorem QueryBuilder.compile_windows (store : Option Store) (database name : String)
    (documentType : MemberType) (calls : List WindowCall) :
    ((∃ error, (windowed database name documentType calls).compile store = .error error) ↔
        Inexpressible calls) ∧
      (¬ Inexpressible calls →
        ∃ q, (windowed database name documentType calls).compile store = .ok q ∧
          (∀ (α : Type) (items : List α),
            q.window.cut items = cutAll (calls.map WindowCall.call) items) ∧
          ∀ before count after, calls = before ++ .skip count :: after →
            ∃ w skip limit, narrowAll before = .ok w ∧ w.Exact count skip limit) := by
  rw [compile_windowed]
  rcases narrowAll_tracks calls with ⟨hcalls, error, herror⟩ | ⟨hcalls, w, hw, _⟩
  · rw [herror]
    exact ⟨iff_of_true ⟨error, rfl⟩ hcalls, fun h => absurd hcalls h⟩
  · rw [hw, Except.map_ok]
    refine ⟨iff_of_false ?_ hcalls,
      fun _ => ⟨_, rfl, fun α items => cut_narrowAll calls items hw, ?_⟩⟩
    · rintro ⟨error, herror⟩
      cases herror
    · -- The calls up to a skip are accepted by themselves.
      rintro before count after rfl
      have hbefore : ¬ Inexpressible (before ++ [.skip count]) := by
        intro h
        have hall := h.append after
        rw [List.append_assoc, List.singleton_append] at hall
        exact hcalls hall
      rw [inexpressible_concat, not_or] at hbefore
      rcases narrowAll_tracks before with ⟨hrefused, _⟩ | ⟨_, w', hw', htracks⟩
      · exact absurd hrefused hbefore.1
      · exact ⟨w', _, _, hw', htracks.exact hbefore.2⟩

namespace Paging

/-- A page of a page, and then all but one of its rows. -/
def calls : List WindowCall :=
  [.skip 2147483640, .take 10, .skip 3, .take 5, .skip 4]

/-- The last page that can be counted: three rows are left of ten, and one of these. -/
theorem calls_window :
    ¬ Inexpressible calls ∧
      ∃ q, (windowed "db" "people" (.ofClass "Person") calls).compile none = .ok q ∧
        q.window = ⟨2147483647, 1⟩ ∧
        ∀ (α : Type) (items : List α),
          q.window.cut items = cutAll (calls.map WindowCall.call) items := by
  have hq : QueryObject.window <$>
      (windowed "db" "people" (.ofClass "Person") calls).compile none = .ok ⟨2147483647, 1⟩ := by
    rw [compile_windowed]
    rfl
  rcases Except.map_eq_ok.mp hq with ⟨q, hq, hwindow⟩
  have hwindows := QueryBuilder.compile_windows none "db" "people" (.ofClass "Person") calls
  rw [hq] at hwindows
  have hcalls : ¬ Inexpressible calls := by
    intro h
    rcases hwindows.1.mpr h with ⟨error, herror⟩
    cases herror
  rcases hwindows.2 hcalls with ⟨q', ⟨⟩, hcut, _⟩
  exact ⟨hcalls, q, hq, hwindow, hcut⟩

end Paging

end DocumentMapper
