import DocumentMapper.Proofs.Query.LevelFree
import DocumentMapper.Proofs.Query.Operators
import DocumentMapper.Proofs.Query.WellOrdered

/-!
# Calls that filter and sort

Whoever sorts and sorts again wants the later order, and the earlier one where the later
leaves things open. So the keys come in groups: a first key begins a group, which goes in
front of the groups before it, and further keys refine the group that was begun last. The
list of all groups is what the calls mean (`priorities`).

A query has its keys on levels instead. A filter is a level of its own, and a further key
goes to the outermost level, whatever that is. If further keys come directly after the keys
they refine, or before anything was sorted, the groups and the keys of the levels are the
same one after another (`WellOrdered.flatten_levelKeys`).

## Main definitions

* `SortCall`: A filter with any predicate, or a key.
* `priorities`: The keys in the order of their weight.
* `levelKeys`: The keys of the levels.

## Theorems

* `WellOrdered.flatten_levelKeys`: Levels have their keys in the order of their weight.
-/

namespace DocumentMapper

/-- A predicate of rows. No levels stand in it but within subqueries. -/
structure RowPredicate where
  on : Expr → Expr
  levelFree : ∀ label, (on (.parameter label)).LevelFree

/-- A call that filters or sorts. -/
inductive SortCall where
  | filter (p : RowPredicate)
  | orderBy (k : SortKey)
  | thenBy (k : SortKey)

/-- The groups of keys with a further key in the first of them. -/
def refineFirst (k : SortKey) : List (List SortKey) → List (List SortKey)
  | [] => [[k]]
  | keys :: rest => (keys ++ [k]) :: rest

namespace SortCall

def kind : SortCall → CallKind
  | filter _ => .filter
  | orderBy _ => .orderBy
  | thenBy _ => .thenBy

/-- The operator that a call puts on a query. -/
def operator : SortCall → Operator
  | filter p => .filter p.on
  | orderBy k => .orderBy k.direction k.field.on
  | thenBy k => .thenBy k.direction k.field.on

/-- The groups of keys after a call, the latest first. -/
def regroup (groups : List (List SortKey)) : SortCall → List (List SortKey)
  | filter _ => groups
  | orderBy k => [k] :: groups
  | thenBy k => refineFirst k groups

/-- The keys of the levels after a call, those of the outermost first. -/
def onLevelKeys (levels : List (List SortKey)) : SortCall → List (List SortKey)
  | filter _ => [] :: levels
  | orderBy k => [k] :: levels
  | thenBy k => refineFirst k levels

end SortCall

/-- The groups of keys of calls, the latest first. -/
def keyGroups (calls : List SortCall) : List (List SortKey) :=
  calls.foldl SortCall.regroup []

/-- The keys of calls in the order of their weight. -/
def priorities (calls : List SortCall) : List SortKey :=
  (keyGroups calls).flatten

/-- The keys of the levels that calls build, those of the outermost first. -/
def levelKeys (calls : List SortCall) : List (List SortKey) :=
  calls.foldl SortCall.onLevelKeys [[]]

theorem keyGroups_concat (calls : List SortCall) (call : SortCall) :
    keyGroups (calls ++ [call]) = call.regroup (keyGroups calls) := by
  unfold keyGroups
  rw [List.foldl_concat]

theorem levelKeys_concat (calls : List SortCall) (call : SortCall) :
    levelKeys (calls ++ [call]) = call.onLevelKeys (levelKeys calls) := by
  unfold levelKeys
  rw [List.foldl_concat]

/-- How the keys of levels and the groups of keys belong together in a phase. While keys
    may be refined, the outermost level has the latest group. -/
def Tracks : Phase → List (List SortKey) → List (List SortKey) → Prop
  | .unordered, levels, groups => groups = [] ∧ ∃ inner, levels = [] :: inner ∧ inner.flatten = []
  | .ordering, levels, groups => ∃ keys inner earlier, levels = keys :: inner ∧
      groups = keys :: earlier ∧ inner.flatten = earlier.flatten
  | .ordered, levels, groups => levels.flatten = groups.flatten
  | .windowed, _, _ => False

variable {phase phase' : Phase} {levels groups : List (List SortKey)}

theorem Tracks.flatten_eq (h : Tracks phase levels groups) : levels.flatten = groups.flatten := by
  cases phase with
  | unordered =>
      rcases h with ⟨rfl, inner, rfl, hinner⟩
      exact hinner
  | ordering =>
      rcases h with ⟨keys, inner, earlier, rfl, rfl, hinner⟩
      rw [List.flatten_cons, List.flatten_cons, hinner]
  | ordered => exact h
  | windowed => exact h.elim

/-- One more call that may come in a phase. -/
theorem Tracks.next (h : Tracks phase levels groups) {call : SortCall}
    (hnext : phase.next? call.kind = some phase') :
    Tracks phase' (call.onLevelKeys levels) (call.regroup groups) := by
  have hflatten := h.flatten_eq
  cases call with
  | filter p =>
      cases phase with
      | unordered =>
          cases hnext
          rcases h with ⟨rfl, inner, rfl, hinner⟩
          exact ⟨rfl, _, rfl, hinner⟩
      | ordering | ordered =>
          cases hnext
          exact hflatten
      | windowed => cases hnext
  | orderBy k =>
      cases phase with
      | unordered | ordering | ordered =>
          cases hnext
          exact ⟨_, _, _, rfl, rfl, hflatten⟩
      | windowed => cases hnext
  | thenBy k =>
      cases phase with
      | unordered =>
          -- A further key that refines nothing begins a group.
          cases hnext
          rcases h with ⟨rfl, inner, rfl, hinner⟩
          exact ⟨[k], inner, [], rfl, rfl, hinner⟩
      | ordering =>
          cases hnext
          rcases h with ⟨keys, inner, earlier, rfl, rfl, hinner⟩
          exact ⟨keys ++ [k], inner, earlier, rfl, rfl, hinner⟩
      | ordered | windowed => cases hnext

theorem tracks (calls : List SortCall) :
    ∀ phase, phase? (calls.map SortCall.kind) = some phase →
      Tracks phase (levelKeys calls) (keyGroups calls) := by
  induction calls using List.reverseRecOn with
  | nil =>
      intro phase h
      cases h
      exact ⟨rfl, [], rfl, rfl⟩
  | append_singleton calls call ih =>
      intro phase' h
      rw [List.map_append, List.map_cons, List.map_nil, phase?_concat] at h
      rcases Option.bind_eq_some_iff.mp h with ⟨phase, hphase, hnext⟩
      rw [levelKeys_concat, keyGroups_concat]
      exact (ih phase hphase).next hnext

/-- Calls that come in a suitable order have their keys on the levels in the order of their
    weight. -/
theorem WellOrdered.flatten_levelKeys {calls : List SortCall}
    (h : WellOrdered (calls.map SortCall.kind)) : (levelKeys calls).flatten = priorities calls := by
  rcases Option.isSome_iff_exists.mp h with ⟨phase, hphase⟩
  exact (tracks calls phase hphase).flatten_eq

end DocumentMapper
