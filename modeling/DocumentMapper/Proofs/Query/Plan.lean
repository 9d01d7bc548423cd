import DocumentMapper.Proofs.Query.Calls
import DocumentMapper.Proofs.Value.Document

/-!
# What a flat query makes of calls

A query object has one condition document, one sort document and one window, into which
the clauses of all levels go. So whatever the order of the calls, what they come to is
this: all filters first, then one sort, and then the skips and takes in their order
(`allAtOnce`). By which keys is sorted depends on the levels. The keys of a level come
before those that are passed on from inside it, duplicates of rows let none pass, and a
level that skips or takes rows asks for the keys it was passed, so that these count more
than keys that are added outside of it.

## Main definitions

* `Level`, `Levels`, `levels`: The levels that calls build.
* `passed`, `flatKeys`: The keys passed outward, and those of the sort document.
* `allAtOnce`: What a flat query makes of a list of rows.
* `Settled`: Levels whose windows all ask for the same keys.

## Theorems

* `perm_sortKeys`: Levels have the keys of the calls.
* `insertKeys_nil`, `insertKeys_of_subset`: Keys that are new, and keys that are there.
* `Settled.flatKeys_eq`: The keys of the sort document of settled levels.
-/

namespace DocumentMapper

/-- The clauses of a level. -/
structure Level where
  filter : Option (Conjunction FieldChain) := none
  keys : List SortKey := []
  distinct : Bool := false
  skip : Option Int32 := none
  take : Option Int32 := none

/-- Whether a level takes or drops rows by their number. -/
def Level.isWindow (l : Level) : Bool :=
  l.take.isSome || l.skip.isSome

/-- The outermost level, and the levels inside it from the outside. -/
structure Levels where
  outermost : Level
  inner : List Level

namespace Levels

def all (ls : Levels) : List Level :=
  ls.outermost :: ls.inner

/-- Puts a level around the others. -/
def push (ls : Levels) (l : Level) : Levels :=
  ⟨l, ls.all⟩

end Levels

/-- The levels after a call. A further key goes to the outermost level. -/
def Call.onLevels (ls : Levels) (call : Call) : Levels :=
  match call with
  | filter c => ls.push { filter := some c }
  | orderBy k => ls.push { keys := [k] }
  | thenBy k => { ls with outermost := { ls.outermost with keys := ls.outermost.keys ++ [k] } }
  | skip count => ls.push { skip := some count }
  | take count => ls.push { take := some count }
  | distinct => ls.push { distinct := true }

/-- The levels that calls build around that of a collection. -/
def levels (calls : List Call) : Levels :=
  calls.foldl Call.onLevels ⟨{}, []⟩

/-- The keys of the rows that levels hand on. -/
def passed : List Level → List SortKey
  | [] => []
  | l :: rest => if l.distinct then [] else l.keys ++ passed rest

/-- The keys that a level asks for. -/
def Level.asked (outermost : Bool) (l : Level) (rest : List Level) : List SortKey :=
  if outermost || l.isWindow then (if l.distinct then l.keys else l.keys ++ passed rest) else []

/-- Adds keys to those of a sort document. -/
def insertKeys (fields : List (String × Direction)) (keys : List SortKey) :
    List (String × Direction) :=
  keys.foldl (fun fields k => Fields.insert k.field.path k.direction fields) fields

/-- The keys of the sort document, from the innermost level outward. -/
def flatKeys (outermost : Bool) : List Level → List (String × Direction)
  | [] => []
  | l :: rest => insertKeys (flatKeys false rest) (l.asked outermost rest)

/-- Whether a call keeps a row. -/
def Call.keeps (row : Document) : Call → Bool
  | filter c => c.keeps row
  | _ => true

/-- The rows that all calls keep. -/
def kept (calls : List Call) (rows : List Document) : List Document :=
  rows.filter fun row => calls.all (·.keeps row)

/-- Skips and takes in their order. -/
def cutAll {α : Type} (calls : List Call) (items : List α) : List α :=
  calls.foldl (fun items call => call.cut items) items

/-- What is left of rows after all filters, one sort, and then all skips and takes. -/
def allAtOnce (order : Value → Value → Ordering) (calls : List Call) (rows : List Document) :
    List Document :=
  cutAll calls (sortByPaths order (flatKeys true (levels calls).all) (kept calls rows))

/-! ### The keys of levels -/

theorem levels_concat (calls : List Call) (call : Call) :
    levels (calls ++ [call]) = call.onLevels (levels calls) := by
  unfold levels
  rw [List.foldl_concat]

theorem passed_sublist (ls : List Level) : (passed ls).Sublist (ls.flatMap Level.keys) := by
  induction ls with
  | nil => exact List.Sublist.slnil
  | cons l rest ih =>
      rw [passed, List.flatMap_cons]
      split
      · exact List.nil_sublist _
      · exact (List.Sublist.refl _).append ih

/-- Levels have the keys of the calls, each once. -/
theorem perm_sortKeys (calls : List Call) :
    ((levels calls).all.flatMap Level.keys).Perm (calls.filterMap Call.key?) := by
  induction calls using List.reverseRecOn with
  | nil => exact List.Perm.refl _
  | append_singleton calls call ih =>
      rw [levels_concat, List.filterMap_append]
      cases call with
      | orderBy k => exact (ih.cons k).trans (List.perm_append_singleton k _).symm
      | thenBy k =>
          -- The further key is the last one of its level, behind which the levels inside come.
          have hswap : (((levels calls).outermost.keys ++ [k]) ++
              (levels calls).inner.flatMap Level.keys).Perm
              (((levels calls).outermost.keys ++
                (levels calls).inner.flatMap Level.keys) ++ [k]) := by
            rw [List.append_assoc, List.append_assoc]
            exact List.perm_append_comm.append_left _
          exact hswap.trans (ih.append_right [k])
      | filter c => exact ih.trans (.of_eq (List.append_nil _).symm)
      | skip count => exact ih.trans (.of_eq (List.append_nil _).symm)
      | take count => exact ih.trans (.of_eq (List.append_nil _).symm)
      | distinct => exact ih.trans (.of_eq (List.append_nil _).symm)

/-- The paths that levels sort by, those passed outward among them, are different. -/
theorem nodup_passed {calls : List Call} (h : (sortPaths calls).Nodup) :
    ((passed (levels calls).all).map fun k => k.field.path).Nodup := by
  have hall : (((levels calls).all.flatMap Level.keys).map fun k => k.field.path).Nodup :=
    ((perm_sortKeys calls).map _).nodup_iff.mpr h
  exact hall.sublist ((passed_sublist _).map _)

/-- A key that is passed outward belongs to a call. -/
theorem mem_calls_of_mem_passed {calls : List Call} {k : SortKey}
    (h : k ∈ passed (levels calls).all) : ∃ call ∈ calls, call.key? = some k := by
  have hmem : k ∈ calls.filterMap Call.key? :=
    (perm_sortKeys calls).subset ((passed_sublist _).subset h)
  exact List.mem_filterMap.mp hmem

/-! ### The keys of a sort document -/

/-- The entry of a key in a sort document. -/
def SortKey.entry (k : SortKey) : String × Direction :=
  (k.field.path, k.direction)

theorem insertKeys_cons (fields : List (String × Direction)) (k : SortKey) (keys : List SortKey) :
    insertKeys fields (k :: keys) =
      insertKeys (Fields.insert k.field.path k.direction fields) keys := by
  rfl

/-- Adding keys that are there changes nothing. -/
theorem insertKeys_of_subset {fields : List (String × Direction)} (h : (fields.map Prod.fst).Nodup)
    (keys : List SortKey) (hkeys : ∀ k ∈ keys, k.entry ∈ fields) :
    insertKeys fields keys = fields := by
  induction keys with
  | nil => rfl
  | cons k keys ih =>
      rw [insertKeys_cons, Fields.insert_of_mem h (hkeys k List.mem_cons_self)]
      exact ih fun k hk => hkeys k (List.mem_cons_of_mem _ hk)

/-- Keys over different fields are added in their order. -/
theorem insertKeys_nil {keys : List SortKey} (h : (keys.map fun k => k.field.path).Nodup) :
    insertKeys [] keys = keys.map SortKey.entry := by
  have hentries : ((keys.map SortKey.entry).map Prod.fst).Nodup := by
    rw [List.map_map]
    exact h
  have hlist := Fields.ofList_of_nodup hentries
  unfold Fields.ofList at hlist
  rw [List.foldl_map] at hlist
  exact hlist

/-- Levels that let all of their keys pass, and whose windows ask for given keys if for
    any. -/
def Settled (keys : List SortKey) : List Level → Prop
  | [] => True
  | l :: rest =>
    l.distinct = false ∧
      (l.isWindow = true → passed (l :: rest) = [] ∨ passed (l :: rest) = keys) ∧
      Settled keys rest

namespace Settled

variable {keys : List SortKey} {ls : List Level}

theorem of_no_window {keys' : List SortKey} (h : Settled keys ls)
    (hwindow : ls.any Level.isWindow = false) : Settled keys' ls := by
  induction ls with
  | nil => exact trivial
  | cons l rest ih =>
      rw [List.any_cons, Bool.or_eq_false_iff] at hwindow
      refine ⟨h.1, ?_, ih h.2.2 hwindow.2⟩
      intro hl
      rw [hwindow.1] at hl
      cases hl

/-- The keys are added by the first window that asks for them, and are there for all
    others. -/
theorem insertKeys_eq {fields : List (String × Direction)}
    (hpaths : (keys.map fun k => k.field.path).Nodup)
    (h : fields = [] ∨ fields = keys.map SortKey.entry) :
    insertKeys fields keys = keys.map SortKey.entry := by
  rcases h with rfl | rfl
  · exact insertKeys_nil hpaths
  · refine insertKeys_of_subset ?_ _ fun k hk => List.mem_map_of_mem hk
    rw [List.map_map]
    exact hpaths

theorem flatKeys_inside (h : Settled keys ls) (hpaths : (keys.map fun k => k.field.path).Nodup) :
    flatKeys false ls = [] ∨ flatKeys false ls = keys.map SortKey.entry := by
  induction ls with
  | nil => exact .inl rfl
  | cons l rest ih =>
      have hrest := ih h.2.2
      rw [flatKeys, Level.asked, Bool.false_or, h.1, if_neg Bool.false_ne_true]
      by_cases hwindow : l.isWindow = true
      · -- A level with a window asks for its own keys and those from inside.
        have hasked := h.2.1 hwindow
        rw [passed, h.1, if_neg Bool.false_ne_true] at hasked
        rw [if_pos hwindow]
        rcases hasked with hnone | hall
        · rw [hnone]
          exact hrest
        · rw [hall]
          exact .inr (insertKeys_eq hpaths hrest)
      · rw [if_neg hwindow]
        exact hrest

/-- The outermost level asks for all keys. -/
theorem flatKeys_eq (h : Settled (passed ls) ls)
    (hpaths : ((passed ls).map fun k => k.field.path).Nodup) :
    flatKeys true ls = (passed ls).map SortKey.entry := by
  cases ls with
  | nil => rfl
  | cons l rest =>
      have hpassed : l.asked true rest = passed (l :: rest) := by
        rw [Level.asked, Bool.true_or, if_pos rfl, h.1, if_neg Bool.false_ne_true, passed, h.1,
          if_neg Bool.false_ne_true]
      rw [flatKeys, hpassed]
      exact insertKeys_eq hpaths (h.2.2.flatKeys_inside hpaths)

end Settled

end DocumentMapper
