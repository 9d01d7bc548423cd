import DocumentMapper.Proofs.Query.CallOrder
import DocumentMapper.Proofs.Query.PlacedConditions
import DocumentMapper.Proofs.Query.SortDocument
import DocumentMapper.Proofs.Value.Restriction

/-!
# Sorting on a field more than once

The sort document of a query names every field once, so of the keys on one field a single
one is left: the last in the order of their weight. Whoever compares rows by one key after
another looks at the first key on a field, and the later ones find nothing to decide
(`lexicographic_firstUses`). So the sort document means what the calls mean if and only if
the first and the last uses of the fields come to the same list. Two rows tell any other
two lists apart (`exists_rows_of_ne`): they hold numbers at the two fields where the lists
part and nothing else.

## Main definitions

* `Value.under`, `documentAt`: A value beneath a path, and the document that it is then.

## Theorems

* `lexicographic_firstUses`: The keys that decide a comparison.
* `exists_rows_of_ne`: Rows that tell lists of keys apart.
* `QueryBuilder.order_keeps_last_uses`: What the sort document of calls means.
* `SortedTwice.sorted_again_differs`: Calls whose sort document means something else.
-/

namespace DocumentMapper

open Overtaking (byNumber numberOf)

/-! ### Keys that decide -/

/-- What a field leaves open in one direction it leaves open in the other. -/
theorem comparePath_eq_eq {order : Value → Value → Ordering} [Std.OrientedCmp order]
    {x y : String × Direction} (hpath : x.1 = y.1) {a b : Document}
    (h : comparePath order x a b = .eq) : comparePath order y a b = .eq := by
  rcases x with ⟨path, d⟩
  rcases y with ⟨path', d'⟩
  cases hpath
  have hswap : ∀ {v w}, order v w = .eq → order w v = .eq := Std.OrientedCmp.eq_symm
  cases d <;> cases d'
  · exact h
  · exact hswap h
  · exact hswap h
  · exact h

/-- Of the keys on one field the first decides. -/
theorem lexicographic_firstUses (order : Value → Value → Ordering) [Std.OrientedCmp order]
    (entries : List (String × Direction)) (a b : Document) :
    lexicographic (comparePath order) (keepFirst Prod.fst entries) a b =
      lexicographic (comparePath order) entries a b :=
  lexicographic_keepFirst (fun _ _ hpath h => comparePath_eq_eq hpath h) entries

/-! ### Rows that tell keys apart -/

theorem get?_single (name other : String) (v : Value) :
    (Document.mk [(name, v)]).get? other = if other = name then some v else none := by
  unfold Document.get?
  rw [List.lookup_cons, List.lookup_nil]
  by_cases h : other = name
  · rw [if_pos h, beq_iff_eq.mpr h]
  · rw [if_neg h, beq_eq_false_iff_ne.mpr h]

/-- A value beneath a path of names, and nothing else. -/
def Value.under (v : Value) : List String → Value
  | [] => v
  | name :: rest => .document ⟨[(name, v.under rest)]⟩

/-- A document that has a value at a path of names and nothing else. -/
def documentAt (v : Value) : List String → Document
  | [] => .empty
  | name :: rest => ⟨[(name, v.under rest)]⟩

theorem document_documentAt (v : Value) (name : String) (rest : List String) :
    Value.document (documentAt v (name :: rest)) = v.under (name :: rest) :=
  rfl

theorem Value.inside?_under_cons (v : Value) (name first : String) (rest others : List String) :
    (v.under (name :: rest)).inside? (first :: others) =
      if first = name then (v.under rest).inside? others else none := by
  have hstep : (v.under (name :: rest)).inside? (first :: others) =
      ((Document.mk [(name, v.under rest)]).get? first).bind (inside? others) := rfl
  rw [hstep, get?_single]
  by_cases hfirst : first = name
  · rw [if_pos hfirst, if_pos hfirst, Option.bind_some]
  · rw [if_neg hfirst, if_neg hfirst, Option.bind_none]

/-- A number in a document stands at its path only. -/
theorem numberOf_inside?_under (n : Int32) (names : List String) :
    ∀ other : List String,
      numberOf ((((Value.int32 n).under names).inside? other).getD .null) =
        if other = names then n.toInt else 0 := by
  induction names with
  | nil =>
      intro other
      cases other with
      | nil => rfl
      | cons first others =>
          -- The number is no document to go on in.
          rfl
  | cons name rest ih =>
      intro other
      cases other with
      | nil => rfl
      | cons first others =>
          rw [Value.inside?_under_cons]
          by_cases hfirst : first = name
          · rw [if_pos hfirst, ih others]
            simp only [hfirst, List.cons.injEq, true_and]
          · rw [if_neg hfirst, if_neg fun heq => hfirst (List.cons.inj heq).1]
            rfl

/-- A row that has a number at a path and nothing else. -/
def rowAt (path : String) (n : Int32) : Document :=
  documentAt (.int32 n) (pathNames path)

theorem pathNames_injective {path other : String} (h : pathNames path = pathNames other) :
    path = other := by
  have hsplit : path.toList.splitOn '.' = other.toList.splitOn '.' :=
    List.map_injective_iff.mpr (fun _ _ => String.ofList_injective) h
  have hlist := congrArg (List.intercalate ['.']) hsplit
  rw [List.intercalate_splitOn, List.intercalate_splitOn] at hlist
  exact String.toList_injective hlist

/-- The number of a row is found at its path only. -/
theorem numberOf_rowAt (path other : String) (n : Int32) :
    numberOf (((rowAt path n).lookupPath? other).getD .null) =
      if other = path then n.toInt else 0 := by
  have hfound : (rowAt path n).lookupPath? other =
      ((Value.int32 n).under (pathNames path)).inside? (pathNames other) := by
    rcases List.exists_cons_of_ne_nil (pathNames_ne_nil path) with ⟨name, rest, hpath⟩
    rw [rowAt, hpath, ← document_documentAt, Document.inside?_document _ (pathNames_ne_nil other)]
    rfl
  have hnames : pathNames other = pathNames path ↔ other = path :=
    ⟨pathNames_injective, congrArg pathNames⟩
  rw [hfound, numberOf_inside?_under]
  simp only [hnames]

/-- The comparison of two rows that have one number each. -/
theorem comparePath_rowAt (path : String) (d : Direction) (x y : String) (n m : Int32) :
    comparePath byNumber (path, d) (rowAt x n) (rowAt y m) =
      match d with
      | .ascending => compare (if path = x then n.toInt else 0) (if path = y then m.toInt else 0)
      | .descending =>
          compare (if path = y then m.toInt else 0) (if path = x then n.toInt else 0) := by
  rw [← numberOf_rowAt x path n, ← numberOf_rowAt y path m]
  cases d <;> rfl

/-- Rows that two different keys put in opposite orders, and no other key in any. -/
theorem exists_rows_of_key_ne {k l : String × Direction} (hne : k ≠ l) :
    ∃ a b, comparePath byNumber k a b ≠ .eq ∧
      comparePath byNumber l a b = (comparePath byNumber k a b).swap ∧
      ∀ key : String × Direction, key.1 ≠ k.1 → key.1 ≠ l.1 →
        comparePath byNumber key a b = .eq := by
  rcases k with ⟨x, d⟩
  rcases l with ⟨y, e⟩
  have hother : ∀ {n m : Int32} (key : String × Direction), key.1 ≠ x → key.1 ≠ y →
      comparePath byNumber key (rowAt x n) (rowAt y m) = .eq := by
    rintro n m ⟨path, d⟩ hx hy
    rw [comparePath_rowAt, if_neg hx, if_neg hy]
    cases d <;> rfl
  by_cases hpath : x = y
  · -- One field in both directions: a number against none.
    subst hpath
    refine ⟨rowAt x 1, rowAt x 0, ?_, ?_, hother⟩
    all_goals simp only [comparePath_rowAt, if_true]
    · cases d <;> decide
    · cases d <;> cases e
      · exact absurd rfl hne
      · decide
      · decide
      · exact absurd rfl hne
  · -- Two fields: each row has a number at one of them.
    refine ⟨rowAt x 1, rowAt y (if d = e then 1 else -1), ?_, ?_, hother⟩
    all_goals simp only [comparePath_rowAt, if_true, if_neg hpath, if_neg (Ne.symm hpath)]
    · cases d <;> decide
    · cases d <;> cases e <;> decide

/-- Two rows tell different lists of the same fields apart. -/
theorem exists_rows_of_ne {ks ls : List (String × Direction)} (hks : (ks.map Prod.fst).Nodup)
    (hls : (ls.map Prod.fst).Nodup) (hmem : ∀ path, path ∈ ks.map Prod.fst ↔ path ∈ ls.map Prod.fst)
    (hne : ks ≠ ls) :
    ∃ a b,
      lexicographic (comparePath byNumber) ks a b ≠ lexicographic (comparePath byNumber) ls a b ∧
      ∀ key : String × Direction, key.1 ∉ ks.map Prod.fst → comparePath byNumber key a b = .eq := by
  induction ks generalizing ls with
  | nil =>
      cases ls with
      | nil => exact absurd rfl hne
      | cons l ls => cases (hmem l.1).mpr List.mem_cons_self
  | cons k ks ih =>
      cases ls with
      | nil => cases (hmem k.1).mp List.mem_cons_self
      | cons l ls =>
          rw [List.map_cons, List.nodup_cons] at hks hls
          by_cases hkl : k = l
          · -- The lists part further on, where the first key has nothing to say.
            subst hkl
            have hmem' : ∀ path, path ∈ ks.map Prod.fst ↔ path ∈ ls.map Prod.fst := by
              intro path
              have hpath := hmem path
              rw [List.map_cons, List.map_cons, List.mem_cons, List.mem_cons] at hpath
              by_cases heq : path = k.1
              · rw [heq]
                exact iff_of_false hks.1 hls.1
              · simpa only [heq, false_or] using hpath
            have hne' : ks ≠ ls := fun heq => hne (by rw [heq])
            rcases ih hks.2 hls.2 hmem' hne' with ⟨a, b, hdiffer, hother⟩
            refine ⟨a, b, ?_, fun key hkey => hother key fun h => hkey (List.mem_cons_of_mem _ h)⟩
            simp only [lexicographic, compareLex, hother k hks.1, Ordering.eq_then]
            exact hdiffer
          · -- The first keys decide, and they decide against each other.
            rcases exists_rows_of_key_ne hkl with ⟨a, b, hdecides, hswap, hother⟩
            refine ⟨a, b, ?_, ?_⟩
            · simp only [lexicographic, compareLex, hswap]
              revert hdecides
              cases comparePath byNumber k a b <;> simp
            · intro key hkey
              have hl : l.1 ∈ (k :: ks).map Prod.fst := (hmem l.1).mpr List.mem_cons_self
              refine hother key ?_ ?_
              · rintro heq
                exact hkey (by rw [heq]; exact List.mem_cons_self)
              · rintro heq
                exact hkey (by rw [heq]; exact hl)

/-- The last uses of fields decide what the first uses decide only if they are the same. -/
theorem lexicographic_keepLast_iff {entries : List (String × Direction)} :
    (∀ (order : Value → Value → Ordering) [Std.TransCmp order] (a b : Document),
      lexicographic (comparePath order) (keepLast Prod.fst entries) a b =
        lexicographic (comparePath order) entries a b) ↔
      keepLast Prod.fst entries = keepFirst Prod.fst entries := by
  constructor
  · intro h
    by_contra hne
    -- Both have every field once, so rows tell them apart if they are not the same list.
    have hmem : ∀ path, path ∈ (keepLast Prod.fst entries).map Prod.fst ↔
        path ∈ (keepFirst Prod.fst entries).map Prod.fst :=
      fun path => mem_map_keepLast.trans mem_map_keepFirst.symm
    rcases exists_rows_of_ne (nodup_keepLast entries) (nodup_keepFirst entries) hmem hne with
      ⟨a, b, hdiffer, _⟩
    rw [lexicographic_firstUses] at hdiffer
    exact hdiffer (h byNumber a b)
  · intro h order _ a b
    rw [h, lexicographic_firstUses]

/-! ### What the sort document means -/

/-- Keys on stored paths compare rows by what they read, where they have values. -/
theorem lexicographic_keepLast_entries {order : Value → Value → Ordering} {keys : List SortKey}
    {a b : Document}
    (h : ∀ row ∈ [a, b], ∀ k ∈ keys, ∃ v, (k.field.on rowParameter).evaluate (some row) = .ok v) :
    lexicographic (comparePath order) (keepLast Prod.fst (keys.map SortKey.entry)) a b =
      lexicographic (SortKey.compare order) (keepLast (fun k => k.field.path) keys) a b := by
  have hkeys : keepLast Prod.fst (keys.map SortKey.entry) =
      (keepLast (fun k => k.field.path) keys).map SortKey.entry :=
    keepLast_map SortKey.entry keys
  rw [hkeys]
  exact lexicographic_entries fun row hrow k hk => h row hrow k ((keepLast_sublist keys).subset hk)

/-- The sort document of accepted calls, whatever they filter by, has the last uses of the
    fields among the keys in the order of their weight, so that rows are compared by these.
    They are compared by all keys in that order if and only if the first uses of the fields
    are the same, and so if no field is sorted on twice. Where members keep their names and
    have values, the keys are what the calls read from the rows. -/
theorem QueryBuilder.order_keeps_last_uses {store : Option Store} {database name : String}
    {documentType : MemberType} {calls : List SortCall} {q : QueryObject}
    (hordered : WellOrdered (calls.map SortCall.kind))
    (h : (sorted database name documentType calls).compile store = .ok q) :
    ∃ entries, List.Forall₂ (fun k entry => k.entry? store documentType.className? = .ok entry)
        (priorities calls) entries ∧
      q.order = ⟨(keepLast Prod.fst entries).map sortField⟩ ∧
      q.sortKeys = keepLast Prod.fst entries ∧
      ((∀ (order : Value → Value → Ordering) [Std.TransCmp order] (a b : Document),
          lexicographic (comparePath order) q.sortKeys a b =
            lexicographic (comparePath order) entries a b) ↔
        keepLast Prod.fst entries = keepFirst Prod.fst entries) ∧
      (store = none ∨ documentType.className? = none →
        entries = (priorities calls).map SortKey.entry ∧
        ∀ (order : Value → Value → Ordering) (a b : Document),
          (∀ row ∈ [a, b], ∀ k ∈ priorities calls,
            ∃ v, (k.field.on rowParameter).evaluate (some row) = .ok v) →
          lexicographic (comparePath order) q.sortKeys a b =
            lexicographic (SortKey.compare order)
              (keepLast (fun k => k.field.path) (priorities calls)) a b) := by
  rcases compile_sorted h with ⟨entries, hentries, horder⟩
  rw [hordered.flatten_levelKeys] at hentries
  have hkeys : q.sortKeys = keepLast Prod.fst entries :=
    sortKeys_of_order (congrArg Document.fields horder)
  refine ⟨entries, hentries, horder, hkeys, ?_, ?_⟩
  · rw [hkeys]
    exact lexicographic_keepLast_iff
  · intro hnames
    -- Without a class map a field is stored under the names of its members.
    have hsame : entries = (priorities calls).map SortKey.entry := by
      have hmap := map_eq_map_of_forall₂ (f := SortKey.entry) (g := id) hentries fun k entry hk =>
        Except.ok.inj ((k.entry?_eq hnames).symm.trans hk)
      rw [hmap, List.map_id]
    refine ⟨hsame, fun order a b hrows => ?_⟩
    rw [hkeys, hsame]
    exact lexicographic_keepLast_entries hrows

namespace SortedTwice

/-- A key on the field of a name. -/
def key (direction : Direction) (name : String) (h : '.' ∉ name.toList) : SortKey where
  direction := direction
  field := .single name h

/-- A filter for a kind. -/
def ofKind : RowPredicate where
  on row := .binary .equal (.member row "Kind") (.constant (.int32 1))
  levelFree label := .binary .equal (.member (.parameter label) "Kind") (.constant (.int32 1))

/-- Sorts by price, and then by name and by the price in reverse. -/
def byNameThenPrice : List SortCall :=
  [.orderBy (key .descending "Price" (by decide)), .filter ofKind,
    .orderBy (key .ascending "Name" (by decide)), .thenBy (key .ascending "Price" (by decide))]

/-- The last key on the price comes after that on the name, and goes downward. -/
theorem byNameThenPrice_order :
    ∃ q, (sorted "db" "items" .document byNameThenPrice).compile none = .ok q ∧
      WellOrdered (byNameThenPrice.map SortCall.kind) ∧
      q.order = ⟨[("Name", .int32 1), ("Price", .int32 (-1))]⟩ := by
  have hq : ∃ q, (sorted "db" "items" .document byNameThenPrice).compile none = .ok q := ⟨_, rfl⟩
  rcases hq with ⟨q, hq⟩
  have hordered : WellOrdered (byNameThenPrice.map SortCall.kind) := by decide
  rcases QueryBuilder.order_keeps_last_uses hordered hq with ⟨entries, _, horder, _, _, hnames⟩
  refine ⟨q, hq, hordered, ?_⟩
  rw [horder, (hnames (.inl rfl)).1]
  rfl

/-- Sorts by a field, by another one, and by the first again. -/
def sortedAgain : List SortCall :=
  [.orderBy (key .ascending "A" (by decide)), .thenBy (key .ascending "B" (by decide)),
    .thenBy (key .ascending "A" (by decide))]

/-- Filters between a key and the one that refines it. -/
def filteredBetween : List SortCall :=
  [.orderBy (key .ascending "A" (by decide)), .filter ofKind,
    .thenBy (key .ascending "B" (by decide))]

/-- A row with two numbers. -/
def row (a b : Int32) : Document :=
  ⟨[("A", .int32 a), ("B", .int32 b)]⟩

/-- Keys on single members have values on all rows. -/
theorem evaluate_keys {calls : List SortCall} (h : calls = sortedAgain ∨ calls = filteredBetween)
    (r : Document) :
    ∀ k ∈ priorities calls, ∃ v, (k.field.on rowParameter).evaluate (some r) = .ok v := by
  have hkey : ∀ {direction name} (h : '.' ∉ name.toList),
      ∃ v, ((key direction name h).field.on rowParameter).evaluate (some r) = .ok v :=
    fun h => ⟨_, FieldChain.evaluate_single h "row" r⟩
  have hagain : priorities sortedAgain = [key .ascending "A" (by decide),
      key .ascending "B" (by decide), key .ascending "A" (by decide)] := rfl
  have hbetween : priorities filteredBetween = [key .ascending "A" (by decide),
      key .ascending "B" (by decide)] := rfl
  intro k hk
  rcases h with rfl | rfl
  · rw [hagain] at hk
    simp only [List.mem_cons, List.not_mem_nil, or_false] at hk
    rcases hk with rfl | rfl | rfl <;> exact hkey _
  · rw [hbetween] at hk
    simp only [List.mem_cons, List.not_mem_nil, or_false] at hk
    rcases hk with rfl | rfl <;> exact hkey _

/-- Two rows are in one order by the keys in the order of their weight, and in the opposite
    one by the sort document: where a field is sorted on again, and where a filter comes
    between a key and the one that refines it. -/
theorem sorted_again_differs :
    (∃ q, (sorted "db" "items" .document sortedAgain).compile none = .ok q ∧
      (∀ r, ∀ k ∈ priorities sortedAgain,
        ∃ v, (k.field.on rowParameter).evaluate (some r) = .ok v) ∧
      lexicographic (SortKey.compare byNumber) (priorities sortedAgain) (row 1 2) (row 2 1) = .lt ∧
      lexicographic (comparePath byNumber) q.sortKeys (row 1 2) (row 2 1) = .gt) ∧
    ∃ q, (sorted "db" "items" .document filteredBetween).compile none = .ok q ∧
      (∀ r, ∀ k ∈ priorities filteredBetween,
        ∃ v, (k.field.on rowParameter).evaluate (some r) = .ok v) ∧
      lexicographic (SortKey.compare byNumber) (priorities filteredBetween) (row 1 2) (row 2 1) =
        .lt ∧
      lexicographic (comparePath byNumber) q.sortKeys (row 1 2) (row 2 1) = .gt := by
  have hdiffers : lexicographic (comparePath byNumber) [("B", .ascending), ("A", .ascending)]
      (row 1 2) (row 2 1) = .gt := by rfl
  constructor
  · have hcompile : QueryObject.sortKeys <$>
        (sorted "db" "items" .document sortedAgain).compile none =
        .ok [("B", .ascending), ("A", .ascending)] := by with_unfolding_all rfl
    rcases Except.map_eq_ok.mp hcompile with ⟨q, hq, hkeys⟩
    refine ⟨q, hq, evaluate_keys (.inl rfl), by rfl, ?_⟩
    rw [hkeys]
    exact hdiffers
  · have hcompile :
        QueryObject.sortKeys <$> (sorted "db" "items" .document filteredBetween).compile none =
          .ok [("B", .ascending), ("A", .ascending)] := by with_unfolding_all rfl
    rcases Except.map_eq_ok.mp hcompile with ⟨q, hq, hkeys⟩
    refine ⟨q, hq, evaluate_keys (.inr rfl), by rfl, ?_⟩
    rw [hkeys]
    exact hdiffers

end SortedTwice

end DocumentMapper
