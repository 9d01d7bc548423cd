import DocumentMapper.Proofs.Data.Occurrence
import DocumentMapper.Proofs.Query.Construction
import DocumentMapper.Proofs.Query.Induction

/-!
# Gathering of keys

What is gathered at a level are keys over fields of one source. Keys that are put in front
of them drop out if their field is there already, and among themselves they drop out in
favour of those behind. So what is gathered is always the last use of every field in the
list of all keys that were put in (`Carried.prepend`). Passed outward, keys move to fields
of the level that have the same paths.

## Main definitions

* `boundKey`: A key over a field of a source.
* `Carried`: What is gathered at a source.
* `Select.passStep`: Passing one more key on.
* `Select.handOn`: What a level does with what is gathered.

## Theorems

* `Carried.prepend`, `Carried.gather`: Keys put in front of those that are gathered.
* `passOutward_boundKey`: Keys over the rows of a level.
* `receive_run`: The two halves of the step of a level.
* `exists_boundKeys_handOn`: The keys that a level hands on are fields of it.
* `Clauses.handOn`: What a level is made of that has got its keys.
-/

namespace DocumentMapper

/-- A key over a field of a source, from its path and direction. -/
def boundKey (source : String) (entry : String × Direction) : Direction × Expr :=
  (entry.2, .field ⟨source, entry.1⟩)

/-- What is gathered at a source. If there are no keys, none were gathered. -/
structure Carried (g : Gathering) (source : String) (entries : List (String × Direction)) :
    Prop where
  keys_eq : g.keys = if entries = [] then none else some (entries.map (boundKey source))
  seen_eq : entries ≠ [] → g.seen = entries.map fun entry => ⟨source, entry.1⟩

/-- Nothing is carried once the keys are taken. -/
theorem carried_nil (g : Gathering) (source : String) :
    Carried { g with keys := none } source [] where
  keys_eq := rfl
  seen_eq h := absurd rfl h

theorem mem_references {source path : String} {entries : List (String × Direction)} :
    (⟨source, path⟩ : FieldRef) ∈ entries.map (fun entry => (⟨source, entry.1⟩ : FieldRef)) ↔
      path ∈ entries.map Prod.fst := by
  simp only [List.mem_map, FieldRef.mk.injEq, true_and]

/-- Keys are put in front of those that are carried unless their field comes behind. -/
theorem foldr_push_boundKey (source : String) (entries own : List (String × Direction)) :
    (own.map (boundKey source)).foldr Gathering.push
        ((keepLast Prod.fst entries).map (boundKey source),
          (keepLast Prod.fst entries).map fun entry => ⟨source, entry.1⟩) =
      ((keepLast Prod.fst (own ++ entries)).map (boundKey source),
        (keepLast Prod.fst (own ++ entries)).map fun entry => ⟨source, entry.1⟩) := by
  induction own with
  | nil => rfl
  | cons entry own ih =>
      have hfield : (boundKey source entry).2.asField? = some ⟨source, entry.1⟩ := rfl
      rw [List.map_cons, List.foldr_cons, ih, Gathering.push, hfield, List.cons_append,
        keepLast_cons]
      simp only [mem_references, mem_map_keepLast]
      split <;> rfl

variable {g : Gathering} {source : String} {entries : List (String × Direction)}

theorem Carried.prepend (h : Carried g source (keepLast Prod.fst entries))
    {own : List (String × Direction)} (hown : own ≠ []) :
    Carried (g.prepend (own.map (boundKey source))) source
      (keepLast Prod.fst (own ++ entries)) := by
  -- An empty list of keys is told apart from none at all, so it must not come up here.
  have hne : keepLast Prod.fst (own ++ entries) ≠ [] := by
    intro hnil
    rcases List.exists_mem_of_ne_nil own hown with ⟨entry, hentry⟩
    have hmem : entry.1 ∈ (keepLast Prod.fst (own ++ entries)).map Prod.fst :=
      mem_map_keepLast.mpr (List.mem_map_of_mem (List.mem_append_left _ hentry))
    rw [hnil] at hmem
    cases hmem
  have hfold := foldr_push_boundKey source entries own
  unfold Gathering.prepend
  by_cases hnil : keepLast Prod.fst entries = []
  · have hnone := h.keys_eq
    rw [if_pos hnil] at hnone
    rw [hnil] at hfold
    simp only [hnone]
    simp only [List.map_nil] at hfold
    rw [hfold]
    exact ⟨(if_neg hne).symm, fun _ => rfl⟩
  · have hsome := h.keys_eq
    rw [if_neg hnil] at hsome
    simp only [hsome, h.seen_eq hnil, hfold]
    exact ⟨(if_neg hne).symm, fun _ => rfl⟩

/-- What a level gathers before it hands keys on: its own keys in front of the others. -/
theorem Carried.gather (h : Carried g source (keepLast Prod.fst entries))
    (own : List (String × Direction)) :
    Carried (if (own.map (boundKey source)).isEmpty then g
      else g.prepend (own.map (boundKey source))) source (keepLast Prod.fst (own ++ entries)) := by
  rw [List.isEmpty_map]
  cases own with
  | nil => exact h
  | cons entry own => exact h.prepend (List.cons_ne_nil entry own)

theorem Carried.getD_keys (h : Carried g source entries) :
    g.keys.getD [] = entries.map (boundKey source) := by
  rw [h.keys_eq]
  cases entries <;> rfl

/-! ### One level -/

/-- The keys of a level, and the fields it declares, with one more key passed on. -/
def Select.passStep (s : Select) (passed : List (String × Expr) × List (Direction × Expr))
    (key : Direction × Expr) : List (String × Expr) × List (Direction × Expr) :=
  ((s.passKey passed.1 key).1, passed.2 ++ (s.passKey passed.1 key).2.toList)

theorem Select.passOutward_eq (s : Select) (keys : List (Direction × Expr)) :
    s.passOutward keys = keys.foldl s.passStep (s.fields, []) :=
  rfl

section

variable {s : Select} {name : String}

theorem passKey_boundKey (hlabel : s.label = name) (hsource : s.sourceLabel? = some source)
    (hfields : s.fields = []) (entry : String × Direction) :
    s.passKey [] (boundKey source entry) = ([], some (boundKey name entry)) := by
  have hfield : (boundKey source entry).2.asField? = some ⟨source, entry.1⟩ := rfl
  have hundeclared : Select.declaredName? [] (boundKey source entry).2 = none := rfl
  unfold Select.passKey
  simp only [hfield, hsource, hundeclared, hfields, hlabel, ne_eq, not_true_eq_false, if_false]
  rfl

/-- Keys over the rows of a source become keys over the rows of the level. -/
theorem passOutward_boundKey (hlabel : s.label = name) (hsource : s.sourceLabel? = some source)
    (hfields : s.fields = []) (entries : List (String × Direction)) :
    s.passOutward (entries.map (boundKey source)) = ([], entries.map (boundKey name)) := by
  -- Nothing is declared on the way, so every key finds the level as the first one did.
  have hpass : ∀ done : List (Direction × Expr),
      (entries.map (boundKey source)).foldl s.passStep ([], done) =
        ([], done ++ entries.map (boundKey name)) := by
    induction entries with
    | nil =>
        intro done
        rw [List.map_nil, List.map_nil, List.append_nil, List.foldl_nil]
    | cons entry entries ih =>
        intro done
        rw [List.map_cons, List.foldl_cons, Select.passStep,
          passKey_boundKey hlabel hsource hfields]
        simp only [ih, Option.toList_some, List.append_assoc]
        rfl
  rw [Select.passOutward_eq, hfields]
  exact hpass []

end

/-- Keys that are fields hold no levels. -/
theorem hoistKeys_of_fields {keys : List (Direction × Expr)}
    (h : ∀ key ∈ keys, ∃ f, key.2.asField? = some f) : hoistKeys false keys = pure keys := by
  induction keys with
  | nil => rw [hoistKeys]
  | cons key keys ih =>
      have hrest := ih fun key hkey => h key (List.mem_cons_of_mem _ hkey)
      rcases h key List.mem_cons_self with ⟨f, hf⟩
      rcases key with ⟨direction, e⟩
      cases e with
      | field f => rw [hoistKeys, Expr.hoist, pure_bind, hrest, pure_bind]
      | _ => cases hf

theorem hoistKeys_boundKey (source : String) (entries : List (String × Direction)) :
    hoistKeys false (entries.map (boundKey source)) = pure (entries.map (boundKey source)) := by
  refine hoistKeys_of_fields fun key hkey => ?_
  rcases List.mem_map.mp hkey with ⟨entry, _, rfl⟩
  exact ⟨_, rfl⟩

/-- What a level does with the keys that are gathered, its own among them. -/
def Select.handOn (outermost : Bool) (s : Select) (g : Gathering) : Select × Gathering :=
  let needs := outermost || s.take.isSome || s.skip.isSome
  let stops := s.group.isSome || s.distinct
  let order :=
    if needs && !stops then g.keys.getD []
    else if needs then s.order
    else []
  let rest : Gathering := { g with keys := none }
  match g.keys with
  | some keys =>
    if outermost || stops then (s.withOrder order, rest)
    else
      let (fields, passed) := s.passOutward keys
      ({ s.withOrder order with fields := fields }, rest.prepend passed)
  | none => (s.withOrder order, rest)

-- The keys of the level are gathered first, if there are any.
theorem receive_run (outermost : Bool) (s : Select) (g : Gathering) :
    (s.receive outermost).run g =
      s.handOn outermost (if s.order.isEmpty then g else g.prepend s.order) := by
  obtain ⟨g₁, hg₁⟩ : ∃ g₁, (if s.order.isEmpty then g else g.prepend s.order) = g₁ := ⟨_, rfl⟩
  rw [hg₁]
  unfold Select.receive Select.handOn
  cases hempty : s.order.isEmpty with
  | true | false =>
      simp only [hempty, Bool.false_eq_true, if_true, if_false] at hg₁
      simp only [Bool.not_true, Bool.not_false, Bool.false_eq_true, if_true, if_false,
        StateT.run_bind, StateT.run_get, StateT.run_modify, pure_bind, hg₁]
      cases hkeys : g₁.keys with
      | none => rfl
      | some keys =>
          cases hstops : outermost || (s.group.isSome || s.distinct) with
          | true => rfl
          | false => rfl

/-- Handing keys on changes neither the source nor the label of a level. -/
theorem Select.handOn_source_label (outermost : Bool) (s : Select) (g : Gathering) :
    (s.handOn outermost g).1.source = s.source ∧ (s.handOn outermost g).1.label = s.label := by
  unfold handOn
  cases g.keys with
  | none => exact ⟨rfl, rfl⟩
  | some keys =>
      dsimp only
      split <;> exact ⟨rfl, rfl⟩

namespace Select

/-- A key over the rows of a level is a field of it. -/
theorem passKey_own {s : Select} {fields : List (String × Expr)} {key key' : Direction × Expr}
    (h : (s.passKey fields key).2 = some key') : ∃ name, key' = boundKey s.label (name, key.1) := by
  unfold passKey at h
  dsimp only at h
  split at h
  next f hf =>
    split at h
    · cases h
    · split at h
      next name _ => exact ⟨name, (Option.some.inj h).symm⟩
      next => split at h <;> exact ⟨f.path, (Option.some.inj h).symm⟩
  next =>
    split at h
    next name _ => exact ⟨name, (Option.some.inj h).symm⟩
    next => exact ⟨_, (Option.some.inj h).symm⟩

theorem exists_entries_passOutward (s : Select) (keys : List (Direction × Expr)) :
    ∃ entries : List (String × Direction),
      (s.passOutward keys).2 = entries.map (boundKey s.label) := by
  rw [passOutward_eq]
  -- The list of passed keys grows by fields of the level.
  refine List.foldlRecOn (motive := fun passed => ∃ entries : List (String × Direction),
    passed.2 = entries.map (boundKey s.label)) keys s.passStep (b := (s.fields, [])) ⟨[], rfl⟩ ?_
  rintro ⟨fields, done⟩ ⟨entries, hdone⟩ key _
  simp only at hdone
  subst hdone
  unfold passStep
  dsimp only
  cases hkey : (s.passKey fields key).2 with
  | none =>
      rw [Option.toList_none, List.append_nil]
      exact ⟨entries, rfl⟩
  | some key' =>
      rcases passKey_own hkey with ⟨name, rfl⟩
      refine ⟨entries ++ [(name, key.1)], ?_⟩
      rw [List.map_append]
      rfl

/-- The keys that a level hands on are fields of it, each of them once. -/
theorem exists_boundKeys_handOn (s : Select) (g : Gathering) :
    ∃ entries : List (String × Direction), (entries.map Prod.fst).Nodup ∧
      (s.handOn false g).2.keys.getD [] = entries.map (boundKey s.label) := by
  unfold handOn
  cases g.keys with
  | none => exact ⟨[], List.nodup_nil, rfl⟩
  | some keys =>
      dsimp only
      split
      next => exact ⟨[], List.nodup_nil, rfl⟩
      next =>
        rcases exists_entries_passOutward s keys with ⟨entries, hentries⟩
        have hfold := foldr_push_boundKey s.label [] entries
        rw [List.append_nil] at hfold
        refine ⟨keepLast Prod.fst entries, nodup_keepLast entries, ?_⟩
        unfold Gathering.prepend
        rw [hentries]
        exact congrArg Prod.fst hfold

/-- The outermost level hands on nothing. -/
theorem keys_handOn_outermost (s : Select) (g : Gathering) : (s.handOn true g).2.keys = none := by
  unfold handOn
  dsimp only
  split <;> rfl

/-! ### What levels are made of -/

/-- A key is in front of the others or among them, whatever is dropped. -/
theorem mem_foldr_push {keys start : List (Direction × Expr)} {seen : List FieldRef}
    {key : Direction × Expr} (h : key ∈ (keys.foldr Gathering.push (start, seen)).1) :
    key ∈ keys ∨ key ∈ start := by
  induction keys with
  | nil => exact .inr h
  | cons first keys ih =>
      rw [List.foldr_cons, Gathering.push] at h
      split at h
      next =>
        rcases List.mem_cons.mp h with rfl | h
        · exact .inl List.mem_cons_self
        · exact (ih h).imp_left (List.mem_cons_of_mem _)
      next =>
        split at h
        next => exact (ih h).imp_left (List.mem_cons_of_mem _)
        next =>
          rcases List.mem_cons.mp h with rfl | h
          · exact .inl List.mem_cons_self
          · exact (ih h).imp_left (List.mem_cons_of_mem _)

/-- A field that is declared for a key has the expression of the key. -/
theorem mem_passKey {s : Select} {fields : List (String × Expr)} {key : Direction × Expr}
    {field : String × Expr} (h : field ∈ (s.passKey fields key).1) :
    field ∈ fields ∨ field.2 = key.2 := by
  -- Whatever its name is, a field that is added computes the key.
  have hadd : ∀ name, field ∈ fields ++ [(name, key.2)] → field ∈ fields ∨ field.2 = key.2 := by
    intro name h
    rcases List.mem_append.mp h with h | h
    · exact .inl h
    · rw [List.mem_singleton.mp h]
      exact .inr rfl
  unfold passKey at h
  dsimp only at h
  split at h
  next =>
    split at h
    · exact .inl h
    · split at h
      next => exact .inl h
      next =>
        split at h
        · exact .inl h
        · exact hadd _ h
  next =>
    split at h
    next => exact .inl h
    next => exact hadd _ h

theorem mem_passOutward {s : Select} {keys : List (Direction × Expr)} {field : String × Expr}
    (h : field ∈ (s.passOutward keys).1) :
    field ∈ s.fields ∨ ∃ key ∈ keys, field.2 = key.2 := by
  have hpass : ∀ field ∈ (keys.foldl s.passStep (s.fields, [])).1,
      field ∈ s.fields ∨ ∃ key ∈ keys, field.2 = key.2 := by
    -- The declared fields grow from key to key.
    refine List.foldlRecOn (motive := fun passed => ∀ field ∈ passed.1,
      field ∈ s.fields ∨ ∃ key ∈ keys, field.2 = key.2) keys s.passStep (b := (s.fields, []))
      (fun _ => .inl) ?_
    intro passed hpassed key hkey field hfield
    rcases mem_passKey hfield with hfield | hfield
    · exact hpassed field hfield
    · exact .inr ⟨key, hkey, hfield⟩
  exact hpass field h

/-- A level whose clauses are those of another one, but for the keys and the fields. -/
theorem Clauses.change {P : Expr → Prop} {s : Select} (h : s.Clauses P)
    {order : List (Direction × Expr)} {fields : List (String × Expr)}
    (horder : ∀ key ∈ order, P key.2) (hfields : ∀ field ∈ fields, P field.2) :
    Select.Clauses P { s.withOrder order with fields := fields } :=
  ⟨h.source, h.filter, h.group, hfields, horder, h.skip, h.take⟩

/-- The clauses of a level that has got its keys are clauses it had and gathered keys. -/
theorem Clauses.handOn {P : Expr → Prop} {s : Select} (h : s.Clauses P) {outermost : Bool}
    {g : Gathering} (hg : ∀ keys ∈ g.keys, ∀ key ∈ keys, P key.2) :
    (s.handOn outermost g).1.Clauses P := by
  -- Keys stay in their clause or become computed fields; no other expression is new.
  have hgathered : ∀ key ∈ g.keys.getD [], P key.2 := by
    intro key hkey
    cases hkeys : g.keys with
    | none =>
        rw [hkeys] at hkey
        cases hkey
    | some keys =>
        rw [hkeys] at hkey
        exact hg keys hkeys key hkey
  have hkept (needs stops : Bool) : ∀ key ∈ (if needs && !stops then g.keys.getD []
      else if needs then s.order else []), P key.2 := by
    split
    · exact hgathered
    · split
      · exact h.order
      · exact List.forall_mem_nil _
  unfold Select.handOn
  dsimp only
  split
  next keys hkeys =>
    split
    next => exact h.change (hkept _ _) h.fields
    next =>
      refine h.change (hkept _ _) fun field hfield => ?_
      rcases mem_passOutward hfield with hfield | ⟨key, hkey, hsame⟩
      · exact h.fields field hfield
      · rw [hsame]
        exact hg keys hkeys key hkey
  next => exact h.change (hkept _ _) h.fields

end Select

end DocumentMapper
