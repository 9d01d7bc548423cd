import DocumentMapper.Proofs.Data.Except
import DocumentMapper.Query.Binding
import DocumentMapper.Query.Expr.Constant
import DocumentMapper.Query.Ordering
import Mathlib.Data.List.Induction

/-!
# Chains of members

A filter or a sort key reads a field of a row through a chain of members on the row. The
translation turns the chain into the path of the field: folding leaves it as it is,
binding puts the path in its place, and hoisting does not touch it. At a row on which
the chain has a value at all, the path leads to that value (`FieldChain.evaluate_on`).
On other rows a chain fails where a path finds nothing, since nothing but documents has
members that are no lengths.

## Main definitions

* `EndsAtField`: Members of a row that lead to a field.
* `FieldChain`, `FieldChain.single`: A chain of members that names a field.
* `FieldChain.on`: The chain on an expression of the row.
* `FieldChain.path`, `FieldChain.value`: The path, and what it leads to in a row.

## Theorems

* `lookupPath?_intercalate`, `lookupPath?_path`: The path leads along the names.
* `exists_endsAtField`: Every chain is a field, or some lengths asked of one.
* `evaluate_on`: The value of a chain is at its path.
* `bind_members`: Members of a row are bound to a field.
* `fold_on`, `bind_on_eq`, `bind_on`: Folding and binding of a chain.
-/

namespace DocumentMapper

/-- A path of names without dots leads along these names. -/
theorem Document.lookupPath?_intercalate (d : Document) {names : List String}
    (hdotless : ∀ name ∈ names, '.' ∉ name.toList) (hne : names ≠ []) :
    d.lookupPath? (String.intercalate "." names) = d.getPath? names := by
  have hdots : ∀ characters ∈ names.map String.toList, '.' ∉ characters := by
    intro characters hmem
    rcases List.mem_map.mp hmem with ⟨name, hname, rfl⟩
    exact hdotless name hname
  have hne : names.map String.toList ≠ [] := mt List.map_eq_nil_iff.mp hne
  have hdot : ".".toList = ['.'] := rfl
  unfold lookupPath?
  rw [String.toList_intercalate, hdot, List.splitOn_intercalate '.' hdots hne, List.map_map]
  simp

/-! ### Chains that are fields -/

/-- A chain of members on the row is a field if no length is asked for at its end. One
    member alone always is. -/
def EndsAtField (names : List String) : Prop :=
  ∃ parents last, names = parents ++ [last] ∧ (parents ≠ [] → isLengthMember last = false)

theorem endsAtField_single (name : String) : EndsAtField [name] :=
  ⟨[], name, rfl, fun h => absurd rfl h⟩

theorem EndsAtField.ne_nil {names : List String} (h : EndsAtField names) : names ≠ [] := by
  rcases h with ⟨parents, last, rfl, _⟩
  exact List.concat_ne_nil _ _

/-- Members that are no lengths lead from a field to a field. -/
theorem EndsAtField.append {names own : List String} (h : EndsAtField names)
    (hown : ∀ m ∈ own, isLengthMember m = false) : EndsAtField (names ++ own) := by
  rcases List.eq_nil_or_concat own with rfl | ⟨parents, last, rfl⟩
  · rwa [List.append_nil]
  · rw [List.concat_eq_append] at hown ⊢
    refine ⟨names ++ parents, last, (List.append_assoc _ _ _).symm, fun _ => ?_⟩
    exact hown last (List.mem_append_right _ List.mem_cons_self)

/-- Every chain is a field, or some lengths asked of one. -/
theorem exists_endsAtField {names : List String} (hne : names ≠ []) :
    ∃ core lengths, names = core ++ lengths ∧ EndsAtField core ∧
      ∀ m ∈ lengths, isLengthMember m = true := by
  induction names using List.reverseRecOn with
  | nil => exact absurd rfl hne
  | append_singleton parents last ih =>
      -- Lengths are taken off the end until a name is left that is no length, or the first name.
      by_cases hfield : parents ≠ [] → isLengthMember last = false
      · exact ⟨parents ++ [last], [], (List.append_nil _).symm, ⟨parents, last, rfl, hfield⟩,
          List.forall_mem_nil _⟩
      · rw [Classical.not_imp, Bool.not_eq_false] at hfield
        rcases ih hfield.1 with ⟨core, lengths, hparents, hcore, hlengths⟩
        refine ⟨core, lengths ++ [last], ?_, hcore, ?_⟩
        · rw [hparents, List.append_assoc]
        · exact List.forall_mem_append.mpr ⟨hlengths, List.forall_mem_singleton.mpr hfield.2⟩

/-- A chain that ends with a length is no field. -/
theorem not_endsAtField {names lengths : List String} (hne : names ≠ [])
    (hlengths : ∀ m ∈ lengths, isLengthMember m = true) (hnil : lengths ≠ []) :
    ¬EndsAtField (names ++ lengths) := by
  rintro ⟨parents, last, heq, hlast⟩
  rcases List.eq_nil_or_concat lengths with rfl | ⟨others, m, rfl⟩
  · exact hnil rfl
  rw [List.concat_eq_append] at heq hlengths
  rw [← List.append_assoc] at heq
  rcases List.append_inj' heq rfl with ⟨rfl, hsame⟩
  have hlength := hlengths m (List.mem_append_right _ List.mem_cons_self)
  rw [List.singleton_inj.mp hsame, hlast fun h => hne (List.append_eq_nil_iff.mp h).1] at hlength
  cases hlength

/-- A chain of members that names a field of a row. A single member always does; the
    last one of several does unless it asks for a length. -/
structure FieldChain where
  parents : List String
  last : String
  dotless : ∀ name ∈ parents ++ [last], '.' ∉ name.toList
  namesField : parents ≠ [] → isLengthMember last = false

namespace FieldChain

/-- The members in order. -/
def names (k : FieldChain) : List String :=
  k.parents ++ [k.last]

/-- The path of the field. -/
def path (k : FieldChain) : String :=
  String.intercalate "." k.names

/-- The chain on an expression of the row. -/
def on (k : FieldChain) (row : Expr) : Expr :=
  .member (k.parents.foldl .member row) k.last

/-- What is at the path in a row. What is missing is null. -/
def value (k : FieldChain) (row : Document) : Value :=
  (row.lookupPath? k.path).getD .null

theorem dotless_single {name : String} (h : '.' ∉ name.toList) :
    ∀ other ∈ ([] : List String) ++ [name], '.' ∉ other.toList := by
  intro other hother
  rw [List.mem_singleton.mp hother]
  exact h

theorem namesField_single (name : String) :
    ([] : List String) ≠ [] → isLengthMember name = false :=
  fun h => absurd rfl h

/-- The chain of a single member. -/
def single (name : String) (h : '.' ∉ name.toList) : FieldChain where
  parents := []
  last := name
  dotless := dotless_single h
  namesField := namesField_single name

/-- A single member always has a value, if only null. -/
theorem evaluate_single {name : String} (h : '.' ∉ name.toList) (label : String)
    (row : Document) :
    ((single name h).on (.parameter label)).evaluate (some row) =
      .ok ((row.get? name).getD .null) := by
  rw [on, Expr.evaluate]
  rfl

variable (k : FieldChain)

/-- The names between the dots of a path are those of its chain. -/
theorem lookupPath?_path (row : Document) : row.lookupPath? k.path = row.getPath? k.names :=
  row.lookupPath?_intercalate k.dotless (List.concat_ne_nil _ _)

/-! ### The value of a chain -/

/-- A member of what is no document is no document either. -/
theorem asDocument?_member {v w : Value} {name : String} (hv : v.asDocument? = none)
    (h : v.member name = .ok w) : w.asDocument? = none := by
  have hcount : ∀ n, (Value.ofCount n).asDocument? = none := by
    intro n
    unfold Value.ofCount
    split <;> rfl
  unfold Value.member at h
  split at h
  · cases hv
  · split at h
    · rw [← Except.ok.inj h, hcount]
    · cases h
  · split at h
    · rw [← Except.ok.inj h, hcount]
    · cases h
  · cases h

/-- What is no document has no members but lengths. -/
theorem isLengthMember_of_member {v w : Value} {name : String} (hv : v.asDocument? = none)
    (h : v.member name = .ok w) : isLengthMember name = true := by
  unfold Value.member at h
  -- Only texts and lists have a member, and it is their length.
  split at h
  · cases hv
  · split at h
    · next hname =>
        unfold isLengthMember
        rw [hname, Bool.true_or]
    · cases h
  · split at h
    · next hname => exact hname
    · cases h
  · cases h

/-- A chain that leaves the documents has no value at its end. -/
theorem foldlM_member_ne_ok {last : String} (hlast : isLengthMember last = false)
    (parents : List String) :
    ∀ {v w : Value}, v.asDocument? = none →
      (parents.foldlM Value.member v >>= fun v => v.member last) ≠ .ok w := by
  induction parents with
  | nil =>
      intro v w hv h
      -- Once the value is no document, nothing but a length can be read from it.
      have hlength := isLengthMember_of_member hv h
      rw [hlast] at hlength
      cases hlength
  | cons name parents ih =>
      intro v w hv h
      rw [List.foldlM_cons] at h
      rcases Except.bind_eq_ok.mp h with ⟨u, hu, hw⟩
      rcases Except.bind_eq_ok.mp hu with ⟨t, ht, hu⟩
      exact ih (asDocument?_member hv ht) (Except.bind_eq_ok.mpr ⟨u, hu, hw⟩)

/-- Going along members from a document is going along its path. -/
theorem foldlM_member_eq {last : String} (parents : List String)
    (hlast : parents ≠ [] → isLengthMember last = false) :
    ∀ {d : Document} {v : Value},
      (parents.foldlM Value.member (.document d) >>= fun v => v.member last) = .ok v →
      v = (d.getPath? (parents ++ [last])).getD .null := by
  induction parents with
  | nil =>
      intro d v h
      exact (Except.ok.inj h).symm
  | cons name parents ih =>
      intro d v h
      have hlast := hlast (List.cons_ne_nil _ _)
      have hpath : ∃ next rest, parents ++ [last] = next :: rest :=
        List.exists_cons_of_ne_nil (List.concat_ne_nil _ _)
      rcases hpath with ⟨next, rest, hpath⟩
      rw [List.foldlM_cons] at h
      rw [List.cons_append, hpath]
      have hmember : (Value.document d).member name = .ok ((d.get? name).getD .null) := rfl
      rw [hmember, Except.ok_bind] at h
      -- Every member but the last has to be a document.
      cases hget : d.get? name with
      | none =>
          rw [hget] at h
          exact absurd h (foldlM_member_ne_ok hlast parents rfl)
      | some w =>
          rw [hget] at h
          cases w with
          | document inner =>
              rw [ih (fun _ => hlast) h, hpath, Document.getPath?, hget]
          | _ => exact absurd h (foldlM_member_ne_ok hlast parents rfl)

theorem evaluate_members (row : Document) (parents : List String) :
    ∀ e : Expr, (parents.foldl Expr.member e).evaluate (some row) =
      (e.evaluate (some row) >>= fun v => parents.foldlM Value.member v) := by
  induction parents with
  | nil =>
      intro e
      exact (bind_pure _).symm
  | cons name parents ih =>
      intro e
      rw [List.foldl_cons, ih, Expr.evaluate, bind_assoc]
      simp only [List.foldlM_cons]

/-- At a row on which a chain has a value, the path leads to the value. -/
theorem evaluate_on {label : String} {row : Document} {v : Value}
    (h : (k.on (.parameter label)).evaluate (some row) = .ok v) : v = k.value row := by
  rw [on, Expr.evaluate, evaluate_members, Expr.evaluate, Except.ok_bind] at h
  rw [value, lookupPath?_path]
  exact foldlM_member_eq k.parents k.namesField h

/-! ### Folding and binding of a chain -/

/-- Members are folded where what they are members of is. -/
theorem fold_members (label : String) (parents : List String) :
    (parents.foldl Expr.member (.parameter label)).isConstant = false ∧
      (parents.foldl Expr.member (.parameter label)).fold =
        pure (parents.foldl Expr.member (.parameter label)) := by
  induction parents using List.reverseRecOn with
  | nil => exact ⟨rfl, by rw [List.foldl_nil, Expr.fold]⟩
  | append_singleton parents name ih =>
      rw [List.foldl_append, List.foldl_cons, List.foldl_nil]
      refine ⟨rfl, ?_⟩
      rw [Expr.fold, ih.2, pure_bind, Expr.settle, Expr.isFoldable, ih.1]
      rfl

@[simp] theorem isConstant_on (row : Expr) : (k.on row).isConstant = false := by
  rfl

@[simp] theorem fold_on (label : String) :
    (k.on (.parameter label)).fold = pure (k.on (.parameter label)) := by
  have hmembers := fold_members label (k.parents ++ [k.last])
  rw [List.foldl_append, List.foldl_cons, List.foldl_nil] at hmembers
  exact hmembers.2

theorem parameterChain?_members (label : String) (parents : List String) :
    ∀ last, (Expr.member (parents.foldl Expr.member (.parameter label)) last).parameterChain? =
      some (last :: parents.reverse) := by
  induction parents using List.reverseRecOn with
  | nil =>
      intro last
      rfl
  | append_singleton parents name ih =>
      intro last
      rw [List.foldl_append, List.foldl_cons, List.foldl_nil, Expr.parameterChain?, ih name,
        List.reverse_append]
      · rfl
      · intro other h
        cases h

/-- Members of a row that ask for no length are bound to a field. -/
theorem bind_members (store : Option Store) (rows : Option Rows) (label : String)
    (parents : List String) {last : String} (hlast : parents ≠ [] → isLengthMember last = false) :
    (Expr.member (parents.foldl Expr.member (.parameter label)) last).bind store rows =
      bindPath store rows (parents ++ [last]) := by
  have hnames : (last :: parents.reverse).reverse = parents ++ [last] := by
    rw [List.reverse_cons, List.reverse_reverse]
  unfold Expr.bind
  simp only [parameterChain?_members]
  -- A name directly on the parameter is never taken for a length, so the condition is on the rest.
  cases hparents : parents.reverse with
  | nil =>
      rw [hparents] at hnames
      rw [bindChain, hnames]
      intro last next rest h
      cases (List.cons.inj h).2
  | cons next rest =>
      have hlast := hlast fun hnil => by
        rw [hnil] at hparents
        cases hparents
      rw [hparents] at hnames
      rw [bindChain, hlast, hnames]
      rfl

/-- The same for all names of a chain. -/
theorem bind_of_endsAtField (store : Option Store) (rows : Option Rows) (label : String)
    {names : List String} (h : EndsAtField names) :
    (names.foldl Expr.member (.parameter label)).bind store rows = bindPath store rows names := by
  rcases h with ⟨parents, last, rfl, hlast⟩
  rw [List.foldl_append]
  exact bind_members store rows label parents hlast

theorem bind_foldl_member (store : Option Store) (rows : Option Rows) (label first : String)
    {rest : List String} (hrest : ∀ name ∈ rest, isLengthMember name = false) :
    ((first :: rest).foldl Expr.member (.parameter label)).bind store rows =
      bindPath store rows (first :: rest) :=
  bind_of_endsAtField store rows label ((endsAtField_single first).append hrest)

/-- A chain is bound to the field at the end of its names. -/
theorem bind_on_eq (store : Option Store) (rows : Option Rows) (label : String) :
    (k.on (.parameter label)).bind store rows = bindPath store rows k.names :=
  bind_members store rows label k.parents k.namesField

/-- Members of what has no class keep their names. -/
theorem storedPath_none (s : Store) (names : List String) :
    storedPath s none names = .ok names := by
  induction names with
  | nil => rfl
  | cons name names ih =>
      rw [storedPath, ih]
      rfl

/-- A chain on a row without a class is bound to the field at its path. -/
@[simp] theorem bind_on (store : Option Store) (label source : String) :
    (k.on (.parameter label)).bind store (some ⟨source, none⟩) =
      .ok (.field ⟨source, k.path⟩) := by
  rw [bind_on_eq]
  cases store with
  | none => rfl
  | some s =>
      simp only [bindPath, storedPath_none]
      rfl

end FieldChain

end DocumentMapper
