import DocumentMapper.Proofs.Data.Except
import DocumentMapper.Proofs.Value.Induction

/-!
# Equality of stored values

The equality that comparisons of stored values mean is symmetric and transitive, but a
NaN is equal to nothing, itself included, and the two zeros are equal. So it is a
partial equivalence, and equal values can be exchanged for each other in every further
comparison. Both laws go by induction over values and documents: a list of fields is
equal to another one field by field.

Only doubles are equal to anything but themselves. Where a document has none, what is
equal to it is the same document, so comparing it finds out what a reader has returned.

## Main definitions

* `Value.DoubleFree`, `Document.DoubleFree`: No doubles at any depth.

## Theorems

* `Double.equals_comm`, `Double.equals_trans`: The laws for doubles.
* `scalar_equals`: A scalar is equal to itself only, except for doubles.
* `Value.beq_comm`: Equality is symmetric.
* `Value.beq_trans`: Equality is transitive.
* `Value.beq_congr`: Equal values are equal to the same values.
* `Document.eq_of_equals`: Without doubles equal documents are the same.
* `Document.eq_ok_of_equals`: A result that is known by comparison.
-/

namespace DocumentMapper

namespace Double

theorem equals_iff {a b : Double} :
    a.equals b = true ↔ a.isNaN = false ∧ b.isNaN = false ∧ a.key = b.key := by
  unfold equals compare?
  cases ha : a.isNaN with
  | true => simp
  | false =>
      cases hb : b.isNaN with
      | true => simp
      | false => simp

theorem equals_comm (a b : Double) : a.equals b = b.equals a := by
  rw [Bool.eq_iff_iff, equals_iff, equals_iff]
  constructor
  · rintro ⟨ha, hb, h⟩
    exact ⟨hb, ha, h.symm⟩
  · rintro ⟨hb, ha, h⟩
    exact ⟨ha, hb, h.symm⟩

theorem equals_trans {a b c : Double} (h : a.equals b = true) (h' : b.equals c = true) :
    a.equals c = true := by
  rw [equals_iff] at h h' ⊢
  exact ⟨h.1, h'.2.1, h.2.2.trans h'.2.2⟩

end Double

theorem itemsEqual_eq (xs : List Value) :
    ∀ index ys, itemsEqual xs ys = fieldsEqual (itemFields index xs) (itemFields index ys) := by
  induction xs with
  | nil =>
      intro index ys
      cases ys with
      | nil => simp only [itemsEqual, itemFields, fieldsEqual]
      | cons y ys => simp only [itemsEqual, itemFields, fieldsEqual]
  | cons x xs ih =>
      intro index ys
      cases ys with
      | nil => simp only [itemsEqual, itemFields, fieldsEqual]
      | cons y ys =>
          simp only [itemsEqual, itemFields, fieldsEqual, ih (index + 1) ys, decide_true,
            Bool.true_and]

/-- An array is equal to another one as the documents they are stored as are. -/
theorem array_equals (xs ys : List Value) :
    (Value.array xs).equals (.array ys) =
      (Value.document (.ofItems xs)).equals (.document (.ofItems ys)) := by
  rw [Value.equals, Value.equals, Document.ofItems, Document.ofItems, Document.equals]
  exact itemsEqual_eq xs 0 ys

/-- A scalar is equal to itself only, except for doubles. -/
theorem scalar_equals {v w : Value} (hv : v.isScalar = true) (h : v.equals w = true) :
    v = w ∨ ∃ a b, v = .double a ∧ w = .double b ∧ a.equals b = true := by
  cases v <;> cases w <;> simp_all [Value.isScalar, Value.equals]

/-- Lists of fields are compared pairwise, so the contents of the first one decide. -/
theorem fieldsEqual_comm {fields : List (String × Value)}
    (hcontents : ∀ field ∈ fields, ∀ w, field.2.equals w = w.equals field.2) :
    ∀ fields', fieldsEqual fields fields' = fieldsEqual fields' fields := by
  induction fields with
  | nil =>
      intro fields'
      cases fields' <;> simp only [fieldsEqual]
  | cons field rest ih =>
      intro fields'
      cases fields' with
      | nil => simp only [fieldsEqual]
      | cons field' rest' =>
          rcases field with ⟨k, v⟩
          rcases field' with ⟨l, w⟩
          have hv := hcontents (k, v) List.mem_cons_self w
          have hrest := ih (fun field hfield => hcontents field (List.mem_cons_of_mem _ hfield))
            rest'
          simp only [fieldsEqual, hv, hrest, eq_comm]

theorem fieldsEqual_trans {fields : List (String × Value)}
    (hcontents : ∀ field ∈ fields, ∀ w u, field.2.equals w = true → w.equals u = true →
      field.2.equals u = true) :
    ∀ {fields' fields''}, fieldsEqual fields fields' = true →
      fieldsEqual fields' fields'' = true → fieldsEqual fields fields'' = true := by
  induction fields with
  | nil =>
      intro fields' fields'' h h'
      cases fields' with
      | nil => exact h'
      | cons field' rest' => simp only [fieldsEqual, Bool.false_eq_true] at h
  | cons field rest ih =>
      intro fields' fields'' h h'
      -- A list of another length is equal to neither of its neighbours.
      cases fields' with
      | nil => simp only [fieldsEqual, Bool.false_eq_true] at h
      | cons field' rest' =>
          cases fields'' with
          | nil => simp only [fieldsEqual, Bool.false_eq_true] at h'
          | cons field'' rest'' =>
              rcases field with ⟨k, v⟩
              rcases field' with ⟨l, w⟩
              rcases field'' with ⟨m, u⟩
              simp only [fieldsEqual, Bool.and_eq_true, decide_eq_true_eq] at h h' ⊢
              have hv := hcontents (k, v) List.mem_cons_self w u h.1.2 h'.1.2
              have hrest := ih (fun field hfield => hcontents field (List.mem_cons_of_mem _ hfield))
                h.2 h'.2
              exact ⟨⟨h.1.1.trans h'.1.1, hv⟩, hrest⟩

theorem equals_comm_cases :
    Cases (fun v => ∀ w, v.equals w = w.equals v) (fun d => ∀ e, d.equals e = e.equals d) where
  scalar v hv w := by
    cases v <;> first
      | exact absurd hv Bool.false_ne_true
      | (cases w <;> simp only [Value.equals, Double.equals_comm, eq_comm])
  document d ih w := by
    cases w <;> simp only [Value.equals, ih]
  array items ih w := by
    cases w with
    | array ys =>
        rw [array_equals, array_equals, Value.equals, Value.equals]
        exact ih _
    | _ => simp only [Value.equals]
  codeWithScope source scope ih w := by
    cases w <;> simp only [Value.equals, ih, eq_comm]
  fields fields ih e := by
    rcases e with ⟨fields'⟩
    rw [Document.equals, Document.equals]
    exact fieldsEqual_comm ih fields'

theorem equals_trans_cases :
    Cases (fun v => ∀ w u, v.equals w = true → w.equals u = true → v.equals u = true)
      (fun d => ∀ e f, d.equals e = true → e.equals f = true → d.equals f = true) where
  scalar v hv w u h h' := by
    rcases scalar_equals hv h with rfl | ⟨a, b, rfl, rfl, hab⟩
    · exact h'
    · -- Two doubles: the one in the middle is the same, so their keys are.
      rcases scalar_equals rfl h' with rfl | ⟨b', c, hb, rfl, hbc⟩
      · exact h
      · rw [← Value.double.inj hb] at hbc
        rw [Value.equals]
        exact Double.equals_trans hab hbc
  document d ih w u h h' := by
    cases w <;> simp only [Value.equals, Bool.false_eq_true] at h
    cases u <;> simp only [Value.equals, Bool.false_eq_true] at h'
    rw [Value.equals]
    exact ih _ _ h h'
  array items ih w u h h' := by
    cases w with
    | array ys =>
        cases u with
        | array zs =>
            -- The hypothesis of the induction is about the documents that the arrays are stored as.
            rw [array_equals, Value.equals] at h h' ⊢
            exact ih _ _ h h'
        | _ => simp only [Value.equals, Bool.false_eq_true] at h'
    | _ => simp only [Value.equals, Bool.false_eq_true] at h
  codeWithScope source scope ih w u h h' := by
    cases w <;> simp only [Value.equals, Bool.false_eq_true] at h
    cases u <;> simp only [Value.equals, Bool.false_eq_true] at h'
    simp only [Bool.and_eq_true, decide_eq_true_eq] at h h'
    simp only [Value.equals, Bool.and_eq_true, decide_eq_true_eq]
    exact ⟨h.1.trans h'.1, ih _ _ h.2 h'.2⟩
  fields fields ih e f h h' := by
    rcases e with ⟨fields'⟩
    rcases f with ⟨fields''⟩
    rw [Document.equals] at h h' ⊢
    exact fieldsEqual_trans ih h h'

namespace Value

theorem beq_comm (v w : Value) : (v == w) = (w == v) :=
  equals_comm_cases.value v w

theorem beq_trans {v w u : Value} (h : (v == w) = true) (h' : (w == u) = true) : (v == u) = true :=
  equals_trans_cases.value v w u h h'

/-- Equal values are equal to the same values. -/
theorem beq_congr {v w : Value} (h : (v == w) = true) (u : Value) : (u == v) = (u == w) := by
  rw [Bool.eq_iff_iff]
  constructor
  · intro hv
    exact beq_trans hv h
  · intro hw
    rw [beq_comm] at h
    exact beq_trans hw h

end Value

/-! ### Equality without doubles -/

def Value.isDouble : Value → Bool
  | .double _ => true
  | _ => false

/-- There are no doubles in a value. -/
def Value.DoubleFree (v : Value) : Prop :=
  v.Throughout (fun v => v.isDouble = false) fun _ => True

/-- There are no doubles in a document. -/
def Document.DoubleFree (d : Document) : Prop :=
  d.Throughout (fun v => v.isDouble = false) fun _ => True

instance (d : Document) : Decidable d.DoubleFree :=
  d.decidableThroughout _ _

theorem eq_of_fieldsEqual {fields : List (String × Value)}
    (hcontents : ∀ field ∈ fields, ∀ w, field.2.equals w = true → field.2 = w) :
    ∀ {fields'}, fieldsEqual fields fields' = true → fields = fields' := by
  induction fields with
  | nil =>
      intro fields' h
      cases fields' with
      | nil => rfl
      | cons field' rest' => simp only [fieldsEqual, Bool.false_eq_true] at h
  | cons field rest ih =>
      intro fields' h
      cases fields' with
      | nil => simp only [fieldsEqual, Bool.false_eq_true] at h
      | cons field' rest' =>
          rcases field with ⟨k, v⟩
          rcases field' with ⟨l, w⟩
          simp only [fieldsEqual, Bool.and_eq_true, decide_eq_true_eq] at h
          have hv := hcontents (k, v) List.mem_cons_self w h.1.2
          have hrest := ih (fun field hfield => hcontents field (List.mem_cons_of_mem _ hfield)) h.2
          rw [h.1.1, hrest, ← hv]

theorem eq_of_equals_cases :
    Cases (fun v => v.DoubleFree → ∀ w, v.equals w = true → v = w)
      (fun d => d.DoubleFree → ∀ e, d.equals e = true → d = e) where
  scalar v hv hfree w h := by
    rcases scalar_equals hv h with rfl | ⟨a, b, rfl, rfl, _⟩
    · rfl
    · cases hfree
  document d ih hfree w h := by
    cases w <;> simp only [Value.equals, Bool.false_eq_true] at h
    exact congrArg Value.document (ih hfree _ h)
  array items ih hfree w h := by
    cases w with
    | array ys =>
        rw [array_equals, Value.equals] at h
        have hsame := ih ((throughout_ofItems items trivial).mpr hfree) _ h
        have hvalues := congrArg Document.values hsame
        rw [Document.values_ofItems, Document.values_ofItems] at hvalues
        exact congrArg Value.array hvalues
    | _ => simp only [Value.equals, Bool.false_eq_true] at h
  codeWithScope source scope ih hfree w h := by
    cases w <;> simp only [Value.equals, Bool.false_eq_true] at h
    simp only [Bool.and_eq_true, decide_eq_true_eq] at h
    rw [h.1, ih hfree _ h.2]
  fields fields ih hfree e h := by
    rcases e with ⟨fields'⟩
    have hfields := (Document.throughout_iff.mp hfree).2
    rw [Document.equals] at h
    exact congrArg Document.mk
      (eq_of_fieldsEqual (fun field hfield => ih field hfield (hfields field hfield)) h)

namespace Document

/-- What is equal to a document without doubles is that document. -/
theorem eq_of_equals {d e : Document} (hfree : d.DoubleFree) (h : d.equals e = true) : d = e :=
  eq_of_equals_cases.all d hfree e h

/-- A reader has returned a document without doubles if it has returned an equal one. -/
theorem eq_ok_of_equals {ε : Type} {result : Except ε (Document × Nat)} {d : Document} {n : Nat}
    (hfree : d.DoubleFree)
    (h : result.map (fun found => (d.equals found.1, found.2)) = .ok (true, n)) :
    result = .ok (d, n) := by
  rcases Except.map_eq_ok.mp h with ⟨⟨e, m⟩, hresult, hfound⟩
  rcases Prod.mk.inj hfound with ⟨hequals, rfl⟩
  rw [hresult, eq_of_equals hfree hequals]

end Document

end DocumentMapper
