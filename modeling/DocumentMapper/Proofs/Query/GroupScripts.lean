import DocumentMapper.Proofs.Data.Except
import DocumentMapper.Proofs.Data.List
import DocumentMapper.Proofs.Value.Document
import DocumentMapper.Query.Grouping
import DocumentMapper.Text.Unicode.Property

/-!
# What is emitted and what is folded

The map function and the reduce function of a grouping are written apart from each other.
The first one emits an object with a property for each aggregate, and the second one folds
the objects of one key property by property. They fit together only if both speak of the
same properties, and if no property is folded twice.

Both walk over the same aggregates in the same order. But the object has one property for
each *name*, and the reduce function one statement for each *aggregate*: of two aggregates
with one name, one is started and both are folded. So the scripts have the same form exactly
if the names are distinct.

The statements of the reduce function name their properties as they are. The text of the
function can be read in one way only, if the names are identifiers.

## Main definitions

* `Script.mapping`, `Script.reducing`: The two scripts from their parts.
* `Fold`: The folding of one property.
* `Script.isIdentifier`: Names that may stand behind a dot.
* `SameForm`: An object and a list of folds that are made of the same aggregates.

## Theorems

* `mapFunction_eq_ok_iff`, `reduceFunction_eq_ok_iff`: The parts of the two scripts.
* `reducing_injective`: Reading of the folds from the text.
* `sameForm_iff`: Distinct names.
* `groupScripts_sameForm_iff`: The scripts of one grouping.
-/

namespace DocumentMapper

/-! ### Folds -/

/-- How the values of a property are folded. -/
inductive FoldKind where
  | sum | least | greatest
deriving DecidableEq, Repr

/-- How the values of an aggregate are folded. An average cannot be folded. -/
def AggregateKind.fold? : AggregateKind → Option FoldKind
  | count | sum => some .sum
  | min => some .least
  | max => some .greatest
  | average => none

/-- The folding of one property. -/
structure Fold where
  property : String
  kind : FoldKind
deriving DecidableEq, Repr

/-- The statement that folds the next value of a property into the result. -/
def Fold.statement (f : Fold) : String :=
  let result := "result." ++ f.property
  let value := "values[i]." ++ f.property
  match f.kind with
  | .sum => result ++ " += " ++ value ++ ";"
  | .least => result ++ " = Math.min(" ++ result ++ ", " ++ value ++ ");"
  | .greatest => result ++ " = Math.max(" ++ result ++ ", " ++ value ++ ");"

namespace Script

/-- A map function that emits a key and a value. -/
def mapping (key value : String) : String :=
  "function() " ++ block ("emit(" ++ key ++ ", " ++ value ++ ");")

/-- What a reduce function does. Without folds, the first value is the result. -/
def reducingBody : List Fold → String
  | [] => "return values[0];"
  | folds =>
    "var result = values[0]; for (var i = 1; i < values.length; i++) "
      ++ block (String.intercalate " " (folds.map Fold.statement)) ++ " return result;"

/-- A reduce function that folds some properties. -/
def reducing (folds : List Fold) : String :=
  "function(key, values) " ++ block (reducingBody folds)

end Script

/-! ### The parts of the scripts -/

namespace Aggregate

/-- A property that starts an aggregate. -/
def StartedBy (a : Aggregate) (member : String × String) : Prop :=
  member.1 = a.name ∧ a.start = .ok member.2

/-- A fold of an aggregate. -/
def FoldedBy (a : Aggregate) (f : Fold) : Prop :=
  f.property = a.name ∧ a.kind.fold? = some f.kind

theorem step_of_fold? {a : Aggregate} {k : FoldKind} (h : a.kind.fold? = some k) :
    a.step = .ok (Fold.statement ⟨a.name, k⟩) := by
  obtain ⟨name, kind, argument⟩ := a
  cases kind with
  | count | sum | min | max =>
      cases h
      rfl
  | average => cases h

/-- The statements of the reduce function are folds. -/
theorem step_eq_ok_iff (a : Aggregate) (s : String) :
    a.step = .ok s ↔ ∃ f, a.FoldedBy f ∧ f.statement = s := by
  constructor
  · intro h
    cases hk : a.kind.fold? with
    | none =>
        obtain ⟨name, kind, argument⟩ := a
        cases kind with
        | count | sum | min | max => cases hk
        | average => cases h
    | some k =>
        rw [step_of_fold? hk] at h
        exact ⟨⟨a.name, k⟩, ⟨rfl, hk⟩, Except.ok.inj h⟩
  · rintro ⟨⟨property, k⟩, ⟨hname, hk⟩, rfl⟩
    cases hname
    exact step_of_fold? hk

end Aggregate

theorem mapM_start_eq_ok_iff {as : List Aggregate} {starts : List (String × String)} :
    as.mapM (fun a => do return (a.name, ← a.start)) = .ok starts ↔
      List.Forall₂ Aggregate.StartedBy as starts := by
  have hmember : ∀ (a : Aggregate) (member : String × String),
      (do return (a.name, ← a.start) : Except QueryError (String × String)) = .ok member ↔
        a.StartedBy member := by
    intro a member
    constructor
    · intro h
      rcases Except.bind_eq_ok.mp h with ⟨start, hstart, h⟩
      rw [← Except.ok.inj h]
      exact ⟨rfl, hstart⟩
    · rintro ⟨hname, hstart⟩
      refine Except.bind_eq_ok.mpr ⟨member.2, hstart, ?_⟩
      rw [← hname]
      rfl
  rw [Except.mapM_eq_ok]
  simp only [hmember]

theorem mapM_step_eq_ok_iff {as : List Aggregate} {steps : List String} :
    as.mapM Aggregate.step = .ok steps ↔
      ∃ folds, List.Forall₂ Aggregate.FoldedBy as folds ∧ folds.map Fold.statement = steps := by
  rw [Except.mapM_eq_ok]
  simp only [Aggregate.step_eq_ok_iff]
  constructor
  · intro h
    induction h with
    | nil => exact ⟨[], .nil, rfl⟩
    | cons hstep hrest ih =>
        rcases hstep with ⟨f, hf, rfl⟩
        rcases ih with ⟨folds, hfolds, rfl⟩
        exact ⟨f :: folds, .cons hf hfolds, rfl⟩
  · rintro ⟨folds, hfolds, rfl⟩
    rw [List.forall₂_map_right_iff]
    exact hfolds.imp fun a f hf => ⟨f, hf, rfl⟩

/-- The map function starts each aggregate, and what it emits has each name once. -/
theorem mapFunction_eq_ok_iff {fields : List (String × Expr)} {keys : List Expr} {m : String} :
    mapFunction fields keys = .ok m ↔
      ∃ starts, List.Forall₂ Aggregate.StartedBy (aggregates fields) starts ∧
        Script.mapping (Script.key (keyMembers keys)) (Script.value (Fields.ofList starts)) =
          m := by
  have htext : ∀ key value : String,
      "function() " ++ Script.block ("emit(" ++ (key ++ ", " ++ value) ++ ");") =
        Script.mapping key value := by
    intro key value
    simp only [Script.mapping, String.append_assoc]
  unfold mapFunction
  constructor
  · intro h
    rcases Except.bind_eq_ok.mp h with ⟨starts, hstarts, h⟩
    refine ⟨starts, mapM_start_eq_ok_iff.mp hstarts, ?_⟩
    rw [← htext]
    exact Except.ok.inj h
  · rintro ⟨starts, hstarts, rfl⟩
    refine Except.bind_eq_ok.mpr ⟨starts, mapM_start_eq_ok_iff.mpr hstarts, ?_⟩
    rw [← htext]
    rfl

/-- The reduce function folds each aggregate. -/
theorem reduceFunction_eq_ok_iff {fields : List (String × Expr)} {r : String} :
    reduceFunction fields = .ok r ↔
      ∃ folds, List.Forall₂ Aggregate.FoldedBy (aggregates fields) folds ∧
        Script.reducing folds = r := by
  have htext : ∀ folds : List Fold,
      "function(key, values) " ++ Script.block (
        if (folds.map Fold.statement).isEmpty then "return values[0];"
        else
          "var result = values[0]; for (var i = 1; i < values.length; i++) "
            ++ Script.block (String.intercalate " " (folds.map Fold.statement))
            ++ " return result;") = Script.reducing folds := by
    intro folds
    -- There are statements exactly if there are folds.
    cases folds with
    | nil => rfl
    | cons f rest => rfl
  unfold reduceFunction
  constructor
  · intro h
    rcases Except.bind_eq_ok.mp h with ⟨steps, hsteps, h⟩
    rcases mapM_step_eq_ok_iff.mp hsteps with ⟨folds, hfolds, rfl⟩
    refine ⟨folds, hfolds, ?_⟩
    rw [← htext]
    exact Except.ok.inj h
  · rintro ⟨folds, hfolds, rfl⟩
    refine Except.bind_eq_ok.mpr ⟨_, mapM_step_eq_ok_iff.mpr ⟨folds, hfolds, rfl⟩, ?_⟩
    rw [← htext]
    rfl

/-! ### Reading of the folds -/

namespace Script

/-- The characters that an identifier begins with. -/
def beginsName (c : Char) : Bool :=
  c.isAlpha || c = '_' || c = '$' || (127 < c.toNat && Property.idStart.members.contains c)

/-- The characters that an identifier goes on with. -/
def continuesName (c : Char) : Bool :=
  c.isAlphanum || c = '_' || c = '$' || c = '\u200c' || c = '\u200d' ||
    (127 < c.toNat && Property.idContinue.members.contains c)

/-- The names that a script may read behind a dot. -/
def isIdentifier (name : String) : Bool :=
  match name.toList with
  | [] => false
  | c :: rest => beginsName c && rest.all continuesName

theorem blank_notMem_of_isIdentifier {name : String} (h : isIdentifier name = true) :
    ' ' ∉ name.toList := by
  unfold isIdentifier at h
  cases hname : name.toList with
  | nil => exact List.not_mem_nil
  | cons c rest =>
      rw [hname] at h
      rcases Bool.and_eq_true_iff.mp h with ⟨hc, hrest⟩
      intro hmem
      rcases List.mem_cons.mp hmem with rfl | hmem
      · cases hc
      · cases List.all_eq_true.mp hrest ' ' hmem

/-- A name without blanks is read up to the first blank. -/
theorem append_blank_inj {name name' rest rest' : List Char} (h : ' ' ∉ name) (h' : ' ' ∉ name')
    (heq : name ++ ' ' :: rest = name' ++ ' ' :: rest') : name = name' ∧ rest = rest' := by
  induction name generalizing name' with
  | nil =>
      cases name' with
      | nil => exact ⟨rfl, (List.cons.inj heq).2⟩
      | cons c name' => exact absurd ((List.cons.inj heq).1 ▸ List.mem_cons_self) h'
  | cons c name ih =>
      cases name' with
      | nil => exact absurd ((List.cons.inj heq).1 ▸ List.mem_cons_self) h
      | cons c' name' =>
          rcases List.cons.inj heq with ⟨rfl, htail⟩
          rcases ih (fun hm => h (List.mem_cons_of_mem c hm))
            (fun hm => h' (List.mem_cons_of_mem c hm)) htail with ⟨rfl, hrest⟩
          exact ⟨rfl, hrest⟩

end Script

/-- What a statement does to the property of the result. -/
def Fold.operation (f : Fold) : List Char :=
  match f.kind with
  | .sum => "+= values[i].".toList ++ f.property.toList ++ ";".toList
  | .least =>
    "= Math.min(result.".toList ++ f.property.toList ++ ", values[i].".toList ++
      f.property.toList ++ ");".toList
  | .greatest =>
    "= Math.max(result.".toList ++ f.property.toList ++ ", values[i].".toList ++
      f.property.toList ++ ");".toList

theorem Fold.toList_statement (f : Fold) :
    f.statement.toList =
      "result.".toList ++ (f.property.toList ++ ' ' :: f.operation) := by
  obtain ⟨property, kind⟩ := f
  cases kind with
  | sum | least | greatest =>
      simp [Fold.statement, Fold.operation, String.toList_append]

/-- A statement is read up to its end. -/
theorem Fold.statement_append_inj {f g : Fold} {rest rest' : List Char}
    (hf : Script.isIdentifier f.property = true) (hg : Script.isIdentifier g.property = true)
    (h : f.statement.toList ++ rest = g.statement.toList ++ rest') : f = g ∧ rest = rest' := by
  obtain ⟨p, k⟩ := f
  obtain ⟨q, l⟩ := g
  simp only [toList_statement, List.append_assoc, List.cons_append] at h
  rcases Script.append_blank_inj (Script.blank_notMem_of_isIdentifier hf)
    (Script.blank_notMem_of_isIdentifier hg) (List.append_cancel_left h) with ⟨hname, hrest⟩
  cases String.toList_inj.mp hname
  -- The property is known, and the operations differ in their first characters.
  cases k <;> cases l <;> simp_all [operation]

/-- The statements behind a first one, with the blanks before them. -/
def Fold.following (folds : List Fold) : List Char :=
  folds.flatMap fun f => ' ' :: f.statement.toList

theorem Fold.following_cons (f : Fold) (folds : List Fold) :
    following (f :: folds) = ' ' :: (f.statement.toList ++ following folds) :=
  List.flatMap_cons

theorem Fold.toList_intercalate (f : Fold) (folds : List Fold) :
    (String.intercalate " " ((f :: folds).map statement)).toList =
      f.statement.toList ++ following folds := by
  rw [String.toList_intercalate]
  induction folds generalizing f with
  | nil => simp [following]
  | cons g folds ih =>
      have hrest := ih g
      simp only [List.map_cons] at hrest
      simp only [List.map_cons, List.intercalate_cons_cons, hrest, following_cons,
        List.append_assoc]
      rfl

/-- Statements are read one after the other. -/
theorem Fold.following_injective {folds folds' : List Fold}
    (h : ∀ f ∈ folds, Script.isIdentifier f.property = true)
    (h' : ∀ f ∈ folds', Script.isIdentifier f.property = true)
    (heq : following folds = following folds') : folds = folds' := by
  induction folds generalizing folds' with
  | nil =>
      cases folds' with
      | nil => rfl
      | cons g folds' =>
          rw [following_cons] at heq
          cases heq
  | cons f folds ih =>
      cases folds' with
      | nil =>
          rw [following_cons] at heq
          cases heq
      | cons g folds' =>
          rw [following_cons, following_cons] at heq
          -- A statement can be told from what follows it, as a property is an identifier.
          rcases statement_append_inj (h f List.mem_cons_self) (h' g List.mem_cons_self)
            (List.cons.inj heq).2 with ⟨rfl, hrest⟩
          rw [ih (fun x hx => h x (List.mem_cons_of_mem f hx))
            (fun x hx => h' x (List.mem_cons_of_mem f hx)) hrest]

namespace Script

theorem block_injective {body body' : String} (h : block body = block body') : body = body' :=
  (String.append_right_inj _).mp ((String.append_left_inj _).mp h)

/-- A body with folds begins with another word than the one without. -/
theorem reducingBody_cons_ne_nil (f : Fold) (folds : List Fold) :
    reducingBody (f :: folds) ≠ reducingBody [] := by
  intro h
  have hfirst := congrArg (fun s : String => s.toList.head?) h
  simp only [reducingBody, String.toList_append, List.append_assoc] at hfirst
  cases hfirst

/-- A reduce function has one reading. -/
theorem reducing_injective {folds folds' : List Fold}
    (h : ∀ f ∈ folds, isIdentifier f.property = true)
    (h' : ∀ f ∈ folds', isIdentifier f.property = true)
    (heq : reducing folds = reducing folds') : folds = folds' := by
  -- The text around is the same for all folds; with no folds the body is empty.
  have hbody : reducingBody folds = reducingBody folds' :=
    block_injective ((String.append_right_inj _).mp heq)
  cases folds with
  | nil =>
      cases folds' with
      | nil => rfl
      | cons g folds' => exact absurd hbody.symm (reducingBody_cons_ne_nil g folds')
  | cons f folds =>
      cases folds' with
      | nil => exact absurd hbody (reducingBody_cons_ne_nil f folds)
      | cons g folds' =>
          have hstatements : String.intercalate " " ((f :: folds).map Fold.statement) =
              String.intercalate " " ((g :: folds').map Fold.statement) :=
            block_injective
              ((String.append_right_inj _).mp ((String.append_left_inj _).mp hbody))
          have hlists := congrArg String.toList hstatements
          rw [Fold.toList_intercalate, Fold.toList_intercalate] at hlists
          rcases Fold.statement_append_inj (h f List.mem_cons_self) (h' g List.mem_cons_self)
            hlists with ⟨rfl, hfollowing⟩
          rw [Fold.following_injective (fun x hx => h x (List.mem_cons_of_mem f hx))
            (fun x hx => h' x (List.mem_cons_of_mem f hx)) hfollowing]

end Script

/-! ### Objects and folds of one form -/

/-- The properties of an object and the folds of a reduce function are those of the same
    aggregates, one by one and in order, and no property is folded twice. -/
structure SameForm (as : List Aggregate) (members : List (String × String))
    (folds : List Fold) : Prop where
  started : List.Forall₂ Aggregate.StartedBy as members
  folded : List.Forall₂ Aggregate.FoldedBy as folds
  names : members.map Prod.fst = folds.map Fold.property
  once : (folds.map Fold.property).Nodup

variable {as : List Aggregate} {starts : List (String × String)} {folds : List Fold}

theorem map_fst_of_startedBy (h : List.Forall₂ Aggregate.StartedBy as starts) :
    starts.map Prod.fst = as.map Aggregate.name :=
  (map_eq_map_of_forall₂ h fun _ _ hstart => hstart.1.symm).symm

theorem map_property_of_foldedBy (h : List.Forall₂ Aggregate.FoldedBy as folds) :
    folds.map Fold.property = as.map Aggregate.name :=
  (map_eq_map_of_forall₂ h fun _ _ hfold => hfold.1.symm).symm

/-- An object has a name once, so it has the form of the folds exactly if no two aggregates
    have one name. -/
theorem sameForm_iff (hstarts : List.Forall₂ Aggregate.StartedBy as starts)
    (hfolds : List.Forall₂ Aggregate.FoldedBy as folds) :
    SameForm as (Fields.ofList starts) folds ↔ (as.map Aggregate.name).Nodup := by
  constructor
  · intro h
    rw [← map_property_of_foldedBy hfolds]
    exact h.once
  · intro h
    have hnames := map_fst_of_startedBy hstarts
    have hproperties := map_property_of_foldedBy hfolds
    -- Without a repeated name nothing is replaced.
    have hmembers : Fields.ofList starts = starts :=
      Fields.ofList_of_nodup (hnames.symm ▸ h)
    exact ⟨hmembers.symm ▸ hstarts, hfolds, by rw [hmembers, hnames, hproperties],
      hproperties.symm ▸ h⟩

/-- The names that are emitted are those that are folded, exactly if no two aggregates have
    one name. -/
theorem map_fst_eq_iff (hstarts : List.Forall₂ Aggregate.StartedBy as starts)
    (hfolds : List.Forall₂ Aggregate.FoldedBy as folds) :
    (Fields.ofList starts).map Prod.fst = folds.map Fold.property ↔
      (as.map Aggregate.name).Nodup := by
  constructor
  · intro h
    rw [← map_property_of_foldedBy hfolds, ← h]
    exact Fields.nodup_ofList starts
  · intro h
    exact ((sameForm_iff hstarts hfolds).mpr h).names

/-- The two scripts of a grouping have one form exactly if no two aggregates have one name. -/
theorem groupScripts_sameForm_iff {fields : List (String × Expr)} {keys : List Expr}
    {m r : String} (hmap : mapFunction fields keys = .ok m)
    (hreduce : reduceFunction fields = .ok r) :
    ∃ starts folds,
      List.Forall₂ Aggregate.StartedBy (aggregates fields) starts ∧
      List.Forall₂ Aggregate.FoldedBy (aggregates fields) folds ∧
      m = Script.mapping (Script.key (keyMembers keys)) (Script.value (Fields.ofList starts)) ∧
      r = Script.reducing folds ∧
      ((Fields.ofList starts).map Prod.fst = folds.map Fold.property ↔
        ((aggregates fields).map Aggregate.name).Nodup) ∧
      (SameForm (aggregates fields) (Fields.ofList starts) folds ↔
        ((aggregates fields).map Aggregate.name).Nodup) ∧
      ((∀ a ∈ aggregates fields, Script.isIdentifier a.name = true) →
        ∀ read : List Fold, (∀ f ∈ read, Script.isIdentifier f.property = true) →
          Script.reducing read = r → read = folds) := by
  rcases mapFunction_eq_ok_iff.mp hmap with ⟨starts, hstarts, rfl⟩
  rcases reduceFunction_eq_ok_iff.mp hreduce with ⟨folds, hfolds, rfl⟩
  refine ⟨starts, folds, hstarts, hfolds, rfl, rfl, map_fst_eq_iff hstarts hfolds,
    sameForm_iff hstarts hfolds, ?_⟩
  intro hidentifiers read hread heq
  refine Script.reducing_injective hread ?_ heq
  intro f hf
  -- The property of a fold is the name of an aggregate.
  have hname : f.property ∈ (aggregates fields).map Aggregate.name :=
    map_property_of_foldedBy hfolds ▸ List.mem_map_of_mem hf
  rcases List.mem_map.mp hname with ⟨a, ha, hname⟩
  exact hname ▸ hidentifiers a ha

namespace Groupings

/-- The lowest age and the number of the documents. -/
def census : List (String × Expr) :=
  [("Low", .aggregate .min (some (.field ⟨"t0", "Age"⟩)) false),
    ("Count", .aggregate .count none false)]

def byCity : List Expr :=
  [.field ⟨"t0", "City"⟩]

theorem census_sameForm :
    ∃ m r, mapFunction census byCity = .ok m ∧ reduceFunction census = .ok r ∧
      ∃ members folds,
        m = Script.mapping (Script.key (keyMembers byCity)) (Script.value members) ∧
        r = Script.reducing folds ∧ SameForm (aggregates census) members folds ∧
        ∀ read : List Fold, (∀ f ∈ read, Script.isIdentifier f.property = true) →
          Script.reducing read = r → read = folds := by
  have hmap : mapFunction census byCity =
      .ok "function() \x7b emit(this.City, \x7b\"Low\": this.Age, \"Count\": 1\x7d); \x7d" := by
    rfl
  have hreduce : reduceFunction census =
      .ok (Script.reducing [⟨"Low", .least⟩, ⟨"Count", .sum⟩]) :=
    reduceFunction_eq_ok_iff.mpr ⟨_, .cons ⟨rfl, rfl⟩ (.cons ⟨rfl, rfl⟩ .nil), rfl⟩
  have hnames : ((aggregates census).map Aggregate.name).Nodup := by decide
  rcases groupScripts_sameForm_iff hmap hreduce with
    ⟨starts, folds, _, _, hm, hr, _, hform, hread⟩
  exact ⟨_, _, hmap, hreduce, _, _, hm, hr, hform.mpr hnames, hread (by decide)⟩

/-- A number and a sum under one name. -/
def twice : List (String × Expr) :=
  [("N", .aggregate .count none false),
    ("N", .aggregate .sum (some (.field ⟨"t0", "Age"⟩)) false)]

/-- One property is emitted, started by the sum, and it is folded two times. -/
theorem twice_folded_twice :
    mapFunction twice byCity =
        .ok "function() \x7b emit(this.City, \x7b\"N\": this.Age\x7d); \x7d" ∧
      ∃ r, reduceFunction twice = .ok r ∧
        ∀ read : List Fold, (∀ f ∈ read, Script.isIdentifier f.property = true) →
          Script.reducing read = r → read = [⟨"N", .sum⟩, ⟨"N", .sum⟩] := by
  refine ⟨by rfl, Script.reducing [⟨"N", .sum⟩, ⟨"N", .sum⟩], ?_, ?_⟩
  · exact reduceFunction_eq_ok_iff.mpr ⟨_, .cons ⟨rfl, rfl⟩ (.cons ⟨rfl, rfl⟩ .nil), rfl⟩
  · intro read hread heq
    exact Script.reducing_injective hread (by decide) heq

end Groupings

end DocumentMapper
