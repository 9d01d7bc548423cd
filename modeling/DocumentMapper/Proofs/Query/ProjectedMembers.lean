import DocumentMapper.Proofs.Query.Chain
import DocumentMapper.Proofs.Query.Clauses
import DocumentMapper.Proofs.Query.StoredPath
import Mathlib.Data.List.TakeWhile

/-!
# Members of projected objects

A member of an object that is made on the spot is what the object has for it, and members
of that go on from there. If the object has a chain of members on the row, one would expect
what the whole chain on the row is bound to. It is not the same in general, since binding
takes a chain on the row in one go and the members of a projected object one by one: the
row itself is no field, so that its members are left as they are; the names of further
members are added to the path of a field as they are, whatever they are stored by; and
what comes after a length is no field, but would be one in the middle of a chain.

## Main definitions

* `ContinuesPath`: Members of a chain that lead where the longer chain leads.

## Theorems

* `foldl_member_inj`: The members of an expression and what they are members of.
* `bind_lengths`, `field_of_bind`: What a chain on the row is bound to.
* `foldlM_bindMember_field`, `foldlM_bindMember_plain`: Members of what is bound.
* `bindMembers_of_chain`: Members of what a chain is bound to, and the longer chain.
* `exists_entry`, `bind_members_object`: Members of an object are those of its entries.
* `bind_member_of_object`: Members of an object and chains on the row.
-/

namespace DocumentMapper

namespace Expr

/-- Chains of members on what are no members are the same only if they have the same names
    and start from the same. -/
theorem foldl_member_inj {r r' : Expr} (hr : r.isMember = false) (hr' : r'.isMember = false)
    {names : List String} : ∀ {names' : List String},
    names.foldl member r = names'.foldl member r' → names = names' ∧ r = r' := by
  induction names using List.reverseRecOn with
  | nil =>
      intro names' h
      rcases List.eq_nil_or_concat names' with rfl | ⟨parents, last, rfl⟩
      · exact ⟨rfl, h⟩
      · rw [List.concat_eq_append, List.foldl_append] at h
        rw [List.foldl_nil] at h
        rw [h] at hr
        cases hr
  | append_singleton names name ih =>
      intro names' h
      rcases List.eq_nil_or_concat names' with rfl | ⟨parents, last, rfl⟩
      · rw [List.foldl_append, List.foldl_nil] at h
        rw [← h] at hr'
        cases hr'
      · rw [List.concat_eq_append, List.foldl_append, List.foldl_append] at h
        rcases Expr.member.inj h with ⟨hparents, rfl⟩
        rcases ih hparents with ⟨rfl, hroot⟩
        exact ⟨List.concat_eq_append.symm, hroot⟩

end Expr

/-! ### Chains on the row -/

section

variable {store : Option Store} {rows : Option Rows}

/-- Binding of a chain is decided by its names. -/
theorem bind_chain {names : List String} (hne : names ≠ []) (p : String) :
    (names.foldl Expr.member (.parameter p)).bind store rows =
      bindChain store rows names.reverse := by
  rcases List.eq_nil_or_concat names with rfl | ⟨parents, last, rfl⟩
  · exact absurd rfl hne
  · rw [List.concat_eq_append, List.foldl_append, List.reverse_append]
    unfold Expr.bind
    simp only [List.foldl_cons, List.foldl_nil, FieldChain.parameterChain?_members]
    rfl

/-- A chain is bound to the field it leads to, and to the lengths asked of that. -/
theorem bind_lengths {names lengths : List String} (hfield : EndsAtField names)
    (hlengths : ∀ m ∈ lengths, isLengthMember m = true) (p : String) :
    ((names ++ lengths).foldl Expr.member (.parameter p)).bind store rows =
      (fun e => lengths.foldl Expr.member e) <$> bindPath store rows names := by
  induction lengths using List.reverseRecOn with
  | nil =>
      rw [List.append_nil, FieldChain.bind_of_endsAtField store rows p hfield]
      exact (id_map _).symm
  | append_singleton lengths m ih =>
      rw [List.forall_mem_append, List.forall_mem_singleton] at hlengths
      have hne : names ++ lengths ≠ [] := mt List.append_eq_nil_iff.mp fun h => hfield.ne_nil h.1
      have hinner := ih hlengths.1
      rw [bind_chain hne] at hinner
      rw [← List.append_assoc, bind_chain (List.concat_ne_nil _ _), List.reverse_append]
      rcases List.exists_cons_of_ne_nil (mt List.reverse_eq_nil_iff.mp hne) with
        ⟨next, rest, hreverse⟩
      -- A length at the end is split off, and what is before it is bound as it is without.
      rw [hreverse] at hinner ⊢
      rw [List.reverse_singleton, List.singleton_append, bindChain, if_pos hlengths.2, hinner]
      simp only [List.foldl_append, List.foldl_cons, List.foldl_nil]
      cases bindPath store rows names <;> rfl

/-- The same for the rows of a level. -/
theorem bind_lengths_eq_ok {rows : Rows} {names lengths : List String}
    (hfield : EndsAtField names) (hlengths : ∀ m ∈ lengths, isLengthMember m = true) {p : String}
    {r : Expr} :
    ((names ++ lengths).foldl Expr.member (.parameter p)).bind store (some rows) = .ok r ↔
      ∃ path, storedNames? store rows.documentClass names = .ok path ∧
        lengths.foldl Expr.member (.field ⟨rows.label, String.intercalate "." path⟩) = r := by
  rw [bind_lengths hfield hlengths, Except.map_eq_ok]
  constructor
  · rintro ⟨f, hf, rfl⟩
    rcases bindPath_eq_ok.mp hf with ⟨path, hpath, rfl⟩
    exact ⟨path, hpath, rfl⟩
  · rintro ⟨path, hpath, rfl⟩
    exact ⟨_, bindPath_eq_ok.mpr ⟨path, hpath, rfl⟩, rfl⟩

/-- What a chain is bound to has the lengths at its end as members, and is a field otherwise. -/
theorem field_of_bind {rows : Rows} {names members : List String} (hne : names ≠ []) {p : String}
    {root : Expr} (hroot : root.isMember = false)
    (h : (names.foldl Expr.member (.parameter p)).bind store (some rows) =
      .ok (members.foldl Expr.member root)) :
    ∃ core path, names = core ++ members ∧ (∀ m ∈ members, isLengthMember m = true) ∧
      storedNames? store rows.documentClass core = .ok path ∧
      root = .field ⟨rows.label, String.intercalate "." path⟩ := by
  rcases exists_endsAtField hne with ⟨core, lengths, rfl, hcore, hlengths⟩
  rcases (bind_lengths_eq_ok hcore hlengths).mp h with ⟨path, hpath, hsame⟩
  rcases Expr.foldl_member_inj rfl hroot hsame with ⟨rfl, hfield⟩
  exact ⟨core, path, rfl, hlengths, hpath, hfield.symm⟩

theorem storedPath_ne_nil {s : Store} {documentClass : Option String} {name : String}
    {names path : List String} (h : storedPath s documentClass (name :: names) = .ok path) :
    path ≠ [] := by
  have hfirst : ∀ {inner : Option String} {stored : String},
      (do return stored :: (← storedPath s inner names) : Except MappingError _) = .ok path →
        path ≠ [] := by
    intro inner stored h
    rcases Except.bind_eq_ok.mp h with ⟨rest, _, h⟩
    exact Except.ok.inj h ▸ List.cons_ne_nil _ _
  cases documentClass with
  | none =>
      rw [storedPath] at h
      exact hfirst h
  | some className =>
      rw [storedPath] at h
      rcases Except.bind_eq_ok.mp h with ⟨c, _, h⟩
      cases hmember : c.memberNamed? name with
      | none =>
          rw [hmember] at h
          exact hfirst h
      | some m =>
          rw [hmember] at h
          exact hfirst h

/-- A chain of members has stored names. -/
theorem storedNames_ne_nil {documentClass : Option String} {names path : List String}
    (h : storedNames? store documentClass names = .ok path) (hne : names ≠ []) : path ≠ [] := by
  rcases List.exists_cons_of_ne_nil hne with ⟨name, rest, rfl⟩
  cases store with
  | none => exact Except.ok.inj h ▸ hne
  | some s =>
      cases hpath : storedPath s documentClass (name :: rest) with
      | error e =>
          rw [storedNames?, hpath] at h
          cases h
      | ok stored =>
          rw [storedNames?, hpath] at h
          exact Except.ok.inj h ▸ storedPath_ne_nil hpath

end

/-! ### Members of what is bound -/

section

variable {store : Option Store} {rows : Option Rows}

/-- Members of what is no chain on the row are bound one by one. -/
theorem bind_members_form {names : List String} :
    ∀ {e : Expr}, e.parameterChain? = none → (∀ p, e ≠ .parameter p) →
      (names.foldl Expr.member e).bind store rows =
        e.bind store rows >>= fun e => names.foldlM Expr.bindMember e := by
  induction names with
  | nil =>
      intro e _ _
      cases he : e.bind store rows <;> exact he
  | cons name names ih =>
      intro e hchain hrow
      have hmember : (Expr.member e name).parameterChain? = none := by
        rw [Expr.parameterChain?, hchain]
        · rfl
        · exact hrow
      have hbind : (Expr.member e name).bind store rows =
          e.bind store rows >>= fun e => e.bindMember name := Expr.bind_form hmember
      rw [List.foldl_cons, ih hmember (fun p h => by cases h), hbind]
      cases e.bind store rows <;> rfl

/-- Members of what is neither an object nor a field stay. -/
theorem foldlM_bindMember_plain {names : List String} :
    ∀ {e : Expr}, (∀ members, e ≠ .object members) → (∀ f, e ≠ .field f) →
      names.foldlM Expr.bindMember e = .ok (names.foldl Expr.member e) := by
  induction names with
  | nil => exact fun _ _ => rfl
  | cons name names ih =>
      intro e hobject hfield
      have hmember : e.bindMember name = .ok (.member e name) := by
        cases e with
        | object members => exact absurd rfl (hobject members)
        | field f => exact absurd rfl (hfield f)
        | _ => rfl
      rw [List.foldlM_cons, hmember, Except.ok_bind, List.foldl_cons]
      exact ih (fun _ h => by cases h) fun _ h => by cases h

/-- A path that goes on along some names. -/
def extendedPath (path : String) (names : List String) : String :=
  names.foldl (fun path name => path ++ "." ++ name) path

/-- Names after those of a path extend the path. -/
theorem extendedPath_intercalate {path : List String} (hne : path ≠ []) (names : List String) :
    extendedPath (String.intercalate "." path) names =
      String.intercalate "." (path ++ names) := by
  have hpath : ∀ (names : List String) (first : String),
      String.intercalate "." (first :: names) = extendedPath first names := by
    intro names
    induction names with
    | nil => exact fun _ => String.intercalate_singleton
    | cons name names ih =>
        intro first
        rw [String.intercalate_cons_cons, ← String.intercalate_cons_append, ih]
        rfl
  rcases List.exists_cons_of_ne_nil hne with ⟨first, rest, rfl⟩
  rw [List.cons_append, hpath, hpath, extendedPath, extendedPath, extendedPath, List.foldl_append]

/-- Members of a field extend its path, up to the first length. -/
theorem foldlM_bindMember_field {own rest : List String}
    (hown : ∀ m ∈ own, isLengthMember m = false)
    (hrest : ∀ m ∈ rest.head?, isLengthMember m = true) :
    ∀ f : FieldRef, (own ++ rest).foldlM Expr.bindMember (.field f) =
      .ok (rest.foldl Expr.member (.field { f with path := extendedPath f.path own })) := by
  induction own with
  | nil =>
      intro f
      cases rest with
      | nil => rfl
      | cons m rest =>
          -- A length ends the path; whatever comes after it is a member of what is no field any
          -- more.
          have hlength : (Expr.field f).bindMember m = .ok (.member (.field f) m) := by
            rw [Expr.bindMember, if_pos (hrest m rfl)]
          rw [List.nil_append, List.foldlM_cons, hlength, Except.ok_bind]
          exact foldlM_bindMember_plain (fun _ h => by cases h) fun _ h => by cases h
  | cons name own ih =>
      intro f
      rw [List.forall_mem_cons] at hown
      have hfield : (Expr.field f).bindMember name =
          .ok (.field { f with path := f.path ++ "." ++ name }) := by
        rw [Expr.bindMember, hown.1]
        rfl
      rw [List.cons_append, List.foldlM_cons, hfield, Except.ok_bind]
      exact ih hown.2 _

/-- Members up to the first length, and the rest. -/
theorem exists_own (names : List String) :
    ∃ own rest, names = own ++ rest ∧ (∀ m ∈ own, isLengthMember m = false) ∧
      ∀ m ∈ rest.head?, isLengthMember m = true := by
  let test : String → Bool := fun m => !isLengthMember m
  refine ⟨names.takeWhile test, names.dropWhile test, List.takeWhile_append_dropWhile.symm,
    fun m hm => ?_, fun m hm => ?_⟩
  · have hown : test m = true := List.mem_takeWhile_imp hm
    exact Bool.not_eq_true' _ ▸ hown
  · have hfirst := List.head?_dropWhile_not test names
    rw [Option.mem_def.mp hm] at hfirst
    exact Bool.not_eq_false' _ ▸ hfirst

end

/-! ### Members of objects -/

/-- The members that come after a chain lead, one by one, where they lead as a part of the
    longer chain: those that are no lengths come first and are stored by their own names,
    and only lengths come after them. -/
def ContinuesPath (store : Option Store) (documentClass : Option String)
    (names more : List String) : Prop :=
  ∃ own lengths, more = own ++ lengths ∧ (∀ m ∈ own, isLengthMember m = false) ∧
    (∀ m ∈ lengths, isLengthMember m = true) ∧
    (own ≠ [] → EndsAtField names ∧
      ∃ path path', storedNames? store documentClass names = .ok path ∧
        storedNames? store documentClass (names ++ own) = .ok path' ∧
        String.intercalate "." path' = String.intercalate "." (path ++ own))

section

variable {store : Option Store} {rows : Rows} {names more : List String} {p : String} {v : Expr}

/-- Members after a length. -/
theorem bindMembers_of_length {lengths : List String} (hfield : EndsAtField names)
    (hlengths : ∀ m ∈ lengths, isLengthMember m = true) (hnil : lengths ≠ [])
    (hv : ((names ++ lengths).foldl Expr.member (.parameter p)).bind store (some rows) = .ok v) :
    ∃ r, more.foldlM Expr.bindMember v = .ok r ∧
      ((((names ++ lengths) ++ more).foldl Expr.member (.parameter p)).bind store (some rows) =
        .ok r ↔ ContinuesPath store rows.documentClass (names ++ lengths) more) := by
  rcases (bind_lengths_eq_ok hfield hlengths).mp hv with ⟨path, hpath, rfl⟩
  have hplain : more.foldlM Expr.bindMember (lengths.foldl Expr.member
      (.field ⟨rows.label, String.intercalate "." path⟩)) = .ok ((lengths ++ more).foldl
        Expr.member (.field ⟨rows.label, String.intercalate "." path⟩)) := by
    rw [List.foldl_append]
    rcases List.eq_nil_or_concat lengths with rfl | ⟨others, m, rfl⟩
    · exact absurd rfl hnil
    · rw [List.concat_eq_append, List.foldl_append]
      exact foldlM_bindMember_plain (fun _ h => by cases h) fun _ h => by cases h
  refine ⟨_, hplain, ⟨fun h => ?_, ?_⟩⟩
  · have hne : names ++ lengths ++ more ≠ [] := by
      rw [List.append_assoc]
      exact mt List.append_eq_nil_iff.mp fun h => hfield.ne_nil h.1
    rcases field_of_bind hne rfl h with ⟨_, _, _, hends, _⟩
    rw [List.forall_mem_append] at hends
    exact ⟨[], more, rfl, List.forall_mem_nil _, hends.2, fun h => absurd rfl h⟩
  · rintro ⟨own, ends, rfl, _, hends, hown⟩
    -- A chain with a length at its end is no field, whose path could be continued.
    have hown : own = [] := by
      by_contra hne
      exact not_endsAtField hfield.ne_nil hlengths hnil (hown hne).1
    rw [hown, List.nil_append, List.append_assoc]
    exact (bind_lengths_eq_ok hfield (List.forall_mem_append.mpr ⟨hlengths, hends⟩)).mpr
      ⟨path, hpath, rfl⟩

/-- Members of a field. -/
theorem bindMembers_of_field (hfield : EndsAtField names)
    (hv : (names.foldl Expr.member (.parameter p)).bind store (some rows) = .ok v) :
    ∃ r, more.foldlM Expr.bindMember v = .ok r ∧
      (((names ++ more).foldl Expr.member (.parameter p)).bind store (some rows) = .ok r ↔
        ContinuesPath store rows.documentClass names more) := by
  rw [← List.append_nil names] at hv
  rcases (bind_lengths_eq_ok hfield (List.forall_mem_nil _)).mp hv with ⟨path, hpath, rfl⟩
  have hpathNe := storedNames_ne_nil hpath hfield.ne_nil
  rcases exists_own more with ⟨own, rest, rfl, hown, hrest⟩
  have hmembers := foldlM_bindMember_field hown hrest ⟨rows.label, String.intercalate "." path⟩
  rw [extendedPath_intercalate hpathNe] at hmembers
  refine ⟨_, hmembers, ⟨fun h => ?_, ?_⟩⟩
  · have hne : names ++ (own ++ rest) ≠ [] :=
      mt List.append_eq_nil_iff.mp fun h => hfield.ne_nil h.1
    rcases field_of_bind hne rfl h with ⟨core, path', heq, hends, hpath', hsame⟩
    rw [← List.append_assoc] at heq
    rw [← List.append_cancel_right heq] at hpath'
    exact ⟨own, rest, rfl, hown, hends, fun _ => ⟨hfield, path, path', hpath, hpath',
      (FieldRef.mk.inj (Expr.field.inj hsame)).2.symm⟩⟩
  · rintro ⟨own', ends, heq, hown', hends, hcontinues⟩
    -- The members are split in another way here, but bound to the same.
    have hends' : ∀ m ∈ ends.head?, isLengthMember m = true :=
      fun m hm => hends m (List.mem_of_mem_head? hm)
    have hmembers' := foldlM_bindMember_field hown' hends'
      ⟨rows.label, String.intercalate "." path⟩
    rw [extendedPath_intercalate hpathNe, ← heq, hmembers] at hmembers'
    rw [Except.ok.inj hmembers', heq, ← List.append_assoc]
    refine (bind_lengths_eq_ok (hfield.append hown') hends).mpr ?_
    by_cases hnil : own' = []
    · subst hnil
      exact ⟨path, by rwa [List.append_nil], by rw [List.append_nil]⟩
    · rcases (hcontinues hnil).2 with ⟨path₁, path', hpath₁, hpath', hsame⟩
      cases hpath.symm.trans hpath₁
      exact ⟨path', hpath', by rw [hsame]⟩

/-- Members of what a chain is bound to. -/
theorem bindMembers_of_chain (hne : names ≠ [])
    (hv : (names.foldl Expr.member (.parameter p)).bind store (some rows) = .ok v) :
    ∃ r, more.foldlM Expr.bindMember v = .ok r ∧
      (((names ++ more).foldl Expr.member (.parameter p)).bind store (some rows) = .ok r ↔
        ContinuesPath store rows.documentClass names more) := by
  rcases exists_endsAtField hne with ⟨core, lengths, rfl, hcore, hlengths⟩
  by_cases hnil : lengths = []
  · subst hnil
    rw [List.append_nil] at hv ⊢
    exact bindMembers_of_field hcore hv
  · exact bindMembers_of_length hcore hlengths hnil hv

/-- Members of an object are those of what it is bound to. -/
theorem bind_members_object (members : List (String × Expr)) (name : String) :
    (more.foldl Expr.member (.member (.object members) name)).bind store (some rows) =
      (Expr.object members).bind store (some rows) >>= fun o =>
        (name :: more).foldlM Expr.bindMember o :=
  @bind_members_form store (some rows) (name :: more) (.object members) rfl
    fun _ h => by cases h

/-- What an object is bound to has what its entries are bound to. -/
theorem exists_entry {members : List (String × Expr)} {o entry : Expr} {name : String}
    (hdistinct : (members.map Prod.fst).Nodup) (hentry : (name, entry) ∈ members)
    (hbound : (Expr.object members).bind store (some rows) = .ok o) :
    ∃ v, entry.bind store (some rows) = .ok v ∧ o.bindMember name = .ok v := by
  cases Expr.BindsTo.rebuilt hbound rfl rfl with
  | @object _ members' contents =>
      rcases exists_right_of_forall₂ contents hentry with ⟨⟨name', v⟩, hmem, hname, hv⟩
      cases hname
      have hdistinct' : (members'.map Prod.fst).Nodup :=
        map_fst_eq_of_namedRelated contents ▸ hdistinct
      refine ⟨v, hv, ?_⟩
      rw [Expr.bindMember, Fields.lookup_of_mem hdistinct' hmem]

/-- Members of an object that has a chain of members on the row are bound to the same as
    the longer chain exactly if the object has no row itself, and the path of the chain is
    continued by the names of the members. If an object has the row itself, its members stay
    as they are. An object of which an entry cannot be bound has no members. -/
theorem bind_member_of_object {members : List (String × Expr)} {name p : String}
    {as bs : List String} (hdistinct : (members.map Prod.fst).Nodup)
    (hentry : (name, as.foldl Expr.member (.parameter p)) ∈ members) (hbs : bs ≠ []) :
    let object := (Expr.object members).bind store (some rows)
    let shaped := (bs.foldl Expr.member (.member (.object members) name)).bind store (some rows)
    let direct := ((as ++ bs).foldl Expr.member (.parameter p)).bind store (some rows)
    (∀ e, object = .error e → shaped = .error e) ∧
      ∀ o, object = .ok o →
        (∃ r, shaped = .ok r) ∧
          (as = [] → shaped = .ok (bs.foldl Expr.member (.parameter p))) ∧
          (shaped = direct ↔ as ≠ [] ∧ ContinuesPath store rows.documentClass as bs) := by
  intro object shaped direct
  have hform : shaped = object >>= fun o => (name :: bs).foldlM Expr.bindMember o :=
    bind_members_object members name
  refine ⟨fun e he => by rw [hform, he]; rfl, fun o ho => ?_⟩
  rcases exists_entry hdistinct hentry ho with ⟨v, hv, hmember⟩
  have hshaped : shaped = bs.foldlM Expr.bindMember v := by
    rw [hform, ho, Except.ok_bind, List.foldlM_cons, hmember, Except.ok_bind]
  by_cases has : as = []
  · subst has
    have hrow : v = .parameter p := Expr.BindsTo.eq_of_isLeaf hv rfl
    have hstays : shaped = .ok (bs.foldl Expr.member (.parameter p)) := by
      rw [hshaped, hrow]
      exact foldlM_bindMember_plain (fun _ h => by cases h) fun _ h => by cases h
    refine ⟨⟨_, hstays⟩, fun _ => hstays, fun h => ?_, fun h => absurd rfl h.1⟩
    -- The chain on the row is a field, or lengths of one.
    rw [hstays] at h
    rcases field_of_bind hbs rfl h.symm with ⟨_, _, _, _, _, hroot⟩
    cases hroot
  · rcases bindMembers_of_chain has hv with ⟨r, hr, hsame⟩
    rw [hshaped, hr]
    exact ⟨⟨r, rfl⟩, fun h => absurd h has, fun h => ⟨has, hsame.mp h.symm⟩,
      fun h => (hsame.mpr h.2).symm⟩

end

/-! ### Projected accounts -/

namespace Projecting

/-- A store of accounts, whose `Id` is stored as `_id` and whose `Owner`, an account, as
    `o`. -/
def accounts : Option Store :=
  some (Accounts.storeWith Accounts.savings)

/-- The rows of a level that reads accounts. -/
def accountRows : Rows :=
  ⟨"t0", some "Account"⟩

/-- What is made of an account. -/
def parts : List (String × Expr) :=
  [("Key", .member (.parameter "p") "Id"), ("Holder", .member (.parameter "p") "Owner"),
    ("Size", .member (.member (.parameter "p") "Tags") "Length"), ("Row", .parameter "p")]

/-- A member of what is made of an account, and the members after it. -/
def partMember (name : String) (names : List String) : Except QueryError Expr :=
  (names.foldl Expr.member (.member (.object parts) name)).bind accounts (some accountRows)

/-- A chain on an account. -/
def chain (names : List String) : Except QueryError Expr :=
  (names.foldl Expr.member (.parameter "p")).bind accounts (some accountRows)

/-- The length of a text within the identity. -/
theorem key_continues :
    partMember "Key" ["Text", "Length"] = chain ["Id", "Text", "Length"] ∧
      partMember "Key" ["Text", "Length"] =
        .ok (.member (.field ⟨"t0", "_id.Text"⟩) "Length") := by
  have hcontinues : ContinuesPath accounts (some "Account") ["Id"] ["Text", "Length"] :=
    ⟨["Text"], ["Length"], rfl, by decide, by decide, fun _ =>
      ⟨endsAtField_single "Id", ["_id"], ["_id", "Text"], by rfl, by rfl, rfl⟩⟩
  have hdistinct : (parts.map Prod.fst).Nodup := by decide
  have hentry : ("Key", ["Id"].foldl Expr.member (.parameter "p")) ∈ parts := List.mem_cons_self
  have hbound : ∃ o, (Expr.object parts).bind accounts (some accountRows) = .ok o :=
    ⟨_, by rfl⟩
  rcases hbound with ⟨o, ho⟩
  have hall := (bind_member_of_object hdistinct hentry (List.cons_ne_nil "Text" ["Length"])).2 o ho
  exact ⟨hall.2.2.mpr ⟨List.cons_ne_nil _ _, hcontinues⟩, by rfl⟩

/-- The row itself stays where it is a part of an object, the identity of the owner is not
    looked up by its stored name, and what comes after a length is no field. -/
theorem parts_differ :
    (partMember "Row" ["Id"] = .ok (.member (.parameter "p") "Id") ∧
        chain ["Id"] = .ok (.field ⟨"t0", "_id"⟩) ∧ partMember "Row" ["Id"] ≠ chain ["Id"]) ∧
      (partMember "Holder" ["Id"] = .ok (.field ⟨"t0", "o.Id"⟩) ∧
        chain ["Owner", "Id"] = .ok (.field ⟨"t0", "o._id"⟩) ∧
        partMember "Holder" ["Id"] ≠ chain ["Owner", "Id"]) ∧
      partMember "Size" ["Text"] =
          .ok (.member (.member (.field ⟨"t0", "Tags"⟩) "Length") "Text") ∧
        chain ["Tags", "Length", "Text"] = .ok (.field ⟨"t0", "Tags.Length.Text"⟩) ∧
        partMember "Size" ["Text"] ≠ chain ["Tags", "Length", "Text"] := by
  have hrow : partMember "Row" ["Id"] = .ok (.member (.parameter "p") "Id") := by rfl
  have hid : chain ["Id"] = .ok (.field ⟨"t0", "_id"⟩) := by rfl
  have hholder : partMember "Holder" ["Id"] = .ok (.field ⟨"t0", "o.Id"⟩) := by rfl
  have howner : chain ["Owner", "Id"] = .ok (.field ⟨"t0", "o._id"⟩) := by rfl
  have hsize : partMember "Size" ["Text"] =
      .ok (.member (.member (.field ⟨"t0", "Tags"⟩) "Length") "Text") := by rfl
  have htags : chain ["Tags", "Length", "Text"] = .ok (.field ⟨"t0", "Tags.Length.Text"⟩) := by rfl
  refine ⟨⟨hrow, hid, ?_⟩, ⟨hholder, howner, ?_⟩, hsize, htags, ?_⟩
  · rw [hrow, hid]
    intro h
    cases h
  · rw [hholder, howner]
    intro h
    exact absurd (FieldRef.mk.inj (Expr.field.inj (Except.ok.inj h))).2 (by decide)
  · rw [hsize, htags]
    intro h
    cases h

end Projecting

end DocumentMapper
