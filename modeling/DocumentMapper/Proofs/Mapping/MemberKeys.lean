import DocumentMapper.Proofs.Mapping.EntityDocument

/-!
# Objects under the names of members

A document that is declared as a class has the names of members as its keys, and so has a
sample. A key goes over to the name that the member is stored under, and a key that is no
member's name stays as it is. From there the value is fetched by the stored name: the
member that is stored under it is looked up, and the value is asked for under the name of
that member. This leads back to the key, unless the key is no member's name and a member
happens to be stored under it. Such a key is captured (`ClassMap.capturing?`), as `_id` is
by every identity of another name. In its place stands what the object has under the name
of the capturing member. If there is nothing, a document is stored with null for the value
that it has, and a sample is refused.

Documents and samples differ in what stands for the absent and in nothing else, so this is
a parameter of one argument about the lowerings of their fields (`lower_keyed_eq_ok_iff`).

## Main definitions

* `ClassMap.capturing?`: The member that a key is taken for.
* `ClassMap.declaredType`: What a value under a key is declared as.
* `Account.store`: A class whose identity is stored under `_id`.

## Theorems

* `partSource_storedNameOf`, `partSource_captured`: What a key leads to.
* `lower_keyed_eq_ok_iff`: When an object with keys keeps all its contents.
* `document_kept_iff`, `sample_kept_iff`: The same for documents and for samples.
* `values_kept_iff`: When nothing that is stored under a key is lost.
-/

namespace DocumentMapper

namespace ClassMap

/-- The member that is stored under a key that is no member's name. -/
def capturing? (c : ClassMap) (key : String) : Option Member :=
  if (c.memberNamed? key).isSome then none else c.memberStoredAs? key

/-- The type that a member of a name is declared with. For other names there is no
    expectation. -/
def declaredType (c : ClassMap) (key : String) : MemberType :=
  ((c.memberNamed? key).map Member.type).getD .any

variable {c : ClassMap}

/-- A key that is not captured is asked for under the name that it goes over to. -/
theorem partSource_storedNameOf (hstored : (c.allMembers.map Member.storedName).Nodup)
    {key : String} (hfree : c.capturing? key = none) :
    partSource (some c) (c.storedNameOf key) = (key, c.declaredType key) := by
  unfold partSource storedNameOf declaredType
  unfold capturing? at hfree
  rw [Option.bind_some]
  -- A key names a member, or it is no stored name of one either, since nothing captures it.
  cases hnamed : c.memberNamed? key with
  | some m =>
      rcases mem_of_find?_key hnamed with ⟨hm, hname⟩
      rw [Option.map_some, Option.getD_some, memberStoredAs?_of_mem hstored hm]
      exact congrArg (·, m.type) hname
  | none =>
      rw [hnamed] at hfree
      rw [Option.map_none, Option.getD_none, show c.memberStoredAs? key = none from hfree]
      rfl

/-- A captured key is no member's name, and its member is stored under it. -/
theorem eq_none_of_capturing? {key : String} {m : Member} (h : c.capturing? key = some m) :
    c.memberNamed? key = none ∧ c.memberStoredAs? key = some m := by
  unfold capturing? at h
  cases hnamed : c.memberNamed? key with
  | some m' =>
      rw [hnamed] at h
      cases h
  | none =>
      rw [hnamed] at h
      exact ⟨rfl, h⟩

/-- In the place of a captured key, that of the member that captures it is asked for. -/
theorem partSource_captured {key : String} {m : Member} (hcaptured : c.capturing? key = some m) :
    partSource (some c) (c.storedNameOf key) = (m.name, m.type) := by
  rcases eq_none_of_capturing? hcaptured with ⟨hnamed, hstored⟩
  unfold partSource storedNameOf
  rw [hnamed, Option.map_none, Option.getD_none, Option.bind_some, hstored]

/-- A document that lacks the capturing member has null in the place of the key. -/
theorem absentMember_captured {key : String} {m : Member} (hcaptured : c.capturing? key = some m) :
    absentMember c (c.storedNameOf key) = .ok .null := by
  rcases eq_none_of_capturing? hcaptured with ⟨hnamed, hstored⟩
  unfold absentMember storedNameOf
  rw [hnamed, Option.map_none, Option.getD_none, hstored]
  rfl

theorem declaredType_captured {key : String} {m : Member} (hcaptured : c.capturing? key = some m) :
    c.declaredType key = .any := by
  unfold declaredType
  rw [(eq_none_of_capturing? hcaptured).1]
  rfl

section Keys

variable {absent : String → Except MappingError Value} {fields : List (String × Lowering)}
  {field : String × Lowering}

/-- Different names to store under come from different keys. -/
theorem lookup_key (hkeys : (fields.map fun field => c.storedNameOf field.1).Nodup)
    (hfield : field ∈ fields) : fields.lookup field.1 = some field.2 := by
  have hnodup : ((fields.map Prod.fst).map c.storedNameOf).Nodup := by
    rw [List.map_map]
    exact hkeys
  exact Fields.lookup_of_mem (List.Nodup.of_map _ hnodup) hfield

theorem partValue_storedNameOf (hstored : (c.allMembers.map Member.storedName).Nodup)
    (hkeys : (fields.map fun field => c.storedNameOf field.1).Nodup) (hfield : field ∈ fields)
    (hfree : c.capturing? field.1 = none) :
    partValue (some c) absent fields (c.storedNameOf field.1) =
      field.2 (c.declaredType field.1) := by
  unfold partValue
  rw [partSource_storedNameOf hstored hfree, lookup_key hkeys hfield]
  rfl

theorem partValue_captured {m : Member} (hcaptured : c.capturing? field.1 = some m) :
    partValue (some c) absent fields (c.storedNameOf field.1) =
      (fields.lookup m.name).getD (fun _ => absent (c.storedNameOf field.1)) m.type := by
  unfold partValue
  rw [partSource_captured hcaptured]

/-- A field of the document holds the content of a key. -/
def Keeps (c : ClassMap) (field : String × Lowering) (stored : String × Value) : Prop :=
  stored.1 = c.storedNameOf field.1 ∧ field.2 (c.declaredType field.1) = .ok stored.2

/-- An object with keys is lowered to the contents of all its keys exactly if what is found
    for a captured key is the content of the key. -/
theorem lower_keyed_eq_ok_iff (sh : Shape Lowering)
    (hd : sh.discriminator? = c.persistedDiscriminator?)
    (hnames : sh.partNames = .ok (fields.map fun field => c.storedNameOf field.1))
    (hparts : ∀ name, sh.lowerPart name = (name, ·) <$> partValue (some c) absent fields name)
    (hstored : (c.allMembers.map Member.storedName).Nodup)
    (hkeys : (fields.map fun field => c.storedNameOf field.1).Nodup)
    (htag : c.isPolymorphic = true →
      c.discriminatorName ∉ fields.map fun field => c.storedNameOf field.1)
    {lowered : List (String × Value)} (hlowered : List.Forall₂ c.Keeps fields lowered) :
    sh.lower = .ok ⟨c.tagFields ++ lowered⟩ ↔
      ∀ field ∈ fields, ∀ m, c.capturing? field.1 = some m →
        (fields.lookup m.name).getD (fun _ => absent (c.storedNameOf field.1)) m.type =
          field.2 .any := by
  have hfields : sh.lower = .ok ⟨c.tagFields ++ lowered⟩ ↔
      List.Forall₂ (fun field stored => sh.lowerPart (c.storedNameOf field.1) = .ok stored)
        fields lowered := by
    rw [Shape.lower_eq_ok_iff hnames hkeys (hd ▸ notMem_of_persisted htag), hd]
    constructor
    · rintro ⟨lowered', hlowered', hsame⟩
      rw [List.append_cancel_left (Document.mk.inj hsame)]
      exact List.forall₂_map_left_iff.mp hlowered'
    · intro h
      exact ⟨lowered, List.forall₂_map_left_iff.mpr h, rfl⟩
  rw [hfields]
  -- Only the captured keys are in question: at every other key its own content is found.
  refine forall₂_iff_of_forall₂ hlowered fun field hfield stored hkeeps => ?_
  rcases stored with ⟨name, v⟩
  rcases hkeeps with ⟨rfl, hown⟩
  rw [hparts, Except.map_eq_ok]
  cases hcaptured : c.capturing? field.1 with
  | none =>
      rw [partValue_storedNameOf hstored hkeys hfield hcaptured]
      refine iff_of_true ⟨v, hown, rfl⟩ ?_
      intro m hm
      cases hm
  | some m =>
      rw [partValue_captured hcaptured]
      rw [declaredType_captured hcaptured] at hown
      rw [hown]
      constructor
      · rintro ⟨w, hw, hpair⟩ m' ⟨⟩
        rw [hw, (Prod.mk.inj hpair).2]
      · intro hsame
        exact ⟨v, hsame m rfl, rfl⟩

end Keys

end ClassMap

/-! ### Documents and samples -/

section Objects

variable {s : Store} {name : String} {c : ClassMap}

/-- No value of a document is lost exactly if what is stored for each captured key happens to
    be its value. -/
theorem document_kept_iff (hc : s.find? name = some c)
    (hstored : (c.allMembers.map Member.storedName).Nodup) {d : Document}
    (hkeys : (d.keys.map c.storedNameOf).Nodup)
    (htag : c.isPolymorphic = true → c.discriminatorName ∉ d.keys.map c.storedNameOf)
    {lowered : List (String × Value)}
    (hlowered : List.Forall₂ (fun field stored => stored.1 = c.storedNameOf field.1 ∧
      field.2.lower s (c.declaredType field.1) = .ok stored.2) d.fields lowered) :
    d.lower s (.ofClass name) = .ok ⟨c.tagFields ++ lowered⟩ ↔
      ∀ field ∈ d.fields, ∀ m, c.capturing? field.1 = some m →
        ((d.get? m.name).getD .null).lower s m.type = .ok field.2 := by
  have hnames : (valueLowerings s d.fields).map (fun field => c.storedNameOf field.1) =
      d.keys.map c.storedNameOf := by
    rw [valueLowerings_eq_map, Document.keys, List.map_map, List.map_map]
    rfl
  rw [Document.lower_ofClass hc, ClassMap.lower_keyed_eq_ok_iff (.mapped c _) rfl rfl
      (Shape.lowerPart_mapped c _) hstored (hnames ▸ hkeys) (hnames ▸ htag)
      (by rw [valueLowerings_eq_map]; exact List.forall₂_map_left_iff.mpr hlowered),
    valueLowerings_eq_map, List.forall_mem_map]
  refine forall₂_congr fun field _ => forall₂_congr fun m hcaptured => ?_
  have hany : field.2.lower s .any = .ok field.2 := Value.lower_plain s field.2 rfl
  dsimp only
  rw [Fields.lookup_map fun _ v type => Value.lower s v type, hany,
    ClassMap.absentMember_captured hcaptured]
  unfold Document.get?
  cases d.fields.lookup m.name with
  | none => rw [Option.map_none, Option.getD_none, Option.getD_none, Value.lower_null]
  | some v => rfl

/-- No content of a sample is lost exactly if each captured key finds its own content under
    the name of the member that captures it. -/
theorem sample_kept_iff (hc : s.find? name = some c)
    (hstored : (c.allMembers.map Member.storedName).Nodup) {members : List (String × Instance)}
    (hkeys : (members.map fun member => c.storedNameOf member.1).Nodup)
    (htag : c.isPolymorphic = true →
      c.discriminatorName ∉ members.map fun member => c.storedNameOf member.1)
    {lowered : List (String × Value)}
    (hlowered : List.Forall₂ (fun member stored => stored.1 = c.storedNameOf member.1 ∧
      member.2.lower s (c.declaredType member.1) = .ok stored.2) members lowered) :
    lowerSample s (instanceLowerings s members) (.ofClass name) = .ok ⟨c.tagFields ++ lowered⟩ ↔
      ∀ member ∈ members, ∀ m, c.capturing? member.1 = some m →
        ∃ i, Sample.get? m.name members = some i ∧ i.lower s m.type = member.2.lower s .any := by
  have hnames : (instanceLowerings s members).map (fun field => c.storedNameOf field.1) =
      members.map fun member => c.storedNameOf member.1 := by
    rw [instanceLowerings_eq_map, List.map_map]
    rfl
  rw [lowerSample_ofClass hc, ClassMap.lower_keyed_eq_ok_iff (.sample (some c) _) rfl rfl
      (Shape.lowerPart_sample _ _) hstored (hnames ▸ hkeys) (hnames ▸ htag)
      (by rw [instanceLowerings_eq_map]; exact List.forall₂_map_left_iff.mpr hlowered),
    instanceLowerings_eq_map, List.forall_mem_map]
  refine forall₂_congr fun member hmember => forall₂_congr fun m hcaptured => ?_
  rcases exists_right_of_forall₂ hlowered hmember with ⟨stored, _, _, hown⟩
  rw [ClassMap.declaredType_captured hcaptured] at hown
  dsimp only
  rw [Fields.lookup_map fun _ i type => Instance.lower s i type]
  unfold Sample.get?
  cases members.lookup m.name with
  | none =>
      -- A sample without the member is refused.
      rw [Option.map_none, Option.getD_none, hown]
      constructor
      · intro h
        cases h
      · rintro ⟨i, hi, _⟩
        cases hi
  | some i =>
      constructor
      · intro h
        exact ⟨i, rfl, h⟩
      · rintro ⟨_, ⟨⟩, h⟩
        exact h

end Objects

/-- A document or a sample of a class whose members have different stored names, with keys
    that go over to different names, none of them the discriminator's, and contents that can
    be lowered, each as what its key is declared as. The document that is stored has, behind
    the discriminator, each key under its name and with its own content exactly if every
    captured key gets its own content back. Without captured keys nothing is lost. -/
theorem values_kept_iff {s : Store} {name : String} {c : ClassMap} (hc : s.find? name = some c)
    (hstored : (c.allMembers.map Member.storedName).Nodup) :
    (∀ (d : Document) (lowered : List (String × Value)),
      (d.keys.map c.storedNameOf).Nodup →
      (c.isPolymorphic = true → c.discriminatorName ∉ d.keys.map c.storedNameOf) →
      List.Forall₂ (fun field stored => stored.1 = c.storedNameOf field.1 ∧
        field.2.lower s (c.declaredType field.1) = .ok stored.2) d.fields lowered →
      ((Instance.value (.document d)).toDocument s (.ofClass name) =
          .ok ⟨c.tagFields ++ lowered⟩ ↔
        ∀ field ∈ d.fields, ∀ m, c.capturing? field.1 = some m →
          ((d.get? m.name).getD .null).lower s m.type = .ok field.2)) ∧
    ∀ (members : List (String × Instance)) (lowered : List (String × Value)),
      (members.map fun member => c.storedNameOf member.1).Nodup →
      (c.isPolymorphic = true →
        c.discriminatorName ∉ members.map fun member => c.storedNameOf member.1) →
      List.Forall₂ (fun member stored => stored.1 = c.storedNameOf member.1 ∧
        member.2.lower s (c.declaredType member.1) = .ok stored.2) members lowered →
      ((Instance.sample members).toDocument s (.ofClass name) = .ok ⟨c.tagFields ++ lowered⟩ ↔
        ∀ member ∈ members, ∀ m, c.capturing? member.1 = some m →
          ∃ i, Sample.get? m.name members = some i ∧
            i.lower s m.type = member.2.lower s .any) := by
  constructor
  · intro d lowered hkeys htag hlowered
    exact document_kept_iff hc hstored hkeys htag hlowered
  · intro members lowered hkeys htag hlowered
    exact sample_kept_iff hc hstored hkeys htag hlowered

/-! ### An account and its parent

An identity is stored under `_id` and has another name, so the key `_id` is captured. -/

namespace Account

def account : ClassMap :=
  { ClassMap.abstractType "Account" with
    identity := some ⟨"Id", identityName, .native, "Account", .scalar .int32⟩
    members := [⟨"Owner", "o", .native, "Account", .scalar .string⟩,
      ⟨"Parent", "p", .ofClass "Account", "Account", .optionalEntity "Account"⟩] }

def store : Store where
  classes := [⟨account, "Account"⟩]

/-- An account below another one, with a key that is no member's name in each of them. -/
def nested : Document :=
  ⟨[("Parent", .document ⟨[("Owner", .string "ann"), ("note", .boolean true)]⟩),
    ("note", .boolean false), ("Id", .int32 5)]⟩

/-- What is stored for the contents. -/
def nestedLowered : List (String × Value) :=
  [("p", .document ⟨[("o", .string "ann"), ("note", .boolean true)]⟩),
    ("note", .boolean false), ("_id", .int32 5)]

theorem nested_kept :
    Store.build [account] = .ok store ∧
      (Instance.value (.document nested)).toDocument store (.ofClass "Account") =
        .ok ⟨nestedLowered⟩ := by
  have hbuild : Store.build [account] = .ok store := by with_unfolding_all rfl
  have hfound : store.find? "Account" = some account := rfl
  have htag : account.isPolymorphic = true →
      account.discriminatorName ∉ nested.keys.map account.storedNameOf := by
    intro h
    cases h
  have hkept := (values_kept_iff hfound (by decide)).1 nested nestedLowered (by decide)
    htag (.cons ⟨rfl, rfl⟩ (.cons ⟨rfl, rfl⟩ (.cons ⟨rfl, rfl⟩ .nil)))
  refine ⟨hbuild, hkept.mpr ?_⟩
  have hfree : ∀ field ∈ nested.fields, account.capturing? field.1 = none := by
    intro field hfield
    simp only [nested, List.mem_cons, List.not_mem_nil, or_false] at hfield
    rcases hfield with rfl | rfl | rfl <;> rfl
  intro field hfield m hcaptured
  rw [hfree field hfield] at hcaptured
  cases hcaptured

/-- A document that has its identity under the stored name, which its key goes over to, is
    stored without it, and a sample is refused. -/
theorem identity_lost :
    (account.allMembers.map Member.storedName).Nodup ∧ account.storedNameOf "_id" = "_id" ∧
      (Instance.value (.document ⟨[("_id", .int32 5)]⟩)).toDocument store (.ofClass "Account") =
        .ok ⟨[("_id", .null)]⟩ ∧
      (Instance.sample [("_id", .value (.int32 5))]).toDocument store (.ofClass "Account") =
        .error (.memberNotFound "example object" "_id") := by
  exact ⟨by decide, rfl, rfl, rfl⟩

end Account

end DocumentMapper
