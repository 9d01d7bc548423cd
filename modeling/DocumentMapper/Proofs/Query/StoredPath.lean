import DocumentMapper.Proofs.Mapping.EntityDocument
import DocumentMapper.Proofs.Mapping.Inheritance
import DocumentMapper.Proofs.Query.Chain

/-!
# The paths of queries and the names of storage

A query goes along a chain of members by the declared types: each member is looked up in
the class that the one before it is declared with. Storing goes by the entities: each one
is stored through the map of its own class, which may be a class below the declared one.
So the path of a query leads to what was stored only if a class stores what it has from
above under the names that are used there. It does for all members (`Extends`) but the
identity: a class may declare an identity in place of that of its base, and if this one has
another name, then the base's name of the identity is no member of the class any more, or
one that is stored elsewhere. A chain that asks for the identity of a class is therefore
followed on entities whose class has its identity under the same name.

## Main definitions

* `ClassMap.Plain`: Names of members and stored names are told apart.
* `Entity.lowerMember`, `Entity.lowerChain`: What is stored for a member, and at the end of
  a chain of members.
* `ChainStep`, `Chained`: A chain of members along entities, by declared types.
* `ChainStep.KeepsIdentity`: The class of an entity has its identity under the name asked
  for.

## Theorems

* `exists_member_below`: A class stores a member under the name that is used above it.
* `path_of_chained`: Looking up and lowering along a chain.
* `bound_path_leads_to_lowered`: A bound path leads to what was stored.
-/

namespace DocumentMapper

/-- A class whose members have different names and different stored names, none of which
    has a dot or is that of the discriminator. -/
structure ClassMap.Plain (c : ClassMap) : Prop where
  differentNames : (c.allMembers.map Member.name).Nodup
  differentStoredNames : (c.allMembers.map Member.storedName).Nodup
  dotless : ∀ m ∈ c.allMembers, '.' ∉ m.storedName.toList
  noTag : ∀ m ∈ c.allMembers, m.storedName ≠ c.discriminatorName

instance (c : ClassMap) : Decidable c.Plain :=
  decidable_of_iff
    ((c.allMembers.map Member.name).Nodup ∧ (c.allMembers.map Member.storedName).Nodup ∧
      (∀ m ∈ c.allMembers, '.' ∉ m.storedName.toList) ∧
      ∀ m ∈ c.allMembers, m.storedName ≠ c.discriminatorName)
    ⟨fun ⟨names, storedNames, dots, tag⟩ => ⟨names, storedNames, dots, tag⟩,
      fun h => ⟨h.differentNames, h.differentStoredNames, h.dotless, h.noTag⟩⟩

namespace Entity

/-- The value that is stored for a member of an entity. -/
def lowerMember (s : Store) (e : Entity) (name : String) : Except MappingError Value := do
  let c ← s.classMap e.className
  match c.memberNamed? name with
  | some m => (e.content name).lower s m.type
  | none => .error (.memberNotFound e.className name)

/-- The value that is stored for the last member of a chain, which goes from a member of an
    entity on through the members of the entities that are held. -/
def lowerChain (s : Store) (e : Entity) (name : String) : List String → Except MappingError Value
  | [] => e.lowerMember s name
  | next :: rest =>
    match e.content name with
    | .entity inner => inner.lowerChain s next rest
    | other => other.mismatch "entity"

end Entity

/-- One member of a chain: the class it is looked up in, and the entity that has it. -/
structure ChainStep where
  className : String
  entity : Entity
  name : String

namespace ChainStep

/-- The member is one of the class, and the entity is of this class or of one below it. -/
structure Reads (s : Store) (t : ChainStep) (m : Member) : Prop where
  assignable : s.isAssignable t.className t.entity.className = true
  member : ∃ c, s.find? t.className = some c ∧ c.memberNamed? t.name = some m

/-- If the member is the identity of the class, the identity of the entity's class has the
    same name. -/
def KeepsIdentity (s : Store) (t : ChainStep) : Prop :=
  ∀ c below, s.find? t.className = some c → s.find? t.entity.className = some below →
    c.identity.map Member.name = some t.name → below.identity.map Member.name = some t.name

end ChainStep

/-- A chain of members, from its first step: every member but the last holds an entity, whose
    members are looked up in the class that the member is declared with. -/
inductive Chained (s : Store) : ChainStep → List ChainStep → Prop where
  | last {t : ChainStep} {m : Member} (reads : t.Reads s m) : Chained s t []
  | step {t next : ChainStep} {rest : List ChainStep} {m : Member} (reads : t.Reads s m)
      (type : m.type.innermostClass? = some next.className)
      (held : t.entity.content t.name = .entity next.entity) (more : Chained s next rest) :
      Chained s t (next :: rest)

section Below

variable {maps : List ClassMap} {s : Store}

/-- Identities are stored under one name if the class maps say so. -/
theorem storedName_identity (hs : Store.build maps = .ok s)
    (hidentities : ∀ c ∈ maps, ∀ m ∈ c.identity, m.storedName = identityName)
    {name : String} {c : ClassMap} (hc : s.find? name = some c) {m : Member}
    (hm : c.identity = some m) : m.storedName = identityName := by
  rcases Store.exists_placed_of_find? hc with ⟨p, hp, rfl, _⟩
  rcases Store.exists_identity_declared hs hp hm with ⟨declared, hdeclared, hown⟩
  exact hidentities declared hdeclared m hown

/-- A class stores a member under the name that is used for it above. -/
theorem exists_member_below (hs : Store.build maps = .ok s)
    (hidentities : ∀ c ∈ maps, ∀ m ∈ c.identity, m.storedName = identityName)
    {t : ChainStep} {m : Member} (hreads : t.Reads s m) (hkeeps : t.KeepsIdentity s)
    {below : ClassMap} (hbelow : s.find? t.entity.className = some below) :
    ∃ m' ∈ below.allMembers, m'.name = t.name ∧ m'.storedName = m.storedName := by
  rcases hreads with ⟨hassignable, c, hc, hmember⟩
  rcases mem_of_find?_key hmember with ⟨hm, hname⟩
  have hextends := Store.extends_of_isAssignable hs hc hbelow hassignable
  rcases List.mem_append.mp hm with hidentity | hother
  · -- The identity is stored under one name in all classes.
    have hown := Option.mem_toList.mp hidentity
    have hkept := hkeeps c below hc hbelow (by rw [hown, Option.map_some, hname])
    rcases Option.map_eq_some_iff.mp hkept with ⟨m', hm', hname'⟩
    refine ⟨m', List.mem_append_left _ (Option.mem_toList.mpr hm'), hname', ?_⟩
    rw [storedName_identity hs hidentities hbelow hm', storedName_identity hs hidentities hc hown]
  · have hnames := hextends.members.subset (List.mem_map.mpr ⟨m, hother, rfl⟩)
    rcases List.mem_map.mp hnames with ⟨m', hm', hsame⟩
    rcases Prod.mk.inj hsame with ⟨hname', hstored⟩
    exact ⟨m', List.mem_append_right _ hm', hname'.trans hname, hstored⟩

/-- One step: under the name that is used above, there is what the member is lowered to. -/
theorem lowered_member (hs : Store.build maps = .ok s)
    (hidentities : ∀ c ∈ maps, ∀ m ∈ c.identity, m.storedName = identityName)
    (hplain : ∀ p ∈ s.classes, p.map.Plain) {t : ChainStep} {m : Member} (hreads : t.Reads s m)
    (hkeeps : t.KeepsIdentity s) {d : Document} (hd : t.entity.lower s = .ok d) :
    ∃ (v : Value) (type : MemberType), (t.entity.content t.name).lower s type = .ok v ∧
      t.entity.lowerMember s t.name = .ok v ∧ d.get? m.storedName = some v := by
  rcases exists_class_of_lower hd with ⟨below, hbelow⟩
  rcases exists_member_below hs hidentities hreads hkeeps hbelow with ⟨m', hm', hname, hstored⟩
  rcases Store.exists_placed_of_find? hbelow with ⟨p, hp, rfl, _⟩
  have hbelowPlain := hplain p hp
  rcases get?_lower hbelow hbelowPlain.differentStoredNames hm' (hbelowPlain.noTag m' hm') hd with
    ⟨v, hv, hget⟩
  rw [hname] at hv
  rw [hstored] at hget
  -- The member that is found by its name is the one that has been lowered.
  have hfound : p.map.memberNamed? t.name = some m' :=
    hname ▸ find?_of_nodup hbelowPlain.differentNames hm'
  refine ⟨v, m'.type, hv, ?_, hget⟩
  unfold Entity.lowerMember Store.classMap
  rw [hbelow]
  dsimp only
  rw [Except.ok_bind, hfound]
  exact hv

theorem storedPath_cons {t : ChainStep} {m : Member} (hreads : t.Reads s m)
    {names path : List String}
    (hpath : storedPath s m.type.innermostClass? names = .ok path) :
    storedPath s (some t.className) (t.name :: names) = .ok (m.storedName :: path) := by
  rcases hreads.member with ⟨c, hc, hmember⟩
  rw [storedPath]
  unfold Store.classMap
  rw [hc]
  dsimp only
  rw [Except.ok_bind, hmember]
  dsimp only
  rw [hpath]
  rfl

theorem dotless_storedName (hplain : ∀ p ∈ s.classes, p.map.Plain) {t : ChainStep} {m : Member}
    (hreads : t.Reads s m) : '.' ∉ m.storedName.toList := by
  rcases hreads.member with ⟨c, hc, hmember⟩
  rcases Store.exists_placed_of_find? hc with ⟨p, hp, rfl, _⟩
  exact (hplain p hp).dotless m (mem_of_find?_key hmember).1

/-- Along a chain the path leads through the documents that the entities are stored as. -/
theorem path_of_chained (hs : Store.build maps = .ok s)
    (hidentities : ∀ c ∈ maps, ∀ m ∈ c.identity, m.storedName = identityName)
    (hplain : ∀ p ∈ s.classes, p.map.Plain) {t : ChainStep} {rest : List ChainStep}
    (hchain : Chained s t rest) (hkeeps : ∀ u ∈ t :: rest, u.KeepsIdentity s) :
    ∀ d, t.entity.lower s = .ok d →
      ∃ path v, storedPath s (some t.className) ((t :: rest).map ChainStep.name) = .ok path ∧
        t.entity.lowerChain s t.name (rest.map ChainStep.name) = .ok v ∧
        d.getPath? path = some v ∧ path ≠ [] ∧ ∀ name ∈ path, '.' ∉ name.toList := by
  induction hchain with
  | @last t m reads =>
      intro d hd
      rcases lowered_member hs hidentities hplain reads (hkeeps t List.mem_cons_self) hd with
        ⟨v, _, _, hmember, hget⟩
      refine ⟨[m.storedName], v, storedPath_cons reads (by rw [List.map_nil, storedPath]), hmember,
        hget, List.cons_ne_nil _ _, ?_⟩
      exact List.forall_mem_singleton.mpr (dotless_storedName hplain reads)
  | @step t next rest m reads type held more ih =>
      intro d hd
      rcases lowered_member hs hidentities hplain reads (hkeeps t List.mem_cons_self) hd with
        ⟨v, declared, hv, _, hget⟩
      -- The entity that is held is stored as a document, in which the path goes on.
      rw [held, Instance.lower] at hv
      rcases Except.map_eq_ok.mp hv with ⟨inner, hinner, rfl⟩
      rcases ih (fun u hu => hkeeps u (List.mem_cons_of_mem t hu)) inner hinner with
        ⟨path, w, hpath, hlowered, hlookup, hne, hdotless⟩
      rcases List.exists_cons_of_ne_nil hne with ⟨first, more, rfl⟩
      refine ⟨m.storedName :: first :: more, w, storedPath_cons reads (type ▸ hpath), ?_, ?_,
        List.cons_ne_nil _ _, ?_⟩
      · rw [List.map_cons, Entity.lowerChain, held]
        exact hlowered
      · rw [Document.getPath?, hget]
        exact hlookup
      · exact List.forall_mem_cons.mpr ⟨dotless_storedName hplain reads, hdotless⟩

end Below

/-- The members of a chain on a row of documents of a class. -/
def ChainStep.on (t : ChainStep) (rest : List ChainStep) (row : Expr) : Expr :=
  ((t :: rest).map ChainStep.name).foldl Expr.member row

/-- A chain of members is bound to a path that leads, in the document of an entity, to the
    value the entity has stored for the chain: for every entity of the class that the chain
    starts at or of one below it, and wherever the identity of a class is asked for, the
    class of the entity has its identity under the same name. -/
theorem bound_path_leads_to_lowered {maps : List ClassMap} {s : Store}
    (hs : Store.build maps = .ok s)
    (hidentities : ∀ c ∈ maps, ∀ m ∈ c.identity, m.storedName = identityName)
    (hplain : ∀ p ∈ s.classes, p.map.Plain) {t : ChainStep} {rest : List ChainStep}
    (hchain : Chained s t rest) (hkeeps : ∀ u ∈ t :: rest, u.KeepsIdentity s)
    (hlength : ∀ u ∈ rest, isLengthMember u.name = false) {d : Document}
    (hd : (Instance.entity t.entity).toDocument s (.ofClass t.className) = .ok d)
    (label source : String) :
    ∃ path v,
      (t.on rest (.parameter label)).bind (some s) (some ⟨source, some t.className⟩) =
          .ok (.field ⟨source, path⟩) ∧
        t.entity.lowerChain s t.name (rest.map ChainStep.name) = .ok v ∧
        d.lookupPath? path = some v := by
  rcases path_of_chained hs hidentities hplain hchain hkeeps d hd with
    ⟨path, v, hpath, hlowered, hget, hne, hdotless⟩
  refine ⟨String.intercalate "." path, v, ?_, hlowered, ?_⟩
  · unfold ChainStep.on
    rw [List.map_cons, FieldChain.bind_foldl_member _ _ _ _ (List.forall_mem_map.mpr hlength)]
    unfold bindPath
    dsimp only
    rw [← List.map_cons, hpath]
    rfl
  · rw [d.lookupPath?_intercalate hdotless hne]
    exact hget

/-! ### Accounts -/

namespace Accounts

/-- A class of which accounts are told by `Id` and may have an owner. -/
def account : ClassMap :=
  { ClassMap.concrete "Account" ⟨"Account", [("Id", .null), ("Owner", .null)]⟩ with
    identity := some ⟨"Id", identityName, .native, "Account", .scalar .string⟩
    members := [⟨"Owner", "o", .ofClass "Account", "Account", .anything⟩] }

/-- A class below it that declares the identity and the owner again. -/
def savings : ClassMap :=
  { ClassMap.concrete "Savings" ⟨"Savings", [("Id", .null), ("Owner", .null)]⟩ with
    base := some "Account"
    identity := some ⟨"Id", identityName, .native, "Savings", .scalar .string⟩
    members := [⟨"Owner", "Owner", .ofClass "Account", "Savings", .anything⟩] }

/-- A class below it whose entities are told by `Key`, and which has `Id` as a member. -/
def member : ClassMap :=
  { ClassMap.concrete "Member" ⟨"Member", [("Key", .null), ("Id", .null), ("Owner", .null)]⟩ with
    base := some "Account"
    identity := some ⟨"Key", identityName, .native, "Member", .scalar .string⟩
    members := [⟨"Id", "Id", .native, "Member", .scalar .string⟩,
      ⟨"Owner", "Owner", .ofClass "Account", "Member", .anything⟩] }

/-- The store of accounts and one class below them. -/
def storeWith (below : ClassMap) : Store where
  classes := [⟨account.place ["Account"] true, "Account"⟩,
    ⟨(below.inherit (account.place ["Account"] true)).place ["Account", below.name] false,
      "Account"⟩]

def text (s : String) : Instance :=
  .value (.string s)

/-- The savings that own the savings below. -/
def owner : Entity where
  className := "Savings"
  fields := [("Id", text "s0"), ("Owner", .null)]

def owned : Entity where
  className := "Savings"
  fields := [("Id", text "s1"), ("Owner", .entity owner)]

/-- A member with a value under each of its names. -/
def joined : Entity where
  className := "Member"
  fields := [("Key", text "k1"), ("Id", text "i1"), ("Owner", .null)]

theorem identities_named {below : ClassMap}
    (h : ∀ m ∈ below.identity, m.storedName = identityName) :
    ∀ c ∈ [account, below], ∀ m ∈ c.identity, m.storedName = identityName := by
  refine List.forall_mem_cons.mpr ⟨?_, List.forall_mem_singleton.mpr h⟩
  rintro m ⟨⟩
  rfl

theorem savings_keepsIdentity {t : ChainStep} (habove : t.className = "Account")
    (hbelow : t.entity.className = "Savings") : t.KeepsIdentity (storeWith savings) := by
  intro c below hc hd hidentity
  rw [habove] at hc
  rw [hbelow] at hd
  cases hc
  cases hd
  exact hidentity

/-- The identity of the owner of savings, asked for as one of an account. -/
theorem owner_identity_found :
    let maps := [account, savings]
    let s := storeWith savings
    let t : ChainStep := ⟨"Account", owned, "Owner"⟩
    let next : ChainStep := ⟨"Account", owner, "Id"⟩
    let d : Document := ⟨[("_t", .string "Savings"), ("_id", .string "s1"),
      ("o", .document ⟨[("_t", .string "Savings"), ("_id", .string "s0"), ("o", .null)]⟩)]⟩
    Store.build maps = .ok s ∧ (∀ c ∈ maps, ∀ m ∈ c.identity, m.storedName = identityName) ∧
      (∀ p ∈ s.classes, p.map.Plain) ∧ Chained s t [next] ∧
      (∀ u ∈ [t, next], u.KeepsIdentity s) ∧ (∀ u ∈ [next], isLengthMember u.name = false) ∧
      (Instance.entity owned).toDocument s (.ofClass "Account") = .ok d ∧
      ∃ path v,
        (t.on [next] (.parameter "it")).bind (some s) (some ⟨"rows", some "Account"⟩) =
            .ok (.field ⟨"rows", path⟩) ∧
          owned.lowerChain s "Owner" ["Id"] = .ok v ∧ d.lookupPath? path = some v := by
  intro maps s t next d
  have hbuild : Store.build maps = .ok s :=
    Store.build_of_entries [(account, ["Account"]), (savings, ["Account", "Savings"])]
      (List.Perm.refl _) rfl (by decide)
  have hidentities : ∀ c ∈ maps, ∀ m ∈ c.identity, m.storedName = identityName := by
    refine identities_named ?_
    rintro m ⟨⟩
    rfl
  have hplain : ∀ p ∈ s.classes, p.map.Plain := by decide
  have hnext : Chained s next [] := .last ⟨by decide, _, rfl, rfl⟩
  have hchain : Chained s t [next] := .step ⟨by decide, _, rfl, rfl⟩ rfl rfl hnext
  have hkeeps : ∀ u ∈ [t, next], u.KeepsIdentity s :=
    List.forall_mem_cons.mpr ⟨savings_keepsIdentity rfl rfl,
      List.forall_mem_singleton.mpr (savings_keepsIdentity rfl rfl)⟩
  have hlength : ∀ u ∈ [next], isLengthMember u.name = false := by decide
  have hd : (Instance.entity owned).toDocument s (.ofClass "Account") = .ok d := by rfl
  exact ⟨hbuild, hidentities, hplain, hchain, hkeeps, hlength, hd,
    bound_path_leads_to_lowered hbuild hidentities hplain hchain hkeeps hlength hd "it" "rows"⟩

/-- A member is stored under its `Key`, and so the path of `Id` as that of an account leads
    to the key. -/
theorem joined_identity_not_found :
    let maps := [account, member]
    let s := storeWith member
    let t : ChainStep := ⟨"Account", joined, "Id"⟩
    let d : Document := ⟨[("_t", .string "Member"), ("_id", .string "k1"), ("o", .null),
      ("Id", .string "i1")]⟩
    Store.build maps = .ok s ∧ (∀ c ∈ maps, ∀ m ∈ c.identity, m.storedName = identityName) ∧
      (∀ p ∈ s.classes, p.map.Plain) ∧ Chained s t [] ∧
      (Instance.entity joined).toDocument s (.ofClass "Account") = .ok d ∧
      ¬∃ path v,
        (t.on [] (.parameter "it")).bind (some s) (some ⟨"rows", some "Account"⟩) =
            .ok (.field ⟨"rows", path⟩) ∧
          joined.lowerChain s "Id" [] = .ok v ∧ d.lookupPath? path = some v := by
  intro maps s t d
  have hbuild : Store.build maps = .ok s :=
    Store.build_of_entries [(account, ["Account"]), (member, ["Account", "Member"])]
      (List.Perm.refl _) rfl (by decide)
  have hidentities : ∀ c ∈ maps, ∀ m ∈ c.identity, m.storedName = identityName := by
    refine identities_named ?_
    rintro m ⟨⟩
    rfl
  have hplain : ∀ p ∈ s.classes, p.map.Plain := by decide
  have hchain : Chained s t [] := .last ⟨by decide, _, rfl, rfl⟩
  have hd : (Instance.entity joined).toDocument s (.ofClass "Account") = .ok d := by rfl
  refine ⟨hbuild, hidentities, hplain, hchain, hd, ?_⟩
  rintro ⟨path, v, hbind, hlowered, hlookup⟩
  have hpath : (t.on [] (.parameter "it")).bind (some s) (some ⟨"rows", some "Account"⟩) =
      .ok (.field ⟨"rows", "_id"⟩) := by rfl
  have hvalue : joined.lowerChain s "Id" [] = .ok (.string "i1") := by rfl
  have hkey : d.lookupPath? "_id" = some (.string "k1") := by rfl
  rw [hpath] at hbind
  rw [hvalue] at hlowered
  cases hbind
  cases hlowered
  rw [hkey] at hlookup
  exact absurd (Value.string.inj (Option.some.inj hlookup)) (by decide)

end Accounts

end DocumentMapper
