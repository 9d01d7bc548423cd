import DocumentMapper.Proofs.Query.Placement

/-!
# Conditions stay where they were placed

What may become of a condition that was accepted? Later conditions are placed in the same
document, and some of their paths lead to the condition, through it, or past it. The
argument is about one placement (`place?_cases`): it finds an equal value at the end of its
path and changes nothing, or it finds nothing there and touches only what stands on its
path. So a value that is there can be changed in one way only. A later path leads into it,
which takes a value that is a document, and something is placed there that was not in it.

This does happen. A document that was given as the value of a condition is not told apart
from one that was opened for the operators of a field. So the later condition is accepted,
and the value that was given is sent with more in it than it had.

In place, a value is put at the end of a path after all that is missing on the way was
opened. What was opened is empty, so nothing further down can be in the way (`place?_empty`).
A condition that is rejected has therefore opened nothing (`putAt_eq`).

## Main definitions

* `Value.inside?`: What stands in a value at a path.
* `Document.Puts`: What a placement changes.
* `ConditionCall`: A condition with the scopes it is added under.
* `ConditionCall.Extends`: A call that places something new beneath a path.
* `ConditionBuilder.after`: A builder after some calls.

## Theorems

* `getPath?_append`: A path that leads through another one.
* `place?_cases`: A placement repeats a value, or puts a new one.
* `document_of_place?`: What a placement leads through is a document.
* `putAt_eq`: Placing in place.
* `ConditionBuilder.add_run`: What adding a condition makes of a builder.
* `getPath?_run`, `getPath?_after`: What is at a path stays unless a call extends it.
* `ConditionBuilder.accepted_kept_iff`: When an accepted condition keeps its value.
* `Extended.given_document_extended`: A condition whose value is extended.
-/

namespace DocumentMapper

/-! ### Paths -/

/-- What stands in a value at a path of names: each of them in the document found so far. -/
def Value.inside? : List String → Value → Option Value
  | [], v => some v
  | key :: rest, v =>
    match v.asDocument? with
    | some d => (d.get? key).bind (inside? rest)
    | none => none

theorem Value.inside?_append (path rest : List String) :
    ∀ v : Value, v.inside? (path ++ rest) = (v.inside? path).bind (inside? rest) := by
  induction path with
  | nil => exact fun v => rfl
  | cons key path ih =>
      intro v
      rw [List.cons_append, inside?, inside?]
      cases v.asDocument? with
      | none => rfl
      | some d =>
          dsimp only
          cases d.get? key with
          | none => rfl
          | some w => exact ih w

namespace Document

theorem getPath?_cons (rest : List String) :
    ∀ (d : Document) (key : String),
      d.getPath? (key :: rest) = (d.get? key).bind (Value.inside? rest) := by
  induction rest with
  | nil =>
      intro d key
      rw [getPath?]
      cases d.get? key <;> rfl
  | cons next rest ih =>
      intro d key
      rw [getPath?]
      cases d.get? key with
      | none => rfl
      | some v =>
          cases v with
          | document inner => exact ih inner next
          | _ => rfl

theorem inside?_document (d : Document) {path : List String} (h : path ≠ []) :
    (Value.document d).inside? path = d.getPath? path := by
  cases path with
  | nil => exact absurd rfl h
  | cons key rest =>
      rw [getPath?_cons]
      rfl

/-- A path that leads through another one leads on inside what is found there. -/
theorem getPath?_append (d : Document) {path : List String} (h : path ≠ []) (rest : List String) :
    d.getPath? (path ++ rest) = (d.getPath? path).bind (Value.inside? rest) := by
  cases path with
  | nil => exact absurd rfl h
  | cons key path =>
      rw [List.cons_append, getPath?_cons, getPath?_cons]
      cases d.get? key with
      | none => rfl
      | some v => exact Value.inside?_append path rest v

/-- On the way to a value there are values. -/
theorem isSome_getPath?_of_isPrefix {d : Document} {path longer : List String} (hne : path ≠ [])
    (hleads : path <+: longer) (h : (d.getPath? longer).isSome) : (d.getPath? path).isSome := by
  rcases hleads with ⟨rest, rfl⟩
  rw [getPath?_append d hne] at h
  cases hpath : d.getPath? path with
  | none =>
      rw [hpath] at h
      cases h
  | some v => rfl

theorem getPath?_empty (path : List String) : empty.getPath? path = none := by
  cases path with
  | nil => rfl
  | cons key rest =>
      rw [getPath?_cons]
      rfl

theorem getPath?_insert_of_ne (d : Document) {key other : String} (h : other ≠ key) (v : Value)
    (rest : List String) :
    (d.insert key v).getPath? (other :: rest) = d.getPath? (other :: rest) := by
  rw [getPath?_cons, getPath?_cons, get?_insert_of_ne d h]

theorem getPath?_insert_self (d : Document) (key : String) (v : Value) (rest : List String) :
    (d.insert key v).getPath? (key :: rest) = v.inside? rest := by
  rw [getPath?_cons, get?_insert_self, Option.bind_some]

/-! ### One placement -/

/-- A value is put at the end of a path where nothing was, and what stands on no way to it
    and not beneath it is as it was. -/
structure Puts (v : Value) (path : List String) (d d' : Document) : Prop where
  missing : d.getPath? path = none
  found : d'.getPath? path = some v
  others : ∀ other, ¬ other <+: path → ¬ path <+: other → d'.getPath? other = d.getPath? other

section

variable {v : Value} {d d' inner inner' : Document} {key : String}

theorem Puts.ne_nil {path : List String} (h : Puts v path d d') : path ≠ [] := by
  rintro rfl
  cases h.found

theorem puts_key (h : d.get? key = none) : Puts v [key] d (d.insert key v) where
  missing := by rw [getPath?_cons, h, Option.bind_none]
  found := getPath?_insert_self d key v []
  others := by
    intro other _ hbeneath
    cases other with
    | nil => rfl
    | cons first rest =>
        have hne : first ≠ key := by
          rintro rfl
          exact hbeneath (List.prefix_append [first] rest)
        exact getPath?_insert_of_ne d hne v rest

/-- What is put in a document that is found under a name, or was missing there, is put
    beneath the name. -/
theorem Puts.beneath {path : List String} (h : Puts v path inner inner') (hne : path ≠ [])
    (hinner : (d.get? key = none ∧ inner = .empty) ∨ d.get? key = some (.document inner)) :
    Puts v (key :: path) d (d.insert key (.document inner')) := by
  -- Either way the paths beneath the name lead to what they lead to inside.
  have hdown : ∀ rest : List String, rest ≠ [] →
      d.getPath? (key :: rest) = inner.getPath? rest := by
    intro rest hrest
    rw [getPath?_cons]
    rcases hinner with ⟨hnone, rfl⟩ | hsome
    · rw [hnone, Option.bind_none, getPath?_empty]
    · rw [hsome, Option.bind_some, inside?_document inner hrest]
  have hdown' : ∀ rest : List String, rest ≠ [] →
      (d.insert key (.document inner')).getPath? (key :: rest) = inner'.getPath? rest := by
    intro rest hrest
    rw [getPath?_insert_self, inside?_document inner' hrest]
  refine ⟨(hdown path hne).trans h.missing, (hdown' path hne).trans h.found, ?_⟩
  intro other hway hbeneath
  cases other with
  | nil => exact absurd List.nil_prefix hway
  | cons first rest =>
      by_cases hfirst : first = key
      · subst hfirst
        rw [List.cons_prefix_cons] at hway hbeneath
        have hrest : rest ≠ [] := by
          rintro rfl
          exact hway ⟨rfl, List.nil_prefix⟩
        rw [hdown' rest hrest, hdown rest hrest]
        exact h.others rest (fun hr => hway ⟨rfl, hr⟩) (fun hr => hbeneath ⟨rfl, hr⟩)
      · exact getPath?_insert_of_ne d hfirst _ rest

/-- A placement finds an equal value and changes nothing, or it puts the value. -/
theorem place?_cases (path : List String) :
    ∀ {d d' : Document}, d.place? v path = some d' →
      (d' = d ∧ ∃ w, d.getPath? path = some w ∧ (w == v) = true) ∨ Puts v path d d' := by
  induction path with
  | nil =>
      intro d d' h
      cases h
  | cons key rest ih =>
      intro d d' h
      cases rest with
      | nil =>
          rcases place?_key h with ⟨hnone, rfl⟩ | ⟨w, hsome, hequal, rfl⟩
          · exact .inr (puts_key hnone)
          · exact .inl ⟨rfl, w, hsome, hequal⟩
      | cons next rest =>
          rcases place?_cons h with ⟨inner, inner', hplace, rfl, hinner⟩
          rcases ih hplace with ⟨rfl, w, hw, hequal⟩ | hputs
          · -- Nothing is found in a document that was missing, so this one is there.
            rcases hinner with ⟨_, rfl⟩ | hsome
            · rw [getPath?_empty] at hw
              cases hw
            · refine .inl ⟨insert_of_get? hsome, w, ?_, hequal⟩
              rw [getPath?, hsome]
              exact hw
          · exact .inr (hputs.beneath (List.cons_ne_nil next rest) hinner)

/-- What a placement leads through is a document. -/
theorem document_of_place? {rest : List String} (hrest : rest ≠ []) (path : List String) :
    ∀ {d d' : Document} {w : Value}, d.place? v (path ++ rest) = some d' →
      d.getPath? path = some w → ∃ inner, w = .document inner := by
  induction path with
  | nil =>
      intro d d' w _ hw
      cases hw
  | cons key path ih =>
      intro d d' w h hw
      rcases List.exists_cons_of_ne_nil (List.append_ne_nil_of_right_ne_nil path hrest) with
        ⟨next, more, hmore⟩
      rw [List.cons_append, hmore] at h
      -- Under the first name is nothing yet, or a document to go on in.
      rcases place?_cons h with ⟨inner, inner', hplace, _, ⟨hnone, _⟩ | hsome⟩
      · rw [getPath?_cons, hnone] at hw
        cases hw
      · cases path with
        | nil =>
            rw [getPath?, hsome] at hw
            exact ⟨inner, (Option.some.inj hw).symm⟩
        | cons second path =>
            rw [getPath?, hsome] at hw
            rw [← hmore] at hplace
            exact ih hplace hw

end

/-! ### Placing in place -/

/-- Nothing is in the way in an empty document. -/
theorem place?_empty (v : Value) (rest : List String) :
    ∀ key, ∃ d, empty.place? v (key :: rest) = some d := by
  induction rest with
  | nil => exact fun key => ⟨_, rfl⟩
  | cons next rest ih =>
      intro key
      rcases ih next with ⟨inner, hinner⟩
      refine ⟨empty.insert key (.document inner), ?_⟩
      rw [place?, show empty.get? key = none from rfl]
      dsimp only
      rw [hinner]
      rfl

theorem insertIfNew_of_none {d : Document} {key : String} (h : d.get? key = none) (v : Value) :
    d.insertIfNew key v = d.insert key v := by
  rw [insertIfNew, contains, h]
  rfl

theorem insertIfNew_of_some {d : Document} {key : String} {w : Value} (h : d.get? key = some w)
    (v : Value) : d.insertIfNew key v = d := by
  rw [insertIfNew, contains, h]
  rfl

/-- A value that is not placed has left no trace on its way. -/
theorem putAt_eq (v : Value) (path : List String) :
    ∀ d : Document, d.putAt v path =
      match d.place? v path with
      | some d' => (d', true)
      | none => (d, false) := by
  induction path with
  | nil => exact fun d => rfl
  | cons key rest ih =>
      intro d
      cases rest with
      | nil =>
          rw [putAt, place?]
          cases d.get? key with
          | none => rfl
          | some w => cases hequal : w == v <;> simp [hequal]
      | cons next rest =>
          rw [putAt, place?]
          cases hget : d.get? key with
          | none =>
              -- What was opened is empty, and the value is placed in it.
              rcases place?_empty v rest next with ⟨inner, hinner⟩
              simp only [insertIfNew_of_none hget, get?_insert_self, ih, hinner, insert_insert]
              rfl
          | some w =>
              cases w with
              | document inner =>
                  simp only [insertIfNew_of_some hget, hget, ih]
                  cases hplace : inner.place? v (next :: rest) with
                  | none =>
                      simp only [insert_of_get? hget]
                      rfl
                  | some inner' => rfl
              | _ => simp only [insertIfNew_of_some hget, hget]

end Document

/-! ### Work on a builder -/

namespace Building

variable {α β : Type} (b : ConditionBuilder)

theorem run_bind (work : Building α) (next : α → Building β) :
    (work >>= next).run.run b =
      match work.run.run b with
      | (.ok a, b') => (next a).run.run b'
      | (.error e, b') => (.error e, b') := by
  simp only [ExceptT.run_bind, StateT.run_bind]
  rcases work.run.run b with ⟨_ | _, b'⟩ <;> rfl

theorem run_get : (get : Building ConditionBuilder).run.run b = (.ok b, b) :=
  rfl

theorem run_set (b' : ConditionBuilder) : (set b' : Building Unit).run.run b = (.ok (), b') :=
  rfl

end Building

/-- A condition that is accepted is added to the document, and one that is rejected leaves
    the builder as it was. -/
theorem ConditionBuilder.add_run (b : ConditionBuilder) (v : Value) :
    (add v).run.run b =
      match b.query.addCondition b.scopes v with
      | .ok d => (.ok (), { b with query := d })
      | .error e => (.error e, b) := by
  rw [add, Building.run_bind, Building.run_get, Document.addCondition]
  dsimp only
  cases conditionPath b.scopes with
  | nil => rfl
  | cons key rest =>
      dsimp only
      rw [Building.run_bind, Building.run_set, Document.putAt_eq]
      cases b.query.place? v (key :: rest) with
      | none => rfl
      | some d => rfl

/-! ### Calls -/

/-- A condition with the scopes that enclose it. -/
structure ConditionCall where
  scopes : List Scope
  value : Value

namespace ConditionCall

/-- Where the condition belongs. -/
def path (c : ConditionCall) : List String :=
  conditionPath c.scopes

/-- Adds the condition under its scopes, whatever scopes the builder was under. -/
def run (c : ConditionCall) (b : ConditionBuilder) : Except QueryError Unit × ConditionBuilder :=
  (ConditionBuilder.add c.value).run.run { b with scopes := c.scopes }

def Accepted (c : ConditionCall) (b : ConditionBuilder) : Prop :=
  (c.run b).1 = .ok ()

/-- The condition is accepted, and its value is new in what stands at a path. -/
def Extends (c : ConditionCall) (path : List String) (b : ConditionBuilder) : Prop :=
  c.Accepted b ∧ path <+: c.path ∧ b.query.getPath? c.path = none

section

variable {c : ConditionCall} {b : ConditionBuilder}

theorem place?_of_accepted (h : c.Accepted b) :
    b.query.place? c.value c.path = some (c.run b).2.query := by
  have hrun := ConditionBuilder.add_run { b with scopes := c.scopes } c.value
  rw [Accepted, run, hrun] at h
  rw [run, hrun, path]
  dsimp only at h ⊢
  rw [Document.addCondition] at h ⊢
  cases hpath : conditionPath c.scopes with
  | nil =>
      rw [hpath] at h
      cases h
  | cons key rest =>
      rw [hpath] at h
      dsimp only at h ⊢
      cases hplace : b.query.place? c.value (key :: rest) with
      | none =>
          rw [hplace] at h
          cases h
      | some d => rfl

theorem query_of_not_accepted (h : ¬ c.Accepted b) : (c.run b).2.query = b.query := by
  rw [Accepted, run, ConditionBuilder.add_run] at h
  rw [run, ConditionBuilder.add_run]
  cases hadd : b.query.addCondition c.scopes c.value with
  | error e => rfl
  | ok d =>
      rw [hadd] at h
      exact absurd rfl h

/-- What a call makes of the document: nothing new, or its own value in a new place. -/
theorem run_cases (c : ConditionCall) (b : ConditionBuilder) :
    (c.run b).2.query = b.query ∨
      c.Accepted b ∧ Document.Puts c.value c.path b.query (c.run b).2.query := by
  by_cases h : c.Accepted b
  · rcases Document.place?_cases c.path (place?_of_accepted h) with ⟨hsame, _⟩ | hputs
    · exact .inl hsame
    · exact .inr ⟨h, hputs⟩
  · exact .inl (query_of_not_accepted h)

/-- What a condition that is accepted finds at the end of its path then. -/
theorem Accepted.found (h : c.Accepted b) :
    ∃ w, (w = c.value ∨ (w == c.value) = true) ∧ (c.run b).2.query.getPath? c.path = some w := by
  rcases Document.place?_cases c.path (place?_of_accepted h) with ⟨hsame, w, hw, hequal⟩ | hputs
  · rw [hsame]
    exact ⟨w, .inr hequal, hw⟩
  · exact ⟨c.value, .inl rfl, hputs.found⟩

section

variable {path : List String}

/-- What is there is never removed. -/
theorem isSome_run (c : ConditionCall) (h : (b.query.getPath? path).isSome) :
    ((c.run b).2.query.getPath? path).isSome := by
  rcases c.run_cases b with hsame | ⟨_, hputs⟩
  · rw [hsame]
    exact h
  · have hne : path ≠ [] := by
      rintro rfl
      cases h
    by_cases hway : path <+: c.path
    · refine Document.isSome_getPath?_of_isPrefix hne hway ?_
      rw [hputs.found]
      rfl
    · by_cases hbeneath : c.path <+: path
      · -- There was nothing where the value is now, and so nothing beneath it.
        have hthere := Document.isSome_getPath?_of_isPrefix hputs.ne_nil hbeneath h
        rw [hputs.missing] at hthere
        cases hthere
      · rw [hputs.others path hway hbeneath]
        exact h

/-- What is at a path is the same after a call that does not extend it. -/
theorem getPath?_run {w : Value} (h : b.query.getPath? path = some w)
    (hextends : ¬ c.Extends path b) : (c.run b).2.query.getPath? path = some w := by
  rcases c.run_cases b with hsame | ⟨haccepted, hputs⟩
  · rw [hsame]
    exact h
  · -- The new value is neither beneath the path, as the call does not extend it, nor above it.
    have hway : ¬ path <+: c.path := fun hleads => hextends ⟨haccepted, hleads, hputs.missing⟩
    have hbeneath : ¬ c.path <+: path := by
      intro hleads
      have hthere := Document.isSome_getPath?_of_isPrefix hputs.ne_nil hleads
        (Option.isSome_of_eq_some h)
      rw [hputs.missing] at hthere
      cases hthere
    rw [hputs.others path hway hbeneath]
    exact h

/-- Only a document is extended. -/
theorem Extends.document {w : Value} (h : c.Extends path b) (hw : b.query.getPath? path = some w) :
    ∃ d, w = .document d := by
  rcases h with ⟨haccepted, ⟨rest, hpath⟩, hmissing⟩
  have hrest : rest ≠ [] := by
    rintro rfl
    rw [← hpath, List.append_nil, hw] at hmissing
    cases hmissing
  have hplace := place?_of_accepted haccepted
  rw [← hpath] at hplace
  exact Document.document_of_place? hrest path hplace hw

end

end

end ConditionCall

namespace ConditionBuilder

/-- A builder after some calls, those that failed among them. -/
def after (b : ConditionBuilder) (calls : List ConditionCall) : ConditionBuilder :=
  calls.foldl (fun b c => (c.run b).2) b

theorem after_append (b : ConditionBuilder) (calls more : List ConditionCall) :
    b.after (calls ++ more) = (b.after calls).after more :=
  List.foldl_append

section

variable {path : List String} {w : Value}

theorem isSome_after (calls : List ConditionCall) :
    ∀ {b : ConditionBuilder}, (b.query.getPath? path).isSome →
      ((b.after calls).query.getPath? path).isSome := by
  induction calls with
  | nil => exact fun h => h
  | cons c calls ih => exact fun h => ih (c.isSome_run h)

/-- What is at a path is there after some calls unless one of them extends it. -/
theorem getPath?_after (calls : List ConditionCall) :
    ∀ {b : ConditionBuilder}, b.query.getPath? path = some w →
      (¬ ∃ between c rest, calls = between ++ c :: rest ∧ c.Extends path (b.after between)) →
      (b.after calls).query.getPath? path = some w := by
  induction calls with
  | nil => exact fun h _ => h
  | cons c calls ih =>
      intro b h hnone
      have hfirst : ¬ c.Extends path b := fun hextends => hnone ⟨[], c, calls, rfl, hextends⟩
      refine ih (ConditionCall.getPath?_run h hfirst) ?_
      rintro ⟨between, later, rest, rfl, hextends⟩
      exact hnone ⟨c :: between, later, rest, rfl, hextends⟩

/-- A value that is no document stays. -/
theorem getPath?_after_of_value (hw : w.asDocument? = none) (calls : List ConditionCall) :
    ∀ {b : ConditionBuilder}, b.query.getPath? path = some w →
      (b.after calls).query.getPath? path = some w := by
  induction calls with
  | nil => exact fun h => h
  | cons c calls ih =>
      intro b h
      refine ih (ConditionCall.getPath?_run h ?_)
      intro hextends
      rcases hextends.document h with ⟨d, rfl⟩
      cases hw

/-- What was extended is never again as it was. -/
theorem getPath?_after_extended {b : ConditionBuilder} {between rest : List ConditionCall}
    {c : ConditionCall} (h : b.query.getPath? path = some w)
    (hextends : c.Extends path (b.after between)) :
    (b.after (between ++ c :: rest)).query.getPath? path ≠ some w := by
  intro hlast
  rcases hextends with ⟨haccepted, ⟨further, hpath⟩, hmissing⟩
  have hne : path ≠ [] := by
    rintro rfl
    cases h
  -- Where the new value is there was nothing, from the start.
  have hstart : w.inside? further = none := by
    rw [← Option.not_isSome_iff_eq_none]
    intro hinside
    have hthere : (b.query.getPath? c.path).isSome := by
      rw [← hpath, Document.getPath?_append _ hne, h]
      exact hinside
    have hthen := isSome_after between hthere
    rw [hmissing] at hthen
    cases hthen
  -- Now there is something, and there still is after the rest of the calls.
  rcases haccepted.found with ⟨v, _, hfound⟩
  have hthere : ((b.after (between ++ c :: rest)).query.getPath? c.path).isSome := by
    rw [after_append]
    exact isSome_after rest (Option.isSome_of_eq_some hfound)
  rw [← hpath, Document.getPath?_append _ hne, hlast, Option.bind_some, hstart] at hthere
  cases hthere

end

/-- The value that a condition was accepted with stays at its path as it is exactly if no
    later condition is accepted that puts something new in it. A value that is no document
    stays in any case. -/
theorem accepted_kept_iff (b : ConditionBuilder) (earlier : List ConditionCall) (c : ConditionCall)
    (later : List ConditionCall) (h : c.Accepted (b.after earlier)) :
    ∃ w, (w = c.value ∨ (w == c.value) = true) ∧
      (b.after (earlier ++ [c])).query.getPath? c.path = some w ∧
      ((b.after (earlier ++ c :: later)).query.getPath? c.path = some w ↔
        ¬ ∃ between c' rest, later = between ++ c' :: rest ∧
          c'.Extends c.path (b.after (earlier ++ c :: between))) ∧
      (c.value.asDocument? = none →
        (b.after (earlier ++ c :: later)).query.getPath? c.path = some w) := by
  have hsplit : ∀ more, b.after (earlier ++ c :: more) = (c.run (b.after earlier)).2.after more :=
    fun more => after_append b earlier (c :: more)
  rcases h.found with ⟨w, hw, hfound⟩
  rw [hsplit later]
  refine ⟨w, hw, ?_, ⟨?_, ?_⟩, ?_⟩
  · rw [hsplit []]
    exact hfound
  · rintro hlast ⟨between, c', rest, rfl, hextends⟩
    rw [hsplit between] at hextends
    exact getPath?_after_extended hfound hextends hlast
  · intro hnone
    refine getPath?_after later hfound ?_
    rintro ⟨between, c', rest, hlater, hextends⟩
    refine hnone ⟨between, c', rest, hlater, ?_⟩
    rw [hsplit between]
    exact hextends
  · intro hvalue
    have hnone : w.asDocument? = none := by
      rcases hw with rfl | hequal
      · exact hvalue
      · exact asDocument?_of_equals hvalue hequal
    exact getPath?_after_of_value hnone later hfound

end ConditionBuilder

namespace Bounds

def lower : ConditionCall where
  scopes := [.field "A", .operator "$gt"]
  value := .int32 21

def upper : ConditionCall where
  scopes := [.operator "$lt", .field "A"]
  value := .int32 42

theorem lower_bound_kept :
    lower.Accepted {} ∧
      (ConditionBuilder.after {} [lower, upper]).query.getPath? lower.path = some (.int32 21) := by
  have haccepted : lower.Accepted {} := rfl
  rcases ConditionBuilder.accepted_kept_iff {} [] lower [upper] haccepted with
    ⟨w, _, hfound, _, hkept⟩
  have hw : some (Value.int32 21) = some w := hfound
  exact ⟨haccepted, (hkept rfl).trans hw.symm⟩

end Bounds

/-! ### A value that does not stay -/

namespace Extended

/-- Asks for a document as it is. -/
def whole : ConditionCall where
  scopes := [.field "A"]
  value := .document (.ofList [("x", .int32 1)])

/-- Asks for something greater in the same field. -/
def greater : ConditionCall where
  scopes := [.field "A", .operator "$gt"]
  value := .int32 5

/-- Both conditions are accepted, and the document that was given first is another one
    then. -/
theorem given_document_extended :
    whole.Accepted {} ∧ greater.Accepted (ConditionBuilder.after {} [whole]) ∧
      (ConditionBuilder.after {} [whole, greater]).query.getPath? whole.path =
        some (.document (.ofList [("x", .int32 1), ("$gt", .int32 5)])) ∧
      (ConditionBuilder.after {} [whole, greater]).query.getPath? whole.path ≠
        some whole.value := by
  refine ⟨rfl, rfl, rfl, ?_⟩
  intro h
  cases h

end Extended

end DocumentMapper
