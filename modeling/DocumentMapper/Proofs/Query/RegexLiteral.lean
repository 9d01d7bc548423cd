import DocumentMapper.Proofs.Data.Except
import DocumentMapper.Query.Expr.Script
import Mathlib.Algebra.Group.Nat.Even

/-!
# Where regular expression literals end

A test of a field is written as a regular expression literal, and a reader of the script
takes the literal to end at the first slash that no backslash protects. The slashes of the
expression are written with a backslash for that reason. But a backslash is itself protected
by another one before it, so whether the literal ends where it was meant to is a question of
parity: a slash is protected by an odd number of backslashes before it.

What is escaped has its backslashes in pairs, so the texts that a field is searched for do no
harm as far as slashes go. A given expression is taken as it is: if a slash of it is protected
already, the backslash that is added takes the protection away, and if it ends in an odd number
of backslashes, the closing slash is protected. Line ends are written as they are, which no
literal may hold, and nothing at all between two slashes begins a comment.

## Main definitions

* `Script.literal?`: A literal at the beginning of a script, read by a reader of scripts.
* `Script.guardEach`: Texts with a backslash before some of their characters.
* `Script.IsTest`: The calls that are written as tests.
* `Script.PairedRuns`: Expressions whose backslashes stand in pairs where it matters.
* `Method.Closes`: The texts for which the literal ends where it is meant to.

## Theorems

* `literalBody?_eq_iff`: Reading of a body that ends at a given slash.
* `Script.closes_iff`: Parity of backslashes.
* `Script.closes_escape`: Escaped texts.
* `IsTest.closes_iff`: Bodies of the tests.
* `regexLiteral_read_iff`: The tests whose literals are read as they are meant.
-/

namespace DocumentMapper

namespace Script

/-! ### Reading of a literal -/

/-- The characters that end a line of a script. -/
def isLineEnd (c : Char) : Bool :=
  c = '\n' || c = '\r' || c = '\u2028' || c = '\u2029'

/-- The inside of a literal up to the slash that ends it, and what follows the slash. A
    backslash protects the character after it, and no line ends inside. -/
def literalBody? (guarded : Bool) : List Char → Option (List Char × List Char)
  | [] => none
  | c :: rest =>
    if isLineEnd c then none
    else if c = '/' && !guarded then some ([], rest)
    else (literalBody? (c = '\\' && !guarded) rest).map fun p => (c :: p.1, p.2)

/-- The inside of a literal at the beginning of a script, and what follows the literal. Two
    slashes with nothing between them begin a comment. -/
def literal? : List Char → Option (List Char × List Char)
  | '/' :: rest => (literalBody? false rest).filter fun p => !p.1.isEmpty
  | _ => none

/-- Whether a literal is not over inside of a text, and a slash behind the text is not
    protected by it. -/
def isBody (guarded : Bool) : List Char → Bool
  | [] => !guarded
  | c :: rest => !isLineEnd c && !(c = '/' && !guarded) && isBody (c = '\\' && !guarded) rest

/-- A body is read up to the slash behind it if it is not over before, nor goes on. -/
theorem literalBody?_eq_iff (body after : List Char) :
    ∀ guarded, literalBody? guarded (body ++ '/' :: after) = some (body, after) ↔
      isBody guarded body = true := by
  induction body with
  | nil =>
      intro guarded
      cases guarded with
      | false => exact ⟨fun _ => rfl, fun _ => rfl⟩
      | true =>
          -- A protected slash is part of the body.
          have hread : literalBody? true ('/' :: after) =
              (literalBody? false after).map fun p => ('/' :: p.1, p.2) := rfl
          rw [List.nil_append, hread]
          constructor
          · intro h
            rcases Option.map_eq_some_iff.mp h with ⟨_, _, h⟩
            cases h
          · intro h
            cases h
  | cons c rest ih =>
      intro guarded
      rw [List.cons_append, literalBody?, isBody]
      cases hline : isLineEnd c with
      | true => simp
      | false =>
          cases hslash : (decide (c = '/') && !guarded) with
          | true => simp
          | false => simp [ih]

/-- A literal is read up to the slash behind its body if there is something in the body. -/
theorem literal?_eq_iff (body after : List Char) :
    literal? ('/' :: (body ++ '/' :: after)) = some (body, after) ↔
      body ≠ [] ∧ isBody false body = true := by
  rw [literal?, Option.filter_eq_some_iff, literalBody?_eq_iff, and_comm]
  simp

/-! ### Characters with a backslash before them -/

/-- A text with a backslash before each character of some kind. -/
def guardEach (special : Char → Bool) (text : List Char) : List Char :=
  text.flatMap fun c => if special c then ['\\', c] else [c]

theorem guardEach_cons (special : Char → Bool) (c : Char) (rest : List Char) :
    guardEach special (c :: rest) =
      (if special c then ['\\', c] else [c]) ++ guardEach special rest :=
  List.flatMap_cons

theorem guardEach_eq_nil {special : Char → Bool} {text : List Char} :
    guardEach special text = [] ↔ text = [] := by
  constructor
  · intro h
    cases text with
    | nil => rfl
    | cons c rest =>
        rw [guardEach_cons] at h
        split at h <;> cases h
  · rintro rfl
    rfl

/-- A text with a backslash before every slash. -/
def guardSlashes (text : List Char) : List Char :=
  guardEach (· = '/') text

theorem regexLiteral_eq (pattern : String) :
    regexLiteral pattern = "/" ++ String.ofList (guardSlashes pattern.toList) ++ "/" := by
  have hslash : ∀ c : Char,
      (if c = '/' then ['\\', '/'] else [c]) = if decide (c = '/') then ['\\', c] else [c] := by
    intro c
    by_cases hc : c = '/'
    · subst hc
      rfl
    · rw [if_neg hc, if_neg (by simpa using hc)]
  unfold regexLiteral guardSlashes guardEach
  rw [funext hslash]

/-- Whether an expression makes a body once its slashes have a backslash before them: none of
    them is protected already. -/
def closes (guarded : Bool) : List Char → Bool
  | [] => !guarded
  | c :: rest => !isLineEnd c && !(c = '/' && guarded) && closes (c = '\\' && !guarded) rest

theorem isBody_guardSlashes (text : List Char) :
    ∀ guarded, isBody guarded (guardSlashes text) = closes guarded text := by
  induction text with
  | nil => exact fun _ => rfl
  | cons c rest ih =>
      intro guarded
      unfold guardSlashes at ih ⊢
      rw [guardEach_cons]
      by_cases hslash : c = '/'
      · subst hslash
        rw [if_pos (decide_eq_true rfl), List.cons_append, List.singleton_append, isBody, isBody,
          ih, closes]
        -- The backslash protects the slash unless it is protected itself.
        cases guarded <;> rfl
      · rw [if_neg (by simpa using hslash), List.singleton_append, isBody, ih, closes]
        simp only [hslash, decide_false, Bool.false_and]

/-! ### Parity of backslashes -/

/-- The number of backslashes at the end of a text. -/
def trailingBackslashes (text : List Char) : Nat :=
  (text.reverse.takeWhile (· = '\\')).length

theorem trailingBackslashes_concat (text : List Char) (c : Char) :
    trailingBackslashes (text ++ [c]) =
      if c = '\\' then trailingBackslashes text + 1 else 0 := by
  unfold trailingBackslashes
  rw [List.reverse_append, List.reverse_singleton, List.singleton_append, List.takeWhile_cons]
  by_cases hc : c = '\\'
  · rw [if_pos hc, if_pos (decide_eq_true hc), List.length_cons]
  · rw [if_neg hc, if_neg (by simpa using hc), List.length_nil]

/-- Backslashes stand in pairs before every slash of a text and at its end, if the text comes
    after another one. -/
def PairedRuns (done text : List Char) : Prop :=
  ∀ before after, text = before ++ after → (after = [] ∨ after.head? = some '/') →
    Even (trailingBackslashes (done ++ before))

theorem pairedRuns_nil (done : List Char) :
    PairedRuns done [] ↔ Even (trailingBackslashes done) := by
  constructor
  · intro h
    have hdone := h [] [] rfl (.inl rfl)
    rwa [List.append_nil] at hdone
  · intro h before after hsplit _
    rw [(List.append_eq_nil_iff.mp hsplit.symm).1, List.append_nil]
    exact h

theorem pairedRuns_cons (done : List Char) (c : Char) (rest : List Char) :
    PairedRuns done (c :: rest) ↔
      (c = '/' → Even (trailingBackslashes done)) ∧ PairedRuns (done ++ [c]) rest := by
  constructor
  · intro h
    constructor
    · rintro rfl
      have hdone := h [] ('/' :: rest) rfl (.inr rfl)
      rwa [List.append_nil] at hdone
    · intro before after hsplit hend
      have hrest := h (c :: before) after (congrArg (c :: ·) hsplit) hend
      rwa [List.append_cons] at hrest
  · rintro ⟨hslash, hrest⟩ before after hsplit hend
    cases before with
    | nil =>
        -- What comes after is the whole text, which begins with `c`.
        rw [List.nil_append] at hsplit
        subst hsplit
        rw [List.append_nil]
        rcases hend with hend | hend
        · cases hend
        · exact hslash (Option.some.inj hend)
    | cons c' before =>
        rcases List.cons.inj hsplit with ⟨rfl, hsplit'⟩
        rw [List.append_cons]
        exact hrest before after hsplit' hend

/-- Whether a text protects the character after it. -/
def guardsNext (text : List Char) : Bool :=
  !decide (Even (trailingBackslashes text))

theorem guardsNext_concat (text : List Char) (c : Char) :
    guardsNext (text ++ [c]) = (decide (c = '\\') && !guardsNext text) := by
  unfold guardsNext
  rw [trailingBackslashes_concat]
  by_cases hc : c = '\\'
  · rw [if_pos hc, decide_eq_true hc, Bool.true_and, Bool.not_not]
    simp only [Nat.even_add_one, decide_not, Bool.not_not]
  · simp [hc]

/-- What comes after some text makes a body if no line ends in it and the backslashes stand
    in pairs. -/
theorem closes_iff (rest : List Char) :
    ∀ done, closes (guardsNext done) rest = true ↔
      (∀ c ∈ rest, isLineEnd c = false) ∧ PairedRuns done rest := by
  induction rest with
  | nil =>
      intro done
      rw [pairedRuns_nil, and_iff_right (List.forall_mem_nil _), closes, guardsNext]
      simp
  | cons c rest ih =>
      intro done
      rw [closes, ← guardsNext_concat, Bool.and_eq_true, Bool.and_eq_true, ih (done ++ [c]),
        pairedRuns_cons, List.forall_mem_cons]
      have hslash : (!(decide (c = '/') && guardsNext done)) = true ↔
          (c = '/' → Even (trailingBackslashes done)) := by
        simp [guardsNext, imp_iff_not_or]
      rw [hslash, Bool.not_eq_true']
      tauto

/-! ### Escaped texts -/

theorem ne_slash_of_isMeta {c : Char} (h : RegexPattern.isMeta c = true) : c ≠ '/' := by
  rintro rfl
  exact absurd h (by decide)

theorem ne_backslash_of_not_isMeta {c : Char} (h : RegexPattern.isMeta c = false) : c ≠ '\\' := by
  rintro rfl
  exact absurd h (by decide)

/-- A text with a backslash before every character with a meaning of its own. -/
def escape (text : List Char) : List Char :=
  guardEach RegexPattern.isMeta text

/-- The backslashes of an escaped text stand in pairs, so only its line ends do harm. -/
theorem closes_escape (text suffix : List Char) :
    closes false (escape text ++ suffix) =
      (text.all (fun c => !isLineEnd c) && closes false suffix) := by
  induction text with
  | nil => rfl
  | cons c rest ih =>
      unfold escape at ih ⊢
      rw [guardEach_cons, List.append_assoc, List.all_cons, Bool.and_assoc, ← ih]
      cases hmeta : RegexPattern.isMeta c with
      | true =>
          -- A character with a meaning stands behind a backslash and protects nothing.
          rw [if_pos rfl, List.cons_append, List.singleton_append, closes, closes]
          simp [ne_slash_of_isMeta hmeta, isLineEnd]
      | false =>
          -- A slash is no such character, and what is none is no backslash.
          rw [if_neg Bool.false_ne_true, List.singleton_append, closes]
          simp [ne_backslash_of_not_isMeta hmeta]

end Script

/-! ### Tests of a field -/

/-- The texts for which the literal of a test ends where it is meant to: they hold no line end,
    there is something to search for, and what is given as an expression has its backslashes
    in pairs. -/
structure Method.Closes (method : Method) (text : String) : Prop where
  lines : ∀ c ∈ text.toList, Script.isLineEnd c = false
  nonempty : method = .contains ∨ method = .isMatch → text ≠ ""
  paired : method = .isMatch → Script.PairedRuns [] text.toList

namespace Script

/-- The calls that are written as the test of a field by a text. Further arguments are not
    looked at. -/
inductive IsTest (f : FieldRef) : Method → String → Expr → Prop
  | startsWith (text : String) (more : List Expr) : IsTest f .startsWith text
      (.call .startsWith (some (.field f)) (.constant (.string text) :: more))
  | endsWith (text : String) (more : List Expr) : IsTest f .endsWith text
      (.call .endsWith (some (.field f)) (.constant (.string text) :: more))
  | contains (text : String) (more : List Expr) : IsTest f .contains text
      (.call .contains (some (.field f)) (.constant (.string text) :: more))
  | isMatch (pattern : String) (more : List Expr) : IsTest f .isMatch pattern
      (.call .isMatch none (.field f :: .constant (.string pattern) :: more))

/-- The regular expression of a test. -/
def expression (method : Method) (text : String) : String :=
  if method = .isMatch then text else method.pattern text

theorem IsTest.script_eq {f : FieldRef} {method : Method} {text : String} {e : Expr}
    (h : IsTest f method text e) : e.script = .ok (test (expression method text) f) := by
  cases h <;> rfl

theorem toList_escaped (text : String) :
    (RegexPattern.escaped text).toList = escape text.toList := by
  unfold RegexPattern.escaped escape guardEach
  rw [String.toList_ofList]

theorem toList_startsWith (text : String) :
    (expression .startsWith text).toList = '^' :: escape text.toList := by
  rw [← toList_escaped]
  exact String.toList_append

theorem toList_endsWith (text : String) :
    (expression .endsWith text).toList = escape text.toList ++ ['$'] := by
  rw [← toList_escaped]
  exact String.toList_append

theorem toList_contains (text : String) :
    (expression .contains text).toList = escape text.toList :=
  toList_escaped text

theorem closes_caret (text : List Char) : closes false ('^' :: text) = closes false text := by
  rfl

/-- The expression of a search makes a body unless there is a line end in its text. -/
theorem closes_searched {f : FieldRef} {method : Method} {text : String} {e : Expr}
    (h : IsTest f method text e) (hsearch : method ≠ .isMatch) :
    closes false (expression method text).toList = text.toList.all fun c => !isLineEnd c := by
  have hplain := closes_escape text.toList []
  rw [List.append_nil] at hplain
  cases h with
  | startsWith more =>
      rw [toList_startsWith, closes_caret, hplain]
      exact Bool.and_true _
  | endsWith more =>
      rw [toList_endsWith, closes_escape]
      exact Bool.and_true _
  | contains more =>
      rw [toList_contains, hplain]
      exact Bool.and_true _
  | isMatch more => exact absurd rfl hsearch

/-- There is something in the expression of a test unless the text itself is searched for or
    is the expression. -/
theorem IsTest.nonempty_iff {f : FieldRef} {method : Method} {text : String} {e : Expr}
    (h : IsTest f method text e) : (expression method text).toList ≠ [] ↔
      (method = .contains ∨ method = .isMatch → text ≠ "") := by
  have htext : text.toList ≠ [] ↔ text ≠ "" := not_congr String.toList_eq_nil_iff
  cases h with
  | startsWith more =>
      rw [toList_startsWith]
      simp
  | endsWith more =>
      rw [toList_endsWith]
      simp
  | contains more =>
      rw [toList_contains, escape, ne_eq, guardEach_eq_nil]
      simp
  | isMatch more => exact ⟨fun h _ => htext.mp h, fun h => htext.mpr (h (.inr rfl))⟩

/-- The tests whose expressions make a body with something in it. -/
theorem IsTest.closes_iff {f : FieldRef} {method : Method} {text : String} {e : Expr}
    (h : IsTest f method text e) :
    ((expression method text).toList ≠ [] ∧ closes false (expression method text).toList = true) ↔
      method.Closes text := by
  have hcloses : closes false (expression method text).toList = true ↔
      (∀ c ∈ text.toList, isLineEnd c = false) ∧
        (method = .isMatch → PairedRuns [] text.toList) := by
    by_cases hmethod : method = .isMatch
    · subst hmethod
      have hwhole := Script.closes_iff text.toList []
      exact hwhole.trans (and_congr_right fun _ => ⟨fun h _ => h, fun h => h rfl⟩)
    · rw [closes_searched h hmethod, List.all_eq_true]
      simp [hmethod]
  rw [h.nonempty_iff, hcloses]
  exact ⟨fun ⟨hempty, hlines, hpaired⟩ => ⟨hlines, hempty, hpaired⟩,
    fun ⟨hlines, hempty, hpaired⟩ => ⟨hempty, hlines, hpaired⟩⟩

/-- What is written for a test is a slash, a body, a slash and the call on the field, and a
    reader of the script takes the literal to end at that slash exactly if the text closes. -/
theorem regexLiteral_read_iff {f : FieldRef} {method : Method} {text : String} {e : Expr}
    (h : IsTest f method text e) :
    ∃ body, e.script = .ok ("/" ++ body ++ "/" ++ (".test(" ++ field f ++ ")")) ∧
      ∀ after, literal? ("/" ++ body ++ "/" ++ (".test(" ++ field f ++ ")" ++ after)).toList =
          some (body.toList, (".test(" ++ field f ++ ")" ++ after).toList) ↔
        method.Closes text := by
  refine ⟨String.ofList (guardSlashes (expression method text).toList), ?_, fun after => ?_⟩
  · rw [h.script_eq, test, regexLiteral_eq]
    simp only [String.append_assoc]
  · have hread := literal?_eq_iff (guardSlashes (expression method text).toList)
      (".test(" ++ field f ++ ")" ++ after).toList
    rw [isBody_guardSlashes, guardSlashes, ne_eq, guardEach_eq_nil, ← ne_eq, h.closes_iff] at hread
    have hslash : "/".toList = ['/'] := rfl
    have hwhole (body after : String) :
        ("/" ++ body ++ "/" ++ after).toList = '/' :: (body.toList ++ '/' :: after.toList) := by
      rw [String.toList_append, String.toList_append, String.toList_append, hslash,
        List.append_assoc, List.append_assoc]
      rfl
    rw [hwhole, String.toList_ofList]
    exact hread

namespace Paths

def path : FieldRef :=
  ⟨"t0", "Path"⟩

/-- A test by an expression with a slash that nothing protects. -/
def below : Expr :=
  .call .isMatch none [.field path, .constant (.string "^a/b")]

theorem below_read :
    IsTest path .isMatch "^a/b" below ∧ Method.Closes .isMatch "^a/b" ∧
      ∃ body, below.script = .ok ("/" ++ body ++ "/" ++ (".test(" ++ field path ++ ")")) ∧
        ∀ after, literal? ("/" ++ body ++ "/" ++ (".test(" ++ field path ++ ")" ++ after)).toList =
          some (body.toList, (".test(" ++ field path ++ ")" ++ after).toList) := by
  have htest : IsTest path .isMatch "^a/b" below := .isMatch "^a/b" []
  have hcloses : Method.Closes .isMatch "^a/b" := by
    rcases (closes_iff "^a/b".toList []).mp (by decide) with ⟨hlines, hpaired⟩
    exact ⟨hlines, fun _ => by decide, fun _ => hpaired⟩
  rcases regexLiteral_read_iff htest with ⟨body, hbody, hread⟩
  exact ⟨htest, hcloses, body, hbody, fun after => (hread after).mpr hcloses⟩

/-- The same test by an expression whose slash has a backslash already. -/
def guardedBelow : Expr :=
  .call .isMatch none [.field path, .constant (.string "^a\\/b")]

/-- The backslash that is added protects the one that is there, and the literal ends within
    the expression. -/
theorem guardedBelow_cut_short :
    guardedBelow.script = .ok "/^a\\\\/b/.test(this.Path)" ∧
      literal? "/^a\\\\/b/.test(this.Path)".toList =
        some ("^a\\\\".toList, "b/.test(this.Path)".toList) := by
  constructor
  · rfl
  · rfl

end Paths

end Script

end DocumentMapper
