import DocumentMapper.Proofs.Data.Except
import DocumentMapper.Proofs.Text.Pieces
import DocumentMapper.Proofs.Wire.Reads

/-!
# How bytes arrive

Deliveries cut the bytes of a source anywhere, and a reader that counts its bytes and
checks sizes against the count must not notice. What is taken byte by byte or by a number
of bytes is the same for all deliveries (`Source.take_eq`). Texts are the exception: a
fill brings what a delivery brings, and where a fill ends decides what is decoded then
and when malformed bytes are met.

So the outcome of each of the two loops over a text is computed from the bytes to come
alone. For a text of given length it is the same for all deliveries and all buffers, down
to the failure: all bytes that come are read before their end is met, and whether they
can be read does not depend on the cuts (`textFrom_matches`). A name ends at a zero byte.
If there is one, the outcome does not depend on the buffer (`keyFrom_matches`). If there
is none, the name fails either way, but a small buffer may find malformed bytes before
the end is met, where a large one would not have looked yet.

Therefore two readers are compared up to a relation between failures (`Agree`): equality
where they have the same buffer, and any where they have not. Everything but the texts is
the same argument for both.

## Main definitions

* `Cursor.Alike`: Two cursors that stand at the same place before the same bytes.
* `Decoder.Matches`, `Decoder.Agree`: Outcomes and decoders that differ in failures only.
* `Decoder.textOutcome`, `Decoder.keyOutcome`: The outcomes of the loops over texts.

## Theorems

* `agree_bind`: Decoders that agree one after another.
* `agree_bytes`: Bytes do not depend on deliveries.
* `textFrom_matches`, `keyFrom_matches`: Texts of given length, and names.
* `agree_documentWithin`, `agree_fieldsWithin`, `agree_valueWithin`: One step of two readers.
* `agree_within`: Documents, fields and values, if texts agree.
* `read_does_not_depend_on_arrival`: Two readers of the same bytes.
-/

namespace DocumentMapper

/-- Two cursors that stand at the same place before the same bytes. -/
structure Cursor.Alike (c c' : Cursor) : Prop where
  pending : c.source.pending = c'.source.pending
  position : c.position = c'.position

namespace Decoder

variable {α β : Type} {R : CodecError → CodecError → Prop}

/-- Two outcomes that differ at most in their failures and in the deliveries to come. -/
inductive Matches (R : CodecError → CodecError → Prop) :
    Except CodecError (α × Cursor) → Except CodecError (α × Cursor) → Prop where
  | ok {a : α} {c c' : Cursor} (alike : c.Alike c') : Matches R (.ok (a, c)) (.ok (a, c'))
  | error {e e' : CodecError} (related : R e e') : Matches R (.error e) (.error e')

/-- Two decoders that have matching outcomes whatever deliveries there are. -/
def Agree (R : CodecError → CodecError → Prop) (m m' : Decoder α) : Prop :=
  ∀ c c' : Cursor, c.Alike c' → Matches R (m.run c) (m'.run c')

/-- Two outcomes match if both match a third one. -/
theorem Matches.join {x y z : Except CodecError (α × Cursor)}
    (hR : ∀ {e e' e''}, R e e'' → R e' e'' → R e e') (h : Matches R x z) (h' : Matches R y z) :
    Matches R x y := by
  cases h with
  | ok alike =>
      cases h' with
      | ok alike' =>
          exact .ok ⟨alike.pending.trans alike'.pending.symm,
            alike.position.trans alike'.position.symm⟩
  | error related =>
      cases h' with
      | error related' => exact .error (hR related related')

theorem Matches.mono {S : CodecError → CodecError → Prop} {x y : Except CodecError (α × Cursor)}
    (h : Matches R x y) (hS : ∀ {e e'}, R e e' → S e e') : Matches S x y := by
  cases h with
  | ok alike => exact .ok alike
  | error related => exact .error (hS related)

/-! ### Decoders that agree -/

theorem agree_pure (a : α) : Agree R (pure a) (pure a) :=
  fun _ _ h => .ok h

theorem agree_throw {e e' : CodecError} (h : R e e') :
    Agree R (throw e : Decoder α) (throw e') :=
  fun _ _ _ => .error h

theorem agree_bind {m m' : Decoder α} {f f' : α → Decoder β} (hm : Agree R m m')
    (hf : ∀ a, Agree R (f a) (f' a)) : Agree R (m >>= f) (m' >>= f') := by
  intro c c' h
  have hrun := hm c c' h
  rw [StateT.run_bind, StateT.run_bind]
  generalize m.run c = first at hrun ⊢
  generalize m'.run c' = first' at hrun ⊢
  cases hrun with
  | ok alike => exact hf _ _ _ alike
  | error related => exact .error related

theorem agree_map {m m' : Decoder α} (f : α → β) (hm : Agree R m m') :
    Agree R (do return f (← m)) (do return f (← m')) :=
  agree_bind hm fun a => agree_pure (f a)

/-- Refusing under a condition that does not depend on the deliveries. -/
theorem agree_refuse {p : Prop} [Decidable p] {e e' : CodecError} {f f' : α → Decoder β}
    {m m' : Decoder β} (he : R e e') (hm : Agree R m m') :
    Agree R (if p then throw e >>= f else m) (if p then throw e' >>= f' else m') := by
  by_cases hp : p
  · rw [if_pos hp, if_pos hp]
    exact fun _ _ _ => .error he
  · rw [if_neg hp, if_neg hp]
    exact hm

/-- A number of steps computed from the bytes to come is the same for both. -/
theorem agree_pending {f g : Nat → Decoder α} (h : ∀ n, Agree R (f n) (g n)) :
    Agree R (do let cursor ← get; f cursor.source.pending.length)
      (do let cursor ← get; g cursor.source.pending.length) := by
  intro c c' halike
  have hrun := h c.source.pending.length c c' halike
  simp only [StateT.run_bind, StateT.run_get, pure_bind]
  rw [← halike.pending]
  exact hrun

theorem agree_position : Agree R position position := by
  intro c c' h
  have hposition := h.position
  unfold position
  simp only [StateT.run_bind, StateT.run_get, pure_bind, hposition]
  exact .ok h

section Scalars

variable (hR : ∀ e, R e e)

include hR

theorem agree_bytes (count : Nat) : Agree R (bytes count) (bytes count) := by
  intro c c' h
  -- Both take the same bytes, and what is left to come is the same.
  rcases c.source.take_eq count with ⟨final, htake, hfinal⟩
  rcases c'.source.take_eq count with ⟨final', htake', hfinal'⟩
  rw [← h.pending] at htake' hfinal'
  unfold bytes
  simp only [StateT.run_bind, StateT.run_get, pure_bind, htake, htake']
  by_cases hshort : (c.source.pending.take count).length < count
  · simp only [if_pos hshort]
    exact .error (hR _)
  · simp only [if_neg hshort]
    exact .ok ⟨hfinal.trans hfinal'.symm, congrArg (· + count) h.position⟩

theorem agree_byte : Agree R byte byte :=
  agree_map _ (agree_bytes hR 1)

theorem agree_int32 : Agree R int32 int32 :=
  agree_map _ (agree_bytes hR 4)

theorem agree_int64 : Agree R int64 int64 :=
  agree_map _ (agree_bytes hR 8)

theorem agree_binaryLength : Agree R binaryLength binaryLength := by
  unfold binaryLength
  refine agree_bind (agree_int32 hR) fun length => ?_
  exact agree_refuse (hR _) (agree_pure _)

theorem agree_binary : Agree R binary binary := by
  unfold binary
  refine agree_bind (agree_binaryLength hR) fun length => ?_
  refine agree_bind (agree_byte hR) fun subtype => ?_
  dsimp only
  by_cases hgeneral : BinarySubtype.ofCode subtype = .general
  · simp only [if_pos hgeneral]
    refine agree_bind (agree_binaryLength hR) fun inner => ?_
    exact agree_map _ (agree_bytes hR inner)
  · simp only [if_neg hgeneral]
    exact agree_bind (agree_pure length) fun length => agree_map _ (agree_bytes hR length)

theorem agree_instant : Agree R instant instant := by
  unfold instant
  refine agree_bind (agree_int64 hR) fun millis => ?_
  cases Instant.ofMillis? millis.toInt with
  | none => exact agree_throw (hR _)
  | some t => exact agree_pure _

theorem agree_objectId : Agree R objectId objectId := by
  unfold objectId
  refine agree_bind (agree_bytes hR 12) fun id => ?_
  cases vectorOfList? 12 id with
  | none => exact agree_throw (hR _)
  | some id => exact agree_pure _

/-- Texts agree if what stands behind their lengths does. -/
theorem agree_text {options options' : CodecOptions}
    (h : ∀ length, Agree R (textOfLength options length) (textOfLength options' length)) :
    Agree R (text options) (text options') := by
  unfold text
  refine agree_bind (agree_int32 hR) fun length => ?_
  refine agree_refuse (hR _) (agree_bind (h _) fun s => ?_)
  exact agree_bind (agree_byte hR) fun _ => agree_pure s

end Scalars

/-! ### Texts of given length -/

/-- The outcome of reading `missing` more bytes of a text, of which `held` are there
    already, for the bytes to come. -/
def textOutcome (held pending : List UInt8) (missing : Nat) (text : String) (start : Nat) :
    Except CodecError (String × Cursor) :=
  match Utf8.cut? (held ++ pending.take missing) with
  | none => .error .invalidUtf8
  | some (s, part) =>
    if pending.length < missing then .error .unexpectedEnd
    else if part.isEmpty then
      .ok (text ++ s, ⟨Source.ofBytes (pending.drop missing), start + missing⟩)
    else .error .invalidUtf8

/-- A fill is decoded as far as it is complete, and the rest is held. -/
theorem textOutcome_fill {held fill rest : List UInt8} {missing : Nat} (text : String) (start : Nat)
    (hfill : fill.length ≤ missing) :
    textOutcome held (fill ++ rest) missing text start =
      match Utf8.cut? (held ++ fill) with
      | none => .error .invalidUtf8
      | some (s, part) =>
        textOutcome part rest (missing - fill.length) (text ++ s) (start + fill.length) := by
  have htake : (fill ++ rest).take missing = fill ++ rest.take (missing - fill.length) := by
    rw [List.take_append, List.take_of_length_le hfill]
  have hdrop : (fill ++ rest).drop missing = rest.drop (missing - fill.length) := by
    rw [List.drop_append, List.drop_of_length_le hfill, List.nil_append]
  -- The end of the source comes too soon before the fill iff it does after it.
  have hend : (fill ++ rest).length < missing ↔ rest.length < missing - fill.length := by
    rw [List.length_append]
    omega
  have hplace : start + fill.length + (missing - fill.length) = start + missing := by omega
  unfold textOutcome
  rw [htake, hdrop, ← List.append_assoc, Utf8.cut?_append]
  cases Utf8.cut? (held ++ fill) with
  | none => rfl
  | some first =>
      dsimp only [Option.bind_some]
      rw [hplace]
      cases Utf8.cut? (first.2 ++ rest.take (missing - fill.length)) with
      | none => rfl
      | some second =>
          dsimp only [Option.map_some]
          simp only [hend, String.append_assoc]

theorem cut?_of_isPartial {part : List UInt8} (h : Utf8.IsPartial part) :
    Utf8.cut? part = some ("", part) := by
  refine Utf8.cut?_eq_some.mpr ⟨?_, h⟩
  rw [Utf8.encode_empty, List.nil_append]

/-- If no more bytes are missing, the text is complete where no character is. -/
theorem textOutcome_zero {held : List UInt8} (h : Utf8.IsPartial held) (pending : List UInt8)
    (text : String) (start : Nat) :
    textOutcome held pending 0 text start =
      if held.isEmpty then .ok (text, ⟨Source.ofBytes pending, start⟩)
      else .error .invalidUtf8 := by
  unfold textOutcome
  rw [List.take_zero, List.append_nil, cut?_of_isPartial h]
  simp

/-- Missing bytes that do not come are missed before what is held is looked at. -/
theorem textOutcome_end {held : List UInt8} (h : Utf8.IsPartial held) {missing : Nat}
    (hmissing : missing ≠ 0) (text : String) (start : Nat) :
    textOutcome held [] missing text start = .error .unexpectedEnd := by
  unfold textOutcome
  rw [List.take_nil, List.append_nil, cut?_of_isPartial h]
  exact if_pos (Nat.pos_of_ne_zero hmissing)

/-- At the end of the source there is no delivery. -/
theorem delivery_end {count : Nat} (hcount : 0 < count) {source : Source}
    (h : source.pending = []) (start : Nat) :
    (delivery count).run ⟨source, start⟩ = .error .unexpectedEnd := by
  rcases source.read_eq count hcount with ⟨size, final, _, _, hread, _⟩
  rw [h, List.take_nil] at hread
  unfold delivery
  simp only [StateT.run_bind, StateT.run_get, pure_bind, hread]
  rfl

/-- A commit decodes what is complete and does not take bytes. -/
theorem commit_run (carry : Carry) (fill : List UInt8) (c : Cursor) :
    (commit carry fill).run c =
      match Utf8.cut? (carry.held ++ fill) with
      | none => .error .invalidUtf8
      | some (s, part) =>
        .ok (⟨s, Utf8.lastFullCharStop (carry.held ++ fill), { carry with held := part }⟩, c) := by
  unfold commit
  rw [carry.commit?_eq_map]
  cases Utf8.cut? (carry.held ++ fill) with
  | none => rfl
  | some cut => rfl

/-- A text is finished where no character is broken off. -/
theorem finish_matches (carry : Carry) (text : String) {source : Source} {pending : List UInt8}
    (h : source.pending = pending) (start : Nat) :
    Matches Eq ((finish carry text).run ⟨source, start⟩)
      (if carry.held.isEmpty then .ok (text, ⟨Source.ofBytes pending, start⟩)
        else .error .invalidUtf8) := by
  unfold finish Carry.isEmpty
  cases carry.held.isEmpty with
  | true => exact .ok ⟨h, rfl⟩
  | false => exact .error rfl

/-- The loop over a text of given length. It never holds a whole character, so that every
    fill has room for a byte, and as many steps as there are bytes suffice. -/
theorem textFrom_matches (steps : Nat) :
    ∀ (carry : Carry) (source : Source) (missing : Nat) (text : String) (start : Nat),
      source.pending.length < steps → Utf8.IsPartial carry.held →
      Carry.minCapacity ≤ carry.capacity →
      Matches Eq ((textFrom steps carry missing text).run ⟨source, start⟩)
        (textOutcome carry.held source.pending missing text start) := by
  induction steps with
  | zero =>
      intro carry source missing text start hsteps
      exact absurd hsteps (Nat.not_lt_zero _)
  | succ steps ih =>
      intro carry source missing text start hsteps hheld hcapacity
      rw [textFrom]
      by_cases hmissing : missing = 0
      · subst hmissing
        rw [if_pos rfl, textOutcome_zero hheld]
        exact finish_matches carry text rfl start
      · -- Less than a character is held, and every buffer has room for one.
        have hshort := hheld.length_lt
        have hroom : 0 < min carry.room missing := by
          unfold Carry.room
          unfold Carry.minCapacity at hcapacity
          omega
        rw [if_neg hmissing, StateT.run_bind]
        by_cases hpending : source.pending = []
        · rw [delivery_end hroom hpending, hpending, textOutcome_end hheld hmissing]
          exact .error rfl
        · -- Some bytes come: they are decoded with what is held, and the loop goes on.
          rcases delivery_run hroom hpending start with
            ⟨fill, middle, hfill, hle, hmiddle, hdelivery⟩
          have hpos : 0 < fill.length := List.length_pos_iff.mpr hfill
          have hfits : fill.length ≤ missing := Nat.le_trans hle (Nat.min_le_right _ _)
          rw [hmiddle, textOutcome_fill text start hfits, hdelivery]
          change Matches Eq ((commit carry fill >>= fun decoded =>
            textFrom steps decoded.carry (missing - fill.length) (text ++ decoded.text)).run
              ⟨middle, start + fill.length⟩) _
          rw [StateT.run_bind, commit_run]
          cases hcut : Utf8.cut? (carry.held ++ fill) with
          | none => exact .error rfl
          | some cut =>
              rcases cut with ⟨s, part⟩
              rw [hmiddle, List.length_append] at hsteps
              exact ih { carry with held := part } middle (missing - fill.length) (text ++ s)
                (start + fill.length) (by omega) (Utf8.cut?_eq_some.mp hcut).2 hcapacity

/-- The outcome of a text of given length. -/
theorem textOfLength_matches (options : CodecOptions) (length : Nat) (c : Cursor) :
    Matches Eq ((textOfLength options length).run c)
      (textOutcome [] c.source.pending length "" c.position) :=
  textFrom_matches _ (.ofCapacity options.readBufferSize) c.source length "" c.position
    (by omega) (.inl rfl) (Carry.ofCapacity_wellFormed _).2

/-- Texts of given length agree, whatever the buffers are. -/
theorem agree_textOfLength (hR : ∀ e, R e e) (options options' : CodecOptions) (length : Nat) :
    Agree R (textOfLength options length) (textOfLength options' length) := by
  intro c c' h
  have hrun' := textOfLength_matches options' length c'
  rw [← h.pending, ← h.position] at hrun'
  refine ((textOfLength_matches options length c).join ?_ hrun').mono ?_
  · rintro e _ _ rfl rfl
    rfl
  · rintro e _ rfl
    exact hR e

/-! ### Names -/

/-- The outcome of reading on to a zero byte, of which `before` is there already, for the
    bytes to come. -/
def keyOutcome (before pending : List UInt8) (text : String) (start : Nat) :
    Except CodecError (String × Cursor) :=
  match pending.dropWhile (· != 0) with
  | [] => .error .unexpectedEnd
  | _ :: rest =>
    match Utf8.cut? (before ++ pending.takeWhile (· != 0)) with
    | none => .error .invalidUtf8
    | some (s, part) =>
      if part.isEmpty then
        .ok (text ++ s,
          ⟨Source.ofBytes rest, start + (pending.takeWhile (· != 0)).length + 1⟩)
      else .error .invalidUtf8

/-- Before a zero byte all of the name is there. -/
theorem keyOutcome_zero (before pending : List UInt8) (text : String) (start : Nat) :
    keyOutcome before (0 :: pending) text start =
      match Utf8.cut? before with
      | none => .error .invalidUtf8
      | some (s, part) =>
        if part.isEmpty then .ok (text ++ s, ⟨Source.ofBytes pending, start + 1⟩)
        else .error .invalidUtf8 := by
  unfold keyOutcome
  simp

/-- A byte that is not zero belongs to the name. -/
theorem keyOutcome_cons {b : UInt8} (hb : b ≠ 0) (before pending : List UInt8) (text : String)
    (start : Nat) :
    keyOutcome before (b :: pending) text start =
      keyOutcome (before ++ [b]) pending text (start + 1) := by
  have hne : (b != 0) = true := bne_iff_ne.mpr hb
  -- The byte is counted here as one that was taken, and there as one of the name.
  have hplace : start + 1 + (pending.takeWhile (· != 0)).length =
      start + ((pending.takeWhile (· != 0)).length + 1) := by omega
  unfold keyOutcome
  simp only [List.dropWhile_cons, List.takeWhile_cons, hne, if_true, List.append_assoc,
    List.cons_append, List.nil_append, List.length_cons, hplace]

/-- What is there already can be decoded as far as it is complete. -/
theorem keyOutcome_of_cut {before part : List UInt8} {s : String}
    (h : Utf8.cut? before = some (s, part)) (pending : List UInt8) (text : String) (start : Nat) :
    keyOutcome before pending text start = keyOutcome part pending (text ++ s) start := by
  unfold keyOutcome
  rw [Utf8.cut?_append, h]
  -- The characters are decoded in one go or in two; both give the same text.
  cases pending.dropWhile (· != 0) with
  | nil => rfl
  | cons b rest =>
      dsimp only [Option.bind_some]
      cases Utf8.cut? (part ++ pending.takeWhile (· != 0)) with
      | none => rfl
      | some second =>
          dsimp only [Option.map_some]
          simp only [String.append_assoc]

/-- What cannot be decoded is no beginning of a name. -/
theorem keyOutcome_of_cut_eq_none {before : List UInt8} (h : Utf8.cut? before = none)
    (pending : List UInt8) (text : String) (start : Nat) :
    ∃ e, keyOutcome before pending text start = .error e := by
  unfold keyOutcome
  rw [Utf8.cut?_append, h]
  cases pending.dropWhile (· != 0) with
  | nil => exact ⟨_, rfl⟩
  | cons b rest => exact ⟨_, rfl⟩

/-- At a zero byte what is there is decoded, and the name is complete or broken off. -/
theorem keyEnd_matches (carry : Carry) (fill : List UInt8) (text : String) {next : Source}
    {pending : List UInt8} (h : next.pending = pending) (start : Nat) :
    Matches Eq
      ((commit carry fill >>= fun decoded => finish decoded.carry (text ++ decoded.text)).run
        ⟨next, start + 1⟩)
      (keyOutcome (carry.held ++ fill) (0 :: pending) text start) := by
  rw [StateT.run_bind, commit_run, keyOutcome_zero]
  cases Utf8.cut? (carry.held ++ fill) with
  | none => exact .error rfl
  | some cut =>
      rcases cut with ⟨s, part⟩
      exact finish_matches { carry with held := part } (text ++ s) h (start + 1)

/-- The loop over a name. Which of two failures it ends with depends on the buffer, and
    nothing else does. -/
theorem keyFrom_matches (steps : Nat) :
    ∀ (carry : Carry) (fill : List UInt8) (source : Source) (text : String) (start : Nat),
      source.pending.length < steps →
      Matches (fun _ _ => True) ((keyFrom steps carry fill text).run ⟨source, start⟩)
        (keyOutcome (carry.held ++ fill) source.pending text start) := by
  induction steps with
  | zero =>
      intro carry fill source text start hsteps
      exact absurd hsteps (Nat.not_lt_zero _)
  | succ steps ih =>
      intro carry fill source text start hsteps
      rw [keyFrom, StateT.run_bind]
      cases hpending : source.pending with
      | nil =>
          -- The bytes that wait in the buffer are never looked at.
          rw [byte_end hpending]
          exact .error trivial
      | cons b rest =>
          rcases reads_byte start b source rest hpending with ⟨next, hnext, hbyte⟩
          rw [hpending, List.length_cons, ← hnext] at hsteps
          rw [hbyte]
          by_cases hb : b = 0
          · subst hb
            exact (keyEnd_matches carry fill text hnext start).mono fun _ => trivial
          · rw [keyOutcome_cons hb, ← hnext]
            change Matches _ ((if b = 0 then _ else if fill.length + 1 < carry.room then
              keyFrom steps carry (fill ++ [b]) text
              else (commit carry (fill ++ [b]) >>= fun decoded =>
                keyFrom steps decoded.carry [] (text ++ decoded.text))).run ⟨next, start + 1⟩) _
            rw [if_neg hb]
            by_cases hroom : fill.length + 1 < carry.room
            · rw [if_pos hroom, List.append_assoc]
              exact ih carry (fill ++ [b]) next text (start + 1) (by omega)
            · -- The buffer is full: what is decoded now need not be decoded later.
              rw [if_neg hroom, StateT.run_bind, commit_run, List.append_assoc]
              cases hcut : Utf8.cut? (carry.held ++ (fill ++ [b])) with
              | none =>
                  -- Here another buffer may fail for the end of the source instead.
                  rcases keyOutcome_of_cut_eq_none hcut next.pending text (start + 1) with ⟨e, he⟩
                  rw [he]
                  exact .error trivial
              | some cut =>
                  rcases cut with ⟨s, part⟩
                  have hnextRun := ih { carry with held := part } [] next (text ++ s) (start + 1)
                    (by omega)
                  rw [List.append_nil] at hnextRun
                  rw [keyOutcome_of_cut hcut]
                  exact hnextRun

/-- The outcome of a name, up to its failure. -/
theorem key_matches (options : CodecOptions) (c : Cursor) :
    Matches (fun _ _ => True) ((key options).run c)
      (keyOutcome [] c.source.pending "" c.position) :=
  keyFrom_matches _ (.ofCapacity options.readBufferSize) [] c.source "" c.position
    (Nat.lt_succ_self _)

/-- Names agree up to their failures, whatever the buffers are. -/
theorem agree_key (options options' : CodecOptions) :
    Agree (fun _ _ => True) (key options) (key options') := by
  intro c c' h
  have hrun' := key_matches options' c'
  rw [← h.pending, ← h.position] at hrun'
  exact (key_matches options c).join (fun _ _ => trivial) hrun'

/-- From the same place in a fill names agree in their failures as well, since they are
    read byte by byte. -/
theorem agree_keyFrom (hR : ∀ e, R e e) (steps : Nat) :
    ∀ (carry : Carry) (fill : List UInt8) (text : String),
      Agree R (keyFrom steps carry fill text) (keyFrom steps carry fill text) := by
  have hcommit : ∀ carry fill, Agree R (commit carry fill) (commit carry fill) := by
    intro carry fill
    unfold commit
    cases carry.commit? fill with
    | none => exact agree_throw (hR _)
    | some decoded => exact agree_pure decoded
  have hfinish : ∀ carry text, Agree R (finish carry text) (finish carry text) := by
    intro carry text
    unfold finish
    cases carry.isEmpty with
    | true => exact agree_pure text
    | false => exact agree_throw (hR _)
  induction steps with
  | zero => exact fun _ _ _ => agree_throw (hR _)
  | succ steps ih =>
      intro carry fill text
      rw [keyFrom]
      refine agree_bind (agree_byte hR) fun b => ?_
      by_cases hb : b = 0
      · simp only [if_pos hb]
        exact agree_bind (hcommit _ _) fun decoded => hfinish _ _
      · simp only [if_neg hb]
        by_cases hroom : fill.length + 1 < carry.room
        · simp only [if_pos hroom]
          exact ih _ _ _
        · simp only [if_neg hroom]
          exact agree_bind (hcommit _ _) fun decoded => ih _ _ _

/-- Names agree in their failures as well if the buffer is the same. -/
theorem agree_key_self (hR : ∀ e, R e e) (options : CodecOptions) :
    Agree R (key options) (key options) :=
  agree_pending
    (f := fun n => keyFrom (n + 1) (.ofCapacity options.readBufferSize) [] "")
    (g := fun n => keyFrom (n + 1) (.ofCapacity options.readBufferSize) [] "")
    fun n => agree_keyFrom hR (n + 1) (.ofCapacity options.readBufferSize) [] ""

/-! ### Documents -/

section Documents

variable {options options' : CodecOptions} {steps : Nat} (hR : ∀ e, R e e)
  (hmax : options.maxMessageSize = options'.maxMessageSize)
  (hkey : Agree R (key options) (key options')) (htext : Agree R (text options) (text options'))

include hR

include hmax in
theorem agree_documentWithin
    (hfields : ∀ start size document, Agree R (fieldsWithin options steps start size document)
      (fieldsWithin options' steps start size document)) :
    Agree R (documentWithin options (steps + 1)) (documentWithin options' (steps + 1)) := by
  rw [documentWithin, documentWithin, hmax]
  refine agree_bind agree_position fun start => ?_
  refine agree_bind (agree_int32 hR) fun size => ?_
  refine agree_refuse (hR _) (agree_refuse (hR _) ?_)
  refine agree_bind (hfields _ _ _) fun document => ?_
  refine agree_bind (agree_byte hR) fun terminator => ?_
  refine agree_refuse (hR _) (agree_bind agree_position fun place => ?_)
  exact agree_refuse (hR _) (agree_pure document)

include hkey in
/-- Both readers are at the same place, so they go on or stop together. -/
theorem agree_fieldsWithin
    (hvalue : ∀ type, Agree R (valueWithin options steps type) (valueWithin options' steps type))
    (hfields : ∀ start size document, Agree R (fieldsWithin options steps start size document)
      (fieldsWithin options' steps start size document)) (start size : Nat) (document : Document) :
    Agree R (fieldsWithin options (steps + 1) start size document)
      (fieldsWithin options' (steps + 1) start size document) := by
  rw [fieldsWithin, fieldsWithin]
  refine agree_bind agree_position fun place => ?_
  by_cases hmore : place - start + 1 < size
  · simp only [if_pos hmore]
    refine agree_bind (agree_byte hR) fun tag => ?_
    refine agree_bind hkey fun name => ?_
    cases ElementType.ofTag? tag.toInt8 with
    | none => exact agree_throw (hR _)
    | some type => exact agree_bind (hvalue type) fun v => hfields _ _ _
  · simp only [if_neg hmore]
    exact agree_pure document

include hkey htext in
theorem agree_valueWithin
    (hdocument : Agree R (documentWithin options steps) (documentWithin options' steps))
    (type : ElementType) :
    Agree R (valueWithin options (steps + 1) type) (valueWithin options' (steps + 1) type) := by
  cases type with
  | null => exact agree_pure _
  | undefined => exact agree_pure _
  | minKey => exact agree_pure _
  | maxKey => exact agree_pure _
  | boolean => exact agree_map _ (agree_byte hR)
  | int32 => exact agree_map _ (agree_int32 hR)
  | int64 => exact agree_map _ (agree_int64 hR)
  | double => exact agree_map _ (agree_bytes hR 8)
  | instant => exact agree_instant hR
  | objectId => exact agree_objectId hR
  | string => exact agree_map _ htext
  | code => exact agree_map _ htext
  | document => exact agree_map _ hdocument
  | array => exact agree_map _ hdocument
  | pattern => exact agree_bind hkey fun source => agree_map _ hkey
  | codeWithScope =>
      refine agree_bind agree_position fun start => ?_
      refine agree_bind (agree_int32 hR) fun size => ?_
      refine agree_bind htext fun source => ?_
      refine agree_bind hdocument fun scope => ?_
      refine agree_bind agree_position fun place => ?_
      exact agree_refuse (hR _) (agree_pure _)
  | binary => exact agree_binary hR

include hmax hkey htext

/-- The induction is on the steps, which are the same for both readers. -/
theorem agree_within (steps : Nat) :
    Agree R (documentWithin options steps) (documentWithin options' steps) ∧
      (∀ start size document, Agree R (fieldsWithin options steps start size document)
        (fieldsWithin options' steps start size document)) ∧
      ∀ type, Agree R (valueWithin options steps type) (valueWithin options' steps type) := by
  induction steps with
  | zero => exact ⟨agree_throw (hR _), fun _ _ _ => agree_throw (hR _), fun _ => agree_throw (hR _)⟩
  | succ steps ih =>
      rcases ih with ⟨hdocument, hfields, hvalue⟩
      exact ⟨agree_documentWithin hR hmax hfields, agree_fieldsWithin hR hkey hvalue hfields,
        agree_valueWithin hR hkey htext hdocument⟩

/-- Two readers of messages agree if their names and texts do. -/
theorem agree_message : Agree R (message options) (message options') := by
  have hdocument : Agree R (document options) (document options') :=
    agree_pending (f := fun n => documentWithin options (2 * n + 3))
      (g := fun n => documentWithin options' (2 * n + 3))
      fun n => (agree_within hR hmax hkey htext (2 * n + 3)).1
  intro c c' h
  exact hdocument _ _ ⟨h.pending, rfl⟩

end Documents

end Decoder

namespace Document

variable (bytes : List UInt8) (max size size' : Nat) (schedule schedule' : Schedule)

theorem message_matches {R : CodecError → CodecError → Prop}
    (hmessage : Decoder.Agree R (Decoder.message ⟨max, size⟩) (Decoder.message ⟨max, size'⟩)) :
    Decoder.Matches R
      ((Decoder.message ⟨max, size⟩).run ⟨.ofSchedule bytes schedule, 0⟩)
      ((Decoder.message ⟨max, size'⟩).run ⟨.ofSchedule bytes schedule', 0⟩) := by
  have halike : (⟨.ofSchedule bytes schedule, 0⟩ : Cursor).Alike
      ⟨.ofSchedule bytes schedule', 0⟩ := ⟨rfl, rfl⟩
  exact hmessage ⟨.ofSchedule bytes schedule, 0⟩ ⟨.ofSchedule bytes schedule', 0⟩ halike

/-- Two readers of the same bytes that have the same limit either both give the same
    document and count of bytes or both fail, whatever their buffers are and however the
    bytes are delivered to them. With the same buffer they fail in the same way. -/
theorem read_does_not_depend_on_arrival :
    (read ⟨max, size⟩ (.ofSchedule bytes schedule)).toOption =
        (read ⟨max, size'⟩ (.ofSchedule bytes schedule')).toOption ∧
      (size = size' →
        read ⟨max, size⟩ (.ofSchedule bytes schedule) =
          read ⟨max, size'⟩ (.ofSchedule bytes schedule')) := by
  constructor
  · -- A malformed name is noticed at different fills, so here no failures are compared.
    have htext : Decoder.Agree (fun _ _ => True) (Decoder.text ⟨max, size⟩)
        (Decoder.text ⟨max, size'⟩) :=
      Decoder.agree_text (fun _ => trivial) (Decoder.agree_textOfLength (fun _ => trivial) _ _)
    have hmessage : Decoder.Agree (fun _ _ => True) (Decoder.message ⟨max, size⟩)
        (Decoder.message ⟨max, size'⟩) :=
      Decoder.agree_message (fun _ => trivial) rfl (Decoder.agree_key _ _) htext
    have hrun := message_matches bytes max size size' schedule schedule' hmessage
    unfold read
    generalize (Decoder.message ⟨max, size⟩).run _ = outcome at hrun ⊢
    generalize (Decoder.message ⟨max, size'⟩).run _ = outcome' at hrun ⊢
    cases hrun with
    | ok alike => exact congrArg (fun n => some (_, n)) alike.position
    | error _ => rfl
  · rintro rfl
    have htext : Decoder.Agree Eq (Decoder.text ⟨max, size⟩) (Decoder.text ⟨max, size⟩) :=
      Decoder.agree_text (fun _ => rfl) (Decoder.agree_textOfLength (fun _ => rfl) _ _)
    have hmessage : Decoder.Agree Eq (Decoder.message ⟨max, size⟩)
        (Decoder.message ⟨max, size⟩) :=
      Decoder.agree_message (fun _ => rfl) rfl (Decoder.agree_key_self (fun _ => rfl) _) htext
    have hrun := message_matches bytes max size size schedule schedule' hmessage
    unfold read
    generalize (Decoder.message ⟨max, size⟩).run ⟨.ofSchedule bytes schedule, 0⟩ = outcome
      at hrun ⊢
    generalize (Decoder.message ⟨max, size⟩).run ⟨.ofSchedule bytes schedule', 0⟩ = outcome'
      at hrun ⊢
    cases hrun with
    | ok alike => exact congrArg (fun n => Except.ok (_, n)) alike.position
    | error related => exact congrArg Except.error related

/-- A text with a broken character, read with the smallest buffer: what comes in one piece
    and what comes byte by byte, every attempt interrupted once, fail in the same way. -/
theorem broken_text_fails_alike :
    let bytes : List UInt8 := [15, 0, 0, 0, 2, 110, 0, 3, 0, 0, 0, 195, 40, 0, 0]
    0 = 0 ∧
      read ⟨64, 0⟩ (.ofSchedule bytes fun _ => ⟨0, 15⟩) = .error .invalidUtf8 ∧
      read ⟨64, 0⟩ (.ofSchedule bytes fun _ => ⟨1, 1⟩) = .error .invalidUtf8 := by
  intro bytes
  have hfast : read ⟨64, 0⟩ (.ofSchedule bytes fun _ => ⟨0, 15⟩) = .error .invalidUtf8 :=
    Except.eq_error_of_map (f := fun _ => ()) (by decide +kernel)
  have halike := (read_does_not_depend_on_arrival bytes 64 0 0 (fun _ => ⟨0, 15⟩)
    (fun _ => ⟨1, 1⟩)).2 rfl
  exact ⟨rfl, hfast, halike.symm.trans hfast⟩

end Document

end DocumentMapper
