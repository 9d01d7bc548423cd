import DocumentMapper.Proofs.Text.Utf8
import DocumentMapper.Proofs.Wire.Emission
import DocumentMapper.Proofs.Wire.Source
import DocumentMapper.Wire.Reader

/-!
# Bytes, names and texts

`Reads m start bytes a` says that the decoder `m`, standing `start` bytes behind the
beginning, takes exactly `bytes` and returns `a`, whatever follows them and however
the source cuts them into deliveries. Reading one part after another is then
concatenation of their bytes.

Names and texts are the forms for which the cut matters. Both loops keep that the bytes
held back, the fill so far and the bytes to come are the bytes of the text that is still
missing, so that the text decoded so far and that rest are always the whole. For a text
of given length the loop must also advance, and for that its buffer must have room: it
never holds back a whole character.

## Main definitions

* `Decoder.Reads`: A decoder takes given bytes and returns a value.

## Theorems

* `reads_pure`, `reads_bind`: Decoders in sequence.
* `reads_bytes`, `reads_byte`: Bytes.
* `bytes_short`, `byte_end`: Fewer bytes than are wanted.
* `reads_keyFrom`, `reads_key`: A name or pattern, up to its zero byte.
* `textFrom_run`, `reads_textOfLength`: A text of given length.
-/

namespace DocumentMapper

namespace Decoder

/-- Standing at `start`, the decoder takes exactly these bytes and returns the value,
    for every source of them. -/
def Reads {α : Type} (m : Decoder α) (start : Nat) (bytes : List UInt8) (a : α) : Prop :=
  ∀ (source : Source) (rest : List UInt8), source.pending = bytes ++ rest →
    ∃ final : Source, final.pending = rest ∧
      m.run ⟨source, start⟩ = .ok (a, ⟨final, start + bytes.length⟩)

variable {α β : Type}

theorem reads_pure (start : Nat) (a : α) : Reads (pure a) start [] a := by
  intro source rest h
  exact ⟨source, h, rfl⟩

theorem reads_bind {m : Decoder α} {f : α → Decoder β} {start : Nat} {xs ys : List UInt8} {a : α}
    {b : β} (hm : Reads m start xs a) (hf : Reads (f a) (start + xs.length) ys b) :
    Reads (m >>= f) start (xs ++ ys) b := by
  intro source rest h
  rw [List.append_assoc] at h
  rcases hm source (ys ++ rest) h with ⟨middle, hmiddle, hrun⟩
  rcases hf middle rest hmiddle with ⟨final, hfinal, hrun'⟩
  refine ⟨final, hfinal, ?_⟩
  rw [StateT.run_bind, hrun, List.length_append, ← Nat.add_assoc]
  exact hrun'

/-- Reading on after what takes no bytes. -/
theorem reads_bind_nil {m : Decoder α} {f : α → Decoder β} {start : Nat} {ys : List UInt8} {a : α}
    {b : β} (hm : Reads m start [] a) (hf : Reads (f a) start ys b) :
    Reads (m >>= f) start ys b :=
  reads_bind hm hf

/-- A last step that computes the result. -/
theorem reads_map {m : Decoder α} {start : Nat} {bytes : List UInt8} {a : α} (f : α → β)
    (hm : Reads m start bytes a) : Reads (do return f (← m)) start bytes (f a) := by
  have h := reads_bind (f := fun a => pure (f a)) hm (reads_pure (start + bytes.length) (f a))
  rw [List.append_nil] at h
  exact h

theorem reads_bytes (start : Nat) (xs : List UInt8) {count : Nat} (hcount : xs.length = count) :
    Reads (bytes count) start xs xs := by
  intro source rest h
  rcases source.take_eq count with ⟨final, htake, hfinal⟩
  rw [h, ← hcount, List.take_left] at htake
  rw [h, ← hcount, List.drop_left] at hfinal
  refine ⟨final, hfinal, ?_⟩
  unfold bytes
  simp only [StateT.run_bind, StateT.run_get, pure_bind, ← hcount, htake]
  rw [if_neg (Nat.lt_irrefl _)]
  rfl

theorem bytes_short {count : Nat} {source : Source} (h : source.pending.length < count)
    (start : Nat) : (bytes count).run ⟨source, start⟩ = .error .unexpectedEnd := by
  rcases source.take_eq count with ⟨final, htake, _⟩
  have hshort : (source.pending.take count).length < count := by
    rw [List.length_take]
    omega
  unfold bytes
  simp only [StateT.run_bind, StateT.run_get, pure_bind, htake, if_pos hshort]
  rfl

theorem reads_byte (start : Nat) (b : UInt8) : Reads byte start [b] b :=
  reads_map (fun xs : List UInt8 => xs.headD 0) (reads_bytes start [b] rfl)

theorem byte_end {source : Source} (h : source.pending = []) (start : Nat) :
    byte.run ⟨source, start⟩ = .error .unexpectedEnd := by
  have hshort : (bytes 1).run ⟨source, start⟩ = .error .unexpectedEnd :=
    bytes_short (by rw [h]; exact Nat.one_pos) start
  unfold byte
  rw [StateT.run_bind, hshort]
  rfl

/-- Reading on after one byte. -/
theorem reads_byte_bind {f : UInt8 → Decoder β} {start : Nat} {ys : List UInt8} {b : UInt8} {c : β}
    (hf : Reads (f b) (start + 1) ys c) : Reads (byte >>= f) start (b :: ys) c :=
  reads_bind (reads_byte start b) hf

/-! ### Names -/

/-- Where nothing is held back and no byte is missing, the text is complete. -/
theorem eq_empty_of_encode {held : List UInt8} {rest : String}
    (h : held ++ [] = Utf8.encode rest) (hheld : held = []) : rest = "" := by
  refine Utf8.encode_injective ?_
  rw [← h, hheld, Utf8.encode_empty, List.append_nil]

theorem reads_commit (start : Nat) {carry : Carry} {fill : List UInt8} {d : Carry.Decoded}
    (h : carry.commit? fill = some d) : Reads (commit carry fill) start [] d := by
  unfold commit
  rw [h]
  exact reads_pure start d

theorem reads_finish (start : Nat) {carry : Carry} (text : String) (h : carry.held = []) :
    Reads (finish carry text) start [] text := by
  unfold finish Carry.isEmpty
  rw [h]
  exact reads_pure start text

/-- The loop over a name keeps that the held bytes, the fill and the bytes to come are
    the bytes of the missing text. -/
theorem reads_keyFrom (bytes : List UInt8) :
    ∀ (steps : Nat) (carry : Carry) (fill : List UInt8) (text missing : String) (start : Nat),
      bytes.length < steps → 0 ∉ bytes → carry.held ++ fill ++ bytes = Utf8.encode missing →
      Reads (keyFrom steps carry fill text) start (bytes ++ [0]) (text ++ missing) := by
  induction bytes with
  | nil =>
      intro steps carry fill text missing start hsteps _ hbytes
      rcases carry.commit?_of_encode fill [] missing hbytes with
        ⟨d, rest, hcommit, hmissing, hrest, _, _, hend⟩
      have hheld := hend rfl
      rw [eq_empty_of_encode hrest hheld, String.append_empty] at hmissing
      cases steps with
      | zero => exact absurd hsteps (Nat.not_lt_zero _)
      | succ steps =>
          rw [keyFrom, hmissing]
          refine reads_byte_bind ?_
          rw [if_pos rfl]
          exact reads_bind_nil (reads_commit _ hcommit) (reads_finish _ _ hheld)
  | cons b bytes ih =>
      intro steps carry fill text missing start hsteps hzero hbytes
      have hb : b ≠ 0 := fun hc => hzero (by rw [hc]; exact List.mem_cons_self)
      have hzero' : 0 ∉ bytes := fun hc => hzero (List.mem_cons_of_mem b hc)
      have hfill : carry.held ++ (fill ++ [b]) ++ bytes = Utf8.encode missing := by
        rw [← hbytes]
        simp only [List.append_assoc, List.cons_append, List.nil_append]
      rw [List.length_cons] at hsteps
      cases steps with
      | zero => exact absurd hsteps (Nat.not_lt_zero _)
      | succ steps =>
          rw [keyFrom]
          refine reads_byte_bind ?_
          rw [if_neg hb]
          by_cases hroom : fill.length + 1 < carry.room
          · rw [if_pos hroom]
            exact ih steps carry (fill ++ [b]) text missing _ (by omega) hzero' hfill
          · -- The buffer is full: what is decoded leaves the missing text.
            rw [if_neg hroom]
            rcases carry.commit?_of_encode (fill ++ [b]) bytes missing hfill with
              ⟨d, rest, hcommit, hmissing, hrest, _, _, _⟩
            refine reads_bind_nil (reads_commit _ hcommit) ?_
            rw [hmissing, ← String.append_assoc]
            refine ih steps d.carry [] (text ++ d.text) rest _ (by omega) hzero' ?_
            rw [List.append_nil, hrest]

theorem reads_key (options : CodecOptions) (start : Nat) {s : String} (hs : NulFree s) :
    Reads (key options) start (Utf8.encode s ++ [0]) s := by
  intro source rest h
  have hloop := reads_keyFrom (Utf8.encode s) (source.pending.length + 1)
    (.ofCapacity options.readBufferSize) [] "" s start ?_ hs rfl source rest h
  · rw [String.empty_append] at hloop
    exact hloop
  · rw [h, List.length_append, List.length_append]
    omega

/-! ### Texts -/

/-- A delivery brings a part of the pending bytes. -/
theorem delivery_run {count : Nat} (hcount : 0 < count) {source : Source}
    (h : source.pending ≠ []) (start : Nat) :
    ∃ (fill : List UInt8) (middle : Source), fill ≠ [] ∧ fill.length ≤ count ∧
      source.pending = fill ++ middle.pending ∧
      (delivery count).run ⟨source, start⟩ = .ok (fill, ⟨middle, start + fill.length⟩) := by
  rcases source.read_of_pending count hcount h with ⟨b, fill, middle, hle, hread, hpending⟩
  refine ⟨b :: fill, middle, List.cons_ne_nil b fill, hle, hpending, ?_⟩
  unfold delivery
  simp only [StateT.run_bind, StateT.run_get, pure_bind, hread]
  rfl

/-- The loop over a text of given length. Besides what the other loop keeps, the carry
    holds less than a character, so that every fill brings a byte. -/
theorem textFrom_run (steps : Nat) :
    ∀ (carry : Carry) (bytes : List UInt8) (text missing : String) (start : Nat),
      bytes.length < steps → carry.held ++ bytes = Utf8.encode missing →
      carry.held.length < Carry.minCapacity → Carry.minCapacity ≤ carry.capacity →
      (bytes = [] → carry.held = []) →
      Reads (textFrom steps carry bytes.length text) start bytes (text ++ missing) := by
  induction steps with
  | zero =>
      intro carry bytes text missing start hsteps
      exact absurd hsteps (Nat.not_lt_zero _)
  | succ steps ih =>
      intro carry bytes text missing start hsteps hbytes hheld hcapacity hend source after h
      rw [textFrom]
      by_cases hempty : bytes = []
      · subst hempty
        rw [if_pos List.length_nil, eq_empty_of_encode hbytes (hend rfl), String.append_empty]
        exact reads_finish start text (hend rfl) source after h
      · have hlength : 0 < bytes.length := List.length_pos_iff.mpr hempty
        have hpending : source.pending ≠ [] := by
          rw [h]
          exact List.append_ne_nil_of_left_ne_nil hempty after
        have hroom : 0 < min carry.room bytes.length := by
          unfold Carry.room
          omega
        rw [if_neg (by omega)]
        rcases delivery_run hroom hpending start with
          ⟨fill, middle, hfill, hle, hmiddle, hdelivery⟩
        -- The delivery is not longer than the text, so it is a prefix of it.
        have hprefix : fill <+: bytes :=
          List.prefix_of_prefix_length_le ⟨middle.pending, hmiddle.symm⟩ ⟨after, h.symm⟩
            (by omega)
        rcases hprefix with ⟨more, rfl⟩
        have hrest : middle.pending = more ++ after := by
          rw [h, List.append_assoc] at hmiddle
          exact (List.append_cancel_left hmiddle).symm
        rw [← List.append_assoc] at hbytes
        rcases carry.commit?_of_encode fill more missing hbytes with
          ⟨d, rest, hcommit, hmissing, hheld', hcapacity', hheldLength, hend'⟩
        have hpos : 0 < fill.length := List.length_pos_iff.mpr hfill
        rw [List.length_append] at hsteps
        have hmore : (fill ++ more).length - fill.length = more.length := by
          rw [List.length_append]
          omega
        have hloop := ih d.carry more (text ++ d.text) rest (start + fill.length) (by omega)
          hheld' hheldLength (by omega) hend'
        rcases reads_bind_nil (f := fun decoded : Carry.Decoded =>
            textFrom steps decoded.carry more.length (text ++ decoded.text))
          (reads_commit (start + fill.length) hcommit) hloop middle after hrest with
          ⟨final, hfinal, hrun⟩
        refine ⟨final, hfinal, ?_⟩
        have hplace : start + fill.length + more.length = start + (fill ++ more).length := by
          rw [List.length_append, Nat.add_assoc]
        rw [StateT.run_bind, hdelivery, hmissing, ← String.append_assoc]
        rw [hplace, ← hmore] at hrun
        exact hrun

theorem reads_textOfLength (options : CodecOptions) (start : Nat) (s : String) :
    Reads (textOfLength options s.utf8ByteSize) start (Utf8.encode s) s := by
  intro source rest h
  rcases Carry.ofCapacity_wellFormed options.readBufferSize with ⟨hheld, hcapacity⟩
  -- A turn for each byte at most, and two to see the end.
  have hloop := textFrom_run (source.pending.length + 2) (.ofCapacity options.readBufferSize)
    (Utf8.encode s) "" s start ?_ rfl (by rw [hheld]; decide) hcapacity (fun _ => hheld) source
    rest h
  · rw [String.empty_append, Utf8.length_encode] at hloop
    exact hloop
  · rw [h, List.length_append]
    omega

end Decoder

end DocumentMapper
