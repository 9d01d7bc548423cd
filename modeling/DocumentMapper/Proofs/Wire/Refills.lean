import DocumentMapper.Proofs.Data.Except
import DocumentMapper.Proofs.Text.Scratch
import DocumentMapper.Proofs.Wire.Acceptance

/-!
# Refilling a buffer

Names and texts are read in a loop that fills the free part of a scratch buffer and commits
it, over and over. If nothing were free, an iteration would take no byte and leave all as it
was, and the loop would never end. The loops of the reader cannot show this: they are
bounded by the bytes to come, and the one over a name looks at its buffer only after a byte
was taken. So here an iteration is written down as it works on the buffer (`keyTurn`,
`textTurn`), and a loop is any number of iterations until one is the last (`Loops`).

Less than a character is held whatever was done with the buffer before, so that there is
room, and an iteration that is not the last takes a byte (`ensures_keyTurn`,
`ensures_textTurn`). Hence the loops end, and they end as the bounded ones do: a loop over
the buffer and the bounded loop over its carry go the same way, with steps left as long as
bytes are (`keyFrom_eq_turn`, `textFrom_eq_turn`). One buffer serves for all names and texts
of a reader, and is reset before each.

## Main definitions

* `Decoder.Turn`, `Decoder.Loops`: What an iteration comes to, and a loop without a bound.
* `Decoder.Turn.Advances`: An iteration takes a byte or is the last.
* `Decoder.keyTurn`, `Decoder.textTurn`: The iterations over a name and over a text.

## Theorems

* `commitFill_bind`: A fill that is committed goes the way of the carry.
* `ensures_keyTurn`, `ensures_textTurn`: Iterations over names and texts advance.
* `keyFrom_eq_turn`, `textFrom_eq_turn`: The bounded loops, iteration by iteration.
* `loops_keyFrom`, `loops_textFrom`: The loops end, and how.
* `scratch_always_advances`: Buffers have room and loops advance, whatever was done before.
-/

namespace DocumentMapper

namespace Decoder

variable {α β σ : Type}

/-- What an iteration comes to: the loop goes on with a state, or it is over. -/
inductive Turn (σ α : Type) where
  | again (state : σ)
  | last (result : α)

/-- A loop with no bound on its iterations. It has an outcome if one of them fails or is the
    last. -/
inductive Loops (turn : σ → Decoder (Turn σ α)) :
    σ → Cursor → Except CodecError (α × Cursor) → Prop where
  | failed {state : σ} {cursor : Cursor} {e : CodecError}
      (hrun : (turn state).run cursor = .error e) : Loops turn state cursor (.error e)
  | last {state : σ} {cursor cursor' : Cursor} {result : α}
      (hrun : (turn state).run cursor = .ok (.last result, cursor')) :
      Loops turn state cursor (.ok (result, cursor'))
  | again {state state' : σ} {cursor cursor' : Cursor} {outcome : Except CodecError (α × Cursor)}
      (hrun : (turn state).run cursor = .ok (.again state', cursor'))
      (hrest : Loops turn state' cursor' outcome) : Loops turn state cursor outcome

namespace Turn

/-- Goes on with what is left of a loop, unless it is over. -/
def resume (next : σ → Decoder α) : Turn σ α → Decoder α
  | again state => next state
  | last result => pure result

/-- An iteration that is not the last has taken a byte, and the buffer is as some operations
    leave it. -/
def Advances (s : Scratch) (buffer : σ → Scratch) (taken : List UInt8) : Turn σ α → Prop
  | again state => taken ≠ [] ∧ ∃ operations, buffer state = s.run operations
  | last _ => True

end Turn

/-! ### Iterations -/

/-- Fills bytes into a buffer and commits them. -/
def commitFill (s : Scratch) (bytes : List UInt8) : Decoder Scratch.Commit :=
  let done := (s.fill bytes).commit bytes.length
  match done.outcome with
  | .decoded _ => return done
  | _ => throw .invalidUtf8

/-- The text so far, if no character is left incomplete in the buffer. -/
def finishScratch (s : Scratch) (text : String) : Decoder String :=
  if s.finish.1 then return text else throw .invalidUtf8

/-- Bytes for a slot with room for some more, up to a zero byte. Returns them together with
    those before, and whether the zero byte came. -/
def slotFrom : Nat → List UInt8 → Decoder (List UInt8 × Bool)
  | 0, bytes => return (bytes, false)
  | room + 1, bytes => do
    let b ← byte
    if b = 0 then return (bytes, true) else slotFrom room (bytes ++ [b])

/-- An iteration over a name: fills the slot and commits it. -/
def keyTurn (state : Scratch × String) : Decoder (Turn (Scratch × String) String) := do
  let (bytes, isEnd) ← slotFrom state.1.slot.length []
  let done ← commitFill state.1 bytes
  if isEnd then return .last (← finishScratch done.scratch (state.2 ++ done.appended))
  else return .again (done.scratch, state.2 ++ done.appended)

/-- An iteration over a text of which bytes are missing: commits what the next delivery
    brings into the slot. -/
def textTurn (state : Scratch × Nat × String) :
    Decoder (Turn (Scratch × Nat × String) String) := do
  let (s, missing, text) := state
  if missing = 0 then return .last (← finishScratch s text)
  else
    let bytes ← delivery (min s.slot.length missing)
    let done ← commitFill s bytes
    return .again (done.scratch, missing - bytes.length, text ++ done.appended)

/-! ### The buffer and the carry -/

variable {s : Scratch} {capacity : Nat}

theorem finishScratch_eq (hs : s.Ready capacity) (text : String) :
    finishScratch s text = finish s.carry text := by
  unfold finishScratch finish
  rw [Scratch.carry_isEmpty hs.carried_le]
  rfl

/-- A fill that fits goes the way of the carry, and so does all that depends only on the text
    and on what the buffer is as a carry. -/
theorem commitFill_bind (hs : s.Ready capacity) {bytes : List UInt8}
    (hfits : bytes.length ≤ s.slot.length) {f : Scratch.Commit → Decoder α}
    {g : Carry.Decoded → Decoder α}
    (hfg : ∀ (done : Scratch.Commit) (d : Carry.Decoded), done.scratch.Ready capacity →
      done.scratch.carry = d.carry → done.appended = d.text → f done = g d) :
    commitFill s bytes >>= f = commit s.carry bytes >>= g := by
  have hfilled := Scratch.ready_fill hs bytes
  have hslot : bytes.length ≤ (s.fill bytes).slot.length := by
    rw [Scratch.length_slot] at hfits ⊢
    rw [Scratch.length_fill hs.carried_le]
    exact hfits
  -- The commit sees the same bytes: those held, and the fill right behind them.
  have hcommit := Scratch.carry_commit hfilled.carried_le hslot
  rw [Scratch.carry_fill hs.carried_le, Scratch.take_slot_fill hs.carried_le hfits] at hcommit
  have hready := Scratch.ready_commit hfilled bytes.length
  unfold commitFill commit
  rw [hcommit]
  dsimp only
  generalize (s.fill bytes).commit bytes.length = done at hready ⊢
  unfold Scratch.Commit.decoded?
  -- Only a commit that decodes goes on, and there the scratch is again the carry.
  cases hdone : done.outcome with
  | decoded stop => exact hfg done _ hready rfl rfl
  | malformed => rfl
  | restTooLong => rfl
  | outOfBounds => rfl

/-! ### An iteration takes a byte or is the last -/

theorem ensures_delivery {count start : Nat} (hcount : 0 < count) :
    Ensures (delivery count) start fun taken bytes =>
      taken = bytes ∧ bytes ≠ [] ∧ bytes.length ≤ count := by
  intro source final place bytes hrun
  by_cases hpending : source.pending = []
  · rw [delivery_end hcount hpending] at hrun
    cases hrun
  · rcases delivery_run hcount hpending start with ⟨fill, middle, hfill, hle, hmiddle, hdelivery⟩
    rw [hdelivery] at hrun
    cases hrun
    exact ⟨bytes, hmiddle, rfl, rfl, hfill, hle⟩

/-- A slot with room takes a byte, if only the zero byte, and is not overfilled. -/
theorem ensures_slotFrom (room : Nat) :
    ∀ (bytes : List UInt8) (start : Nat), Ensures (slotFrom room bytes) start fun taken result =>
      (0 < room → taken ≠ []) ∧ result.1.length ≤ bytes.length + room := by
  induction room with
  | zero => exact fun bytes start => ensures_pure ⟨nofun, Nat.le_refl _⟩
  | succ room ih =>
      intro bytes start
      rw [slotFrom]
      refine ensures_bind (ensures_byte start) ?_
      rintro _ b rfl
      by_cases hb : b = 0
      · rw [if_pos hb]
        exact ensures_pure ⟨fun _ => List.cons_ne_nil _ _, Nat.le_add_right _ _⟩
      · rw [if_neg hb]
        refine (ih (bytes ++ [b]) _).mono ?_
        rintro taken result ⟨_, hlength⟩
        rw [List.length_append, List.length_singleton] at hlength
        exact ⟨fun _ => List.cons_ne_nil _ _, by omega⟩

/-- A commit takes no bytes, and leaves what a fill and a commit leave. -/
theorem ensures_commitFill (s : Scratch) (bytes : List UInt8) (start : Nat) :
    Ensures (commitFill s bytes) start fun taken done =>
      taken = [] ∧ done.scratch = s.run [.fill bytes, .commit bytes.length] := by
  unfold commitFill
  dsimp only
  cases ((s.fill bytes).commit bytes.length).outcome with
  | decoded stop => exact ensures_pure ⟨rfl, rfl⟩
  | malformed => exact ensures_throw
  | restTooLong => exact ensures_throw
  | outOfBounds => exact ensures_throw

/-- The last step of a loop takes no bytes. -/
theorem ensures_last (s : Scratch) (text : String) (start : Nat)
    {Q : List UInt8 → Turn σ String → Prop} (hQ : ∀ result, Q [] (.last result)) :
    Ensures (do return .last (← finishScratch s text)) start Q := by
  have hfinish : Ensures (finishScratch s text) start fun taken _ => taken = [] := by
    unfold finishScratch
    cases s.finish.1 with
    | true => exact ensures_pure rfl
    | false => exact ensures_throw
  refine ensures_map hfinish ?_
  rintro _ result rfl
  exact hQ result

/-- An iteration over a name takes a byte or is the last. -/
theorem ensures_keyTurn (hs : s.Ready capacity) (text : String) (start : Nat) :
    Ensures (keyTurn (s, text)) start (Turn.Advances s Prod.fst) := by
  unfold keyTurn
  refine ensures_bind (ensures_slotFrom s.slot.length [] start) ?_
  rintro taken ⟨bytes, isEnd⟩ ⟨htaken, _⟩
  refine ensures_bind (ensures_commitFill s bytes _) ?_
  rintro _ done ⟨rfl, hdone⟩
  dsimp only
  cases isEnd with
  | true => exact ensures_last _ _ _ fun _ => trivial
  | false =>
      refine ensures_pure ⟨?_, _, hdone⟩
      rw [List.append_nil, List.append_nil]
      exact htaken hs.slot_pos

/-- An iteration over a text takes a byte or is the last. -/
theorem ensures_textTurn (hs : s.Ready capacity) (missing : Nat) (text : String) (start : Nat) :
    Ensures (textTurn (s, missing, text)) start (Turn.Advances s Prod.fst) := by
  have hslot := hs.slot_pos
  unfold textTurn
  dsimp only
  by_cases hmissing : missing = 0
  · rw [if_pos hmissing]
    exact ensures_last _ _ _ fun _ => trivial
  · rw [if_neg hmissing]
    -- Bytes are missing and the slot has room, so a turn takes at least one.
    refine ensures_bind (ensures_delivery (by omega)) ?_
    rintro taken _ ⟨rfl, htaken, _⟩
    refine ensures_bind (ensures_commitFill s taken _) ?_
    rintro _ done ⟨rfl, hdone⟩
    refine ensures_pure ⟨?_, _, hdone⟩
    rw [List.append_nil, List.append_nil]
    exact htaken

/-! ### Loops -/

theorem loops_of_bind {turn : σ → Decoder (Turn σ α)} {next : σ → Decoder α} {state : σ}
    {cursor : Cursor}
    (h : ∀ state' cursor', (turn state).run cursor = .ok (.again state', cursor') →
      Loops turn state' cursor' ((next state').run cursor')) :
    Loops turn state cursor ((turn state >>= Turn.resume next).run cursor) := by
  rw [StateT.run_bind]
  cases hrun : (turn state).run cursor with
  | error e => exact .failed hrun
  | ok outcome =>
      rcases outcome with ⟨result | result, cursor'⟩
      · exact .again hrun (h result cursor' hrun)
      · exact .last hrun

/-! ### Names -/

/-- The next byte, or the end. -/
theorem byte_cases (cursor : Cursor) :
    byte.run cursor = .error .unexpectedEnd ∨ ∃ b next, byte.run cursor = .ok (b, next) ∧
      next.source.pending.length + 1 = cursor.source.pending.length := by
  cases hpending : cursor.source.pending with
  | nil => exact .inl (byte_end hpending cursor.position)
  | cons b rest =>
      rcases reads_byte cursor.position b cursor.source rest hpending with ⟨next, hnext, hbyte⟩
      refine .inr ⟨b, _, hbyte, ?_⟩
      rw [hnext, List.length_cons]

/-- As long as there are more steps than bytes to come, their number does not matter. -/
theorem keyFrom_steps (steps : Nat) :
    ∀ (steps' : Nat) (carry : Carry) (bytes : List UInt8) (text : String) (cursor : Cursor),
      cursor.source.pending.length < steps → cursor.source.pending.length < steps' →
      (keyFrom steps carry bytes text).run cursor =
        (keyFrom steps' carry bytes text).run cursor := by
  induction steps with
  | zero => exact fun _ _ _ _ _ hsteps _ => absurd hsteps (Nat.not_lt_zero _)
  | succ steps ih =>
      intro steps' carry bytes text cursor hsteps hsteps'
      cases steps' with
      | zero => exact absurd hsteps' (Nat.not_lt_zero _)
      | succ steps' =>
          rw [keyFrom, keyFrom, StateT.run_bind, StateT.run_bind]
          -- A turn takes a byte off, so either number of steps is enough for the rest.
          rcases byte_cases cursor with hend | ⟨b, next, hbyte, hpending⟩
          · rw [hend]
            rfl
          · rw [hbyte, Except.ok_bind, Except.ok_bind]
            dsimp only
            by_cases hb : b = 0
            · rw [if_pos hb, if_pos hb]
            · rw [if_neg hb, if_neg hb]
              by_cases hroom : bytes.length + 1 < carry.room
              · rw [if_pos hroom, if_pos hroom]
                exact ih steps' _ _ _ next (by omega) (by omega)
              · rw [if_neg hroom, if_neg hroom, StateT.run_bind, StateT.run_bind, commit_run]
                cases Utf8.cut? (carry.held ++ (bytes ++ [b])) with
                | none => rfl
                | some cut => exact ih steps' _ _ _ next (by omega) (by omega)

theorem commit_bind_keyFrom {steps steps' : Nat} {cursor : Cursor}
    (hsteps : cursor.source.pending.length < steps)
    (hsteps' : cursor.source.pending.length < steps') (carry : Carry) (bytes : List UInt8)
    (text : String) :
    (commit carry bytes >>= fun d => keyFrom steps d.carry [] (text ++ d.text)).run cursor =
      (commit carry bytes >>= fun d => keyFrom steps' d.carry [] (text ++ d.text)).run cursor := by
  rw [StateT.run_bind, StateT.run_bind, commit_run]
  cases Utf8.cut? (carry.held ++ bytes) with
  | none => rfl
  | some cut => exact keyFrom_steps steps steps' _ _ _ cursor hsteps hsteps'

/-- The bounded loop over a name fills the room that is left as an iteration does, and then
    commits what it has. -/
theorem keyFrom_eq_slotFrom (steps : Nat) (carry : Carry) (text : String) (room : Nat) :
    ∀ (bytes : List UInt8) (cursor : Cursor), 0 < room → bytes.length + room = carry.room →
      cursor.source.pending.length < steps →
      (keyFrom steps carry bytes text).run cursor =
        (slotFrom room bytes >>= fun filled => commit carry filled.1 >>= fun d =>
          if filled.2 then finish d.carry (text ++ d.text)
          else keyFrom steps d.carry [] (text ++ d.text)).run cursor := by
  induction room with
  | zero => exact fun _ _ hpos => absurd hpos (Nat.lt_irrefl 0)
  | succ room ih =>
      intro bytes cursor _ hroom hsteps
      cases steps with
      | zero => exact absurd hsteps (Nat.not_lt_zero _)
      | succ steps =>
          rw [keyFrom, slotFrom, bind_assoc, StateT.run_bind, StateT.run_bind]
          rcases byte_cases cursor with hend | ⟨b, next, hbyte, hpending⟩
          · rw [hend]
            rfl
          · rw [hbyte, Except.ok_bind, Except.ok_bind]
            dsimp only
            by_cases hb : b = 0
            · rw [if_pos hb, if_pos hb]
              rfl
            · rw [if_neg hb, if_neg hb]
              rcases Nat.eq_zero_or_pos room with rfl | hpos
              · -- The slot is full.
                rw [if_neg (by omega)]
                exact commit_bind_keyFrom (by omega) (by omega) carry (bytes ++ [b]) text
              · rw [if_pos (by omega),
                  keyFrom_steps steps (steps + 1) _ _ _ next (by omega) (by omega)]
                refine ih (bytes ++ [b]) next hpos ?_ (by omega)
                rw [List.length_append, List.length_singleton]
                omega

/-- The bounded loop over a name is an iteration and the loop from there. -/
theorem keyFrom_eq_turn (hs : s.Ready capacity) (text : String) {steps : Nat} {cursor : Cursor}
    (hsteps : cursor.source.pending.length < steps) :
    (keyFrom steps s.carry [] text).run cursor =
      (keyTurn (s, text) >>=
        Turn.resume fun state => keyFrom steps state.1.carry [] state.2).run cursor := by
  -- The slot is what is left of the buffer beside the bytes held.
  have hroom : ([] : List UInt8).length + s.slot.length = s.carry.room := by
    rw [List.length_nil, Nat.zero_add, Scratch.carry_room hs.carried_le]
  rw [keyFrom_eq_slotFrom steps s.carry text s.slot.length [] cursor hs.slot_pos hroom hsteps]
  unfold keyTurn
  rw [bind_assoc, StateT.run_bind, StateT.run_bind]
  cases hslot : (slotFrom s.slot.length []).run cursor with
  | error e => rfl
  | ok outcome =>
      rcases outcome with ⟨⟨bytes, isEnd⟩, next⟩
      rcases ensures_slotFrom s.slot.length [] cursor.position cursor.source next.source
        next.position _ hslot with ⟨_, _, _, _, hfits⟩
      rw [List.length_nil, Nat.zero_add] at hfits
      rw [Except.ok_bind, Except.ok_bind]
      dsimp only
      rw [bind_assoc]
      refine congrArg (StateT.run · next) (commitFill_bind hs hfits ?_).symm
      intro done d hready hcarry happended
      rw [← hcarry, ← happended]
      cases isEnd with
      | true =>
          rw [if_pos rfl, if_pos rfl, ← finishScratch_eq hready, bind_assoc]
          exact bind_pure _
      | false => rfl

/-- An iteration that is not the last leaves a buffer with room and fewer bytes to come. -/
theorem ready_and_shorter {turn : σ → Decoder (Turn σ α)} {buffer : σ → Scratch}
    {state state' : σ} {cursor cursor' : Cursor} (hs : s.Ready capacity)
    (hturn : Ensures (turn state) cursor.position (Turn.Advances s buffer))
    (hrun : (turn state).run cursor = .ok (.again state', cursor')) :
    (buffer state').Ready capacity ∧
      cursor'.source.pending.length < cursor.source.pending.length := by
  rcases hturn cursor.source cursor'.source cursor'.position _ hrun with
    ⟨taken, hpending, _, htaken, operations, hbuffer⟩
  have hpos : 0 < taken.length := List.length_pos_iff.mpr htaken
  rw [hbuffer, hpending, List.length_append]
  exact ⟨Scratch.ready_run hs operations, by omega⟩

/-- The loop over a name ends, as the bounded one does. The induction is on the bytes to come,
    of which every iteration takes one. -/
theorem loops_keyFrom (steps count : Nat) :
    ∀ {s : Scratch} (text : String) (cursor : Cursor), s.Ready capacity →
      cursor.source.pending.length < steps → cursor.source.pending.length < count →
      Loops keyTurn (s, text) cursor ((keyFrom steps s.carry [] text).run cursor) := by
  induction count with
  | zero => exact fun _ _ _ _ hcount => absurd hcount (Nat.not_lt_zero _)
  | succ count ih =>
      intro s text cursor hs hsteps hcount
      rw [keyFrom_eq_turn hs text hsteps]
      refine loops_of_bind ?_
      intro state cursor' hrun
      rcases ready_and_shorter hs (ensures_keyTurn hs text cursor.position) hrun with
        ⟨hready, hshorter⟩
      exact ih state.2 cursor' hready (by omega) (by omega)

/-! ### Texts -/

/-- The bounded loop over a text is an iteration and the loop from there. -/
theorem textFrom_eq_turn (hs : s.Ready capacity) (steps missing : Nat) (text : String)
    (cursor : Cursor) :
    (textFrom (steps + 1) s.carry missing text).run cursor =
      (textTurn (s, missing, text) >>= Turn.resume fun state =>
        textFrom steps state.1.carry state.2.1 state.2.2).run cursor := by
  have hslot := hs.slot_pos
  rw [textFrom, Scratch.carry_room hs.carried_le]
  unfold textTurn
  dsimp only
  by_cases hmissing : missing = 0
  · rw [if_pos hmissing, if_pos hmissing, bind_assoc, ← finishScratch_eq hs]
    exact congrArg (StateT.run · cursor) (bind_pure _).symm
  · rw [if_neg hmissing, if_neg hmissing, bind_assoc, StateT.run_bind, StateT.run_bind]
    cases hdelivery : (delivery (min s.slot.length missing)).run cursor with
    | error e => rfl
    | ok outcome =>
        rcases outcome with ⟨bytes, next⟩
        -- A delivery of at least one byte, which fits the slot.
        have hcount : 0 < min s.slot.length missing := by omega
        rcases ensures_delivery hcount cursor.source next.source next.position _ hdelivery with
          ⟨_, _, _, _, _, hle⟩
        rw [Except.ok_bind, Except.ok_bind]
        dsimp only
        rw [bind_assoc]
        refine congrArg (StateT.run · next) (commitFill_bind hs (by omega) ?_).symm
        intro done d _ hcarry happended
        rw [← hcarry, ← happended]
        rfl

/-- The loop over a text ends, as the bounded one does. -/
theorem loops_textFrom (steps : Nat) :
    ∀ {s : Scratch} (missing : Nat) (text : String) (cursor : Cursor), s.Ready capacity →
      cursor.source.pending.length < steps →
      Loops textTurn (s, missing, text) cursor
        ((textFrom steps s.carry missing text).run cursor) := by
  induction steps with
  | zero => exact fun _ _ _ _ hsteps => absurd hsteps (Nat.not_lt_zero _)
  | succ steps ih =>
      intro s missing text cursor hs hsteps
      rw [textFrom_eq_turn hs]
      refine loops_of_bind ?_
      intro state cursor' hrun
      rcases ready_and_shorter hs (ensures_textTurn hs missing text cursor.position) hrun with
        ⟨hready, hshorter⟩
      exact ih state.2.1 state.2.2 cursor' hready (by omega)

/-- A buffer of any capacity, after any operations with failed ones among them, holds at most
    three bytes and has room for a fill. No commit finds that as much as a character is left,
    and one that fails leaves the buffer and the output as they were; a commit of what there
    is room for is that of the carry. So every iteration over a name or a text takes a byte or
    is the last, and leaves a buffer of which the same holds. The loops therefore end, from the
    buffer as it is left by earlier names and texts, and their outcomes are those of the
    reader. -/
theorem scratch_always_advances (options : CodecOptions) (history : List Scratch.Operation) :
    let s := (Scratch.ofCapacity options.readBufferSize).run history
    s.carried ≤ 3 ∧ s.slot ≠ [] ∧
    (∀ filled, (s.commit filled).outcome ≠ .restTooLong ∧
      ((∀ stop, (s.commit filled).outcome ≠ .decoded stop) →
        (s.commit filled).scratch = s ∧ (s.commit filled).appended = "")) ∧
    (∀ filled, filled ≤ s.slot.length →
      s.carry.commit? (s.slot.take filled) = (s.commit filled).decoded?) ∧
    (∀ text start, Ensures (keyTurn (s, text)) start (Turn.Advances s Prod.fst)) ∧
    (∀ missing text start, Ensures (textTurn (s, missing, text)) start
      (Turn.Advances s Prod.fst)) ∧
    (∀ cursor, Loops keyTurn (s.reset, "") cursor ((key options).run cursor)) ∧
    ∀ length cursor, Loops textTurn (s.reset, length, "") cursor
      ((textOfLength options length).run cursor) := by
  intro s
  have hs : s.Ready options.readBufferSize :=
    Scratch.ready_run (Scratch.ready_ofCapacity options.readBufferSize) history
  have hreset := Scratch.ready_reset hs
  have hcarry := Scratch.carry_reset hs
  refine ⟨Nat.le_of_lt_succ hs.short, List.length_pos_iff.mp hs.slot_pos, ?_,
    fun filled hfits => Scratch.carry_commit hs.carried_le hfits, ensures_keyTurn hs,
    ensures_textTurn hs, ?_, ?_⟩
  · intro filled
    exact ⟨s.outcome_ne_restTooLong filled, Scratch.unchanged_of_failed⟩
  · intro cursor
    have hloops := loops_keyFrom (cursor.source.pending.length + 1) _ "" cursor hreset
      (Nat.lt_succ_self _) (Nat.lt_succ_self _)
    rw [hcarry] at hloops
    exact hloops
  · intro length cursor
    have hloops := loops_textFrom (cursor.source.pending.length + 2) length "" cursor hreset
      (by omega)
    rw [hcarry] at hloops
    exact hloops

end Decoder

end DocumentMapper
