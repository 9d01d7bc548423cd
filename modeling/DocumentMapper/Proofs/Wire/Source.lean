import DocumentMapper.Wire.Source

/-!
# What a source delivers

The schedule of a source decides how the bytes are cut into deliveries and how many
attempts are interrupted, but not which bytes arrive. One delivery is a piece of
the pending bytes that is not empty unless they are; deliveries gathered until
enough came are exactly the bytes asked for. So everything read through `take` is
the same for all schedules, and only a loop over `read` sees how the bytes were cut.

## Theorems

* `retry_of_obstacles`: Interrupted attempts change nothing but their count.
* `read_eq`: A delivery is a piece of the pending bytes.
* `read_of_pending`: Where bytes are pending, a delivery brings some of them.
* `gather_eq`: Deliveries are gathered up to the count.
* `take_eq`: Taking bytes does not depend on the schedule.
-/

namespace DocumentMapper

namespace Source

/-- Interrupted attempts leave the pending bytes alone, and the first one that is not
    brings a piece of them. -/
theorem retry_of_obstacles (count : Nat) (hcount : 0 < count) :
    ∀ (tries : Nat) (s : Source), s.obstacles < tries →
      ∃ (size : Nat) (source : Source), 0 < size ∧ size ≤ count ∧
        retry count tries s = (s.pending.take size, source) ∧
        source.pending = s.pending.drop size := by
  intro tries
  induction tries with
  | zero =>
      intro s h
      omega
  | succ tries ih =>
      intro s h
      by_cases hobstacles : 0 < s.obstacles
      · -- A try that is interrupted uses one obstacle up.
        have hnext : ({ s with interrupted := s.interrupted + 1 } : Source).obstacles < tries := by
          unfold obstacles at h hobstacles ⊢
          dsimp only
          omega
        rcases ih _ hnext with ⟨size, source, hpos, hle, hretry, hpending⟩
        refine ⟨size, source, hpos, hle, ?_, hpending⟩
        rw [retry, attempt, if_pos hobstacles]
        exact hretry
      · refine ⟨min count (max 1 (s.schedule s.turn).size), (s.attempt count).2, ?_, ?_, ?_, ?_⟩
        · omega
        · omega
        · rw [retry, attempt, if_neg hobstacles]
        · rw [attempt, if_neg hobstacles]

theorem read_eq (s : Source) (count : Nat) (hcount : 0 < count) :
    ∃ (size : Nat) (source : Source), 0 < size ∧ size ≤ count ∧
      s.read count = (s.pending.take size, source) ∧ source.pending = s.pending.drop size := by
  unfold read
  exact retry_of_obstacles count hcount (s.obstacles + 1) s (Nat.lt_succ_self _)

/-- Where bytes are pending, a delivery brings at least one of them, and what it does
    not bring stays pending. -/
theorem read_of_pending (s : Source) (count : Nat) (hcount : 0 < count) (hs : s.pending ≠ []) :
    ∃ (b : UInt8) (fill : List UInt8) (source : Source), (b :: fill).length ≤ count ∧
      s.read count = (b :: fill, source) ∧ s.pending = b :: fill ++ source.pending := by
  rcases read_eq s count hcount with ⟨size, source, hpos, hle, hread, hpending⟩
  cases hp : s.pending with
  | nil => exact absurd hp hs
  | cons b rest =>
      have htake : s.pending.take size = b :: rest.take (size - 1) := by
        rw [hp, ← Nat.sub_add_cancel hpos]
        rfl
      refine ⟨b, rest.take (size - 1), source, ?_, ?_, ?_⟩
      · rw [List.length_cons, List.length_take]
        omega
      · rw [hread, htake]
      · rw [hpending, ← htake, List.take_append_drop, hp]

theorem gather_eq :
    ∀ (tries : Nat) (s : Source) (count : Nat), count ≤ tries →
      ∃ source : Source, gather tries s count = (s.pending.take count, source) ∧
        source.pending = s.pending.drop count := by
  intro tries
  induction tries with
  | zero =>
      intro s count h
      rw [Nat.le_zero.mp h]
      exact ⟨s, rfl, rfl⟩
  | succ tries ih =>
      intro s count h
      by_cases hcount : count = 0
      · rw [gather, if_pos hcount, hcount]
        exact ⟨s, rfl, rfl⟩
      · rw [gather, if_neg hcount]
        by_cases hs : s.pending = []
        · rcases read_eq s count (by omega) with ⟨size, source, _, _, hread, hpending⟩
          rw [hread, hs, List.take_nil]
          refine ⟨source, by rw [List.take_nil], ?_⟩
          rw [hpending, hs, List.drop_nil, List.drop_nil]
        · rcases read_of_pending s count (by omega) hs with
            ⟨b, fill, source, hlen, hread, hpending⟩
          -- The delivery has a byte, so the steps left suffice for what is missing.
          rcases ih source (count - (b :: fill).length) (by rw [List.length_cons]; omega) with
            ⟨final, hgather, hfinal⟩
          refine ⟨final, ?_, ?_⟩
          · rw [hread]
            dsimp only
            rw [hgather, hpending, List.take_append, List.take_of_length_le hlen]
          · rw [hfinal, hpending, List.drop_append, List.drop_of_length_le hlen, List.nil_append]

theorem take_eq (s : Source) (count : Nat) :
    ∃ source : Source, s.take count = (s.pending.take count, source) ∧
      source.pending = s.pending.drop count :=
  gather_eq count s count (Nat.le_refl count)

end Source

end DocumentMapper
