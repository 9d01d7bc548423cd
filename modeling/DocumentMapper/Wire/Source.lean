/-!
# Byte sources

Bytes arrive in deliveries whose sizes the receiver does not choose. A delivery may
be smaller than what was asked for, and an attempt to take one may be interrupted
any number of times before it succeeds. A `Schedule` says both for every delivery;
a source is the bytes still to come together with its place in the schedule.
An empty delivery means that the bytes have come to an end.

## Main definitions

* `Delivery`: The interruptions before a delivery and its size.
* `Source`: The bytes to come and the schedule of their deliveries.
* `Source.attempt`: One attempt to take bytes.
* `Source.read`: Attempts until one is not interrupted.
* `Source.take`: Deliveries until enough bytes came, or the end.
-/

namespace DocumentMapper

/-- What a schedule says about one delivery. -/
structure Delivery where
  /-- How many attempts are interrupted before it. -/
  interruptions : Nat
  /-- How many bytes it brings at most; one is always possible. -/
  size : Nat

/-- The deliveries of a source, one after another. -/
abbrev Schedule := Nat → Delivery

/-- The bytes still to come, and how. -/
structure Source where
  pending : List UInt8
  schedule : Schedule
  /-- The place of the next delivery in the schedule. -/
  turn : Nat
  /-- The interruptions met since the last delivery. -/
  interrupted : Nat

namespace Source

/-- A source at the beginning of its schedule. -/
def ofSchedule (bytes : List UInt8) (schedule : Schedule) : Source :=
  ⟨bytes, schedule, 0, 0⟩

/-- A source whose deliveries are as large as asked for. -/
def ofBytes (bytes : List UInt8) : Source :=
  ofSchedule bytes (fun _ => ⟨0, bytes.length⟩)

/-- The interruptions still to come before the next delivery. -/
def obstacles (s : Source) : Nat :=
  (s.schedule s.turn).interruptions - s.interrupted

/-- One attempt to take at most `count` bytes: no bytes if it is interrupted. -/
def attempt (s : Source) (count : Nat) : Option (List UInt8) × Source :=
  if 0 < s.obstacles then (none, { s with interrupted := s.interrupted + 1 })
  else
    let size := min count (max 1 (s.schedule s.turn).size)
    (some (s.pending.take size),
      { s with pending := s.pending.drop size, turn := s.turn + 1, interrupted := 0 })

/-- Attempts until one is not interrupted, given how many may be. -/
def retry (count : Nat) : Nat → Source → List UInt8 × Source
  | 0, s => ([], s)
  | tries + 1, s =>
    match s.attempt count with
    | (some bytes, s) => (bytes, s)
    | (none, s) => retry count tries s

/-- The next delivery of at most `count` bytes. -/
def read (s : Source) (count : Nat) : List UInt8 × Source :=
  retry count (s.obstacles + 1) s

/-- Deliveries until `count` bytes came or one is empty, given how many may be taken. -/
def gather : Nat → Source → Nat → List UInt8 × Source
  | 0, s, _ => ([], s)
  | tries + 1, s, count =>
    if count = 0 then ([], s)
    else
      match s.read count with
      | ([], s) => ([], s)
      | (bytes, s) =>
        let (more, s) := gather tries s (count - bytes.length)
        (bytes ++ more, s)

/-- The next `count` bytes, fewer only if the source ends before. Every delivery brings
    a byte, so as many deliveries as bytes are asked for suffice. -/
def take (s : Source) (count : Nat) : List UInt8 × Source :=
  gather count s count

end Source

end DocumentMapper
