import DocumentMapper.Text.Regex.Basic

/-!
# Programs for expressions

A search runs a program. Its instructions read a character, check a place or choose
between two ways, and each of them names the instructions that may come next; one
instruction accepts.

A program is built from its end: to put an expression in front of a program, its
instructions are added behind the others and lead to where the program started. So the
target of a step is known when the step is added. Only the choice at the head of a loop has
to be filled in after its body.

## Main definitions

* `Instruction`: The instructions.
* `Program`: Instructions with a start.
* `Regex.before`: An expression in front of a program.
* `Regex.program`: The program of an expression.
-/

namespace DocumentMapper

/-- One step of a program, with the numbers of what may come next. -/
inductive Instruction where
  | read (s : CharSet) (next : Nat)
  | check (a : Assertion) (next : Nat)
  | choose (first second : Nat)
  | accept
deriving DecidableEq, Repr

/-- Instructions with the number of the one that comes first. -/
structure Program where
  start : Nat
  instructions : Array Instruction
deriving DecidableEq, Repr

namespace Program

/-- The program that accepts at once. -/
def accepting : Program :=
  ⟨0, #[.accept]⟩

/-- A program with one more instruction, at which it starts. -/
def push (p : Program) (i : Instruction) : Program :=
  ⟨p.instructions.size, p.instructions.push i⟩

/-- Something in front of a program, a number of times. -/
def repeated (part : Program → Program) : Nat → Program → Program
  | 0, p => p
  | count + 1, p => repeated part count (part p)

/-- Something in front of a program, at most a number of times. Without any more pieces it
    goes on at `exit`. -/
def atMost (part : Program → Program) (exit : Nat) : Nat → Program → Program
  | 0, p => p
  | count + 1, p =>
    let first := part p
    atMost part exit count (first.push (.choose first.start exit))

/-- Something in front of a program, any number of times. -/
def loop (part : Program → Program) (p : Program) : Program :=
  let head := p.instructions.size
  let exit := p.start
  let body := part (p.push .accept)
  let first := body.start
  ⟨head, body.instructions.setIfInBounds head (.choose first exit)⟩

end Program

namespace Regex

/-- An expression in front of a program. -/
def before : Regex → Program → Program
  | empty, p => p
  | literal text, p => text.foldr (fun c p => p.push (.read (.single c) p.start)) p
  | chars s, p => p.push (.read s p.start)
  | assertion a, p => p.push (.check a p.start)
  | repeated r low none _, p => Program.repeated r.before low (Program.loop r.before p)
  | repeated r low (some high) _, p =>
    Program.repeated r.before low (Program.atMost r.before p.start (high - low) p)
  | group _ r, p => r.before p
  | seq first rest, p => first.before (rest.before p)
  -- Instructions are written from the end, so both branches lead to what is there already.
  | alt first rest, p =>
    let exit := p.start
    let ⟨second, instructions⟩ := rest.before p
    let p := first.before ⟨exit, instructions⟩
    p.push (.choose p.start second)

/-- The program of an expression. -/
def program (r : Regex) : Program :=
  r.before .accepting

end Regex

end DocumentMapper
