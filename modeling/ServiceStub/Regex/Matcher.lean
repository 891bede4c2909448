import ServiceStub.Regex.Parser

/-!
Leftmost-first matching.  An expression is laid out as a program whose threads run side by
side in order of preference; a thread that reaches a step another one has reached before it at
the same place is dropped.
-/

namespace ServiceStub.Regex

inductive Step where
  | chars (set : CharSet) (next : Nat)
  | look (assertion : Assertion) (next : Nat)
  | split (first second : Nat)
  | accept

abbrev Program := Array Step

namespace Program

def choice (greedy : Bool) (body exit : Nat) : Step :=
  if greedy then .split body exit else .split exit body

def emit (step : Step) (program : Program) : Nat × Program :=
  (program.size, program.push step)

/-- Lay out `count` optional bodies in a row, each of which may leave to `exit`. -/
def optionals (layOut : Nat → Program → Nat × Program) (greedy : Bool) (exit : Nat) :
    (count : Nat) → Program → Nat × Program
  | 0, program => (exit, program)
  | count + 1, program =>
      let (next, program) := optionals layOut greedy exit count program
      let (body, program) := layOut next program
      emit (choice greedy body exit) program

def copies (layOut : Nat → Program → Nat × Program) :
    (count : Nat) → Nat → Program → Nat × Program
  | 0, next, program => (next, program)
  | count + 1, next, program =>
      let (next, program) := layOut next program
      copies layOut count next program

def loop (layOut : Nat → Program → Nat × Program) (greedy : Bool) (exit : Nat)
    (program : Program) : (Nat × Nat) × Program :=
  let (again, program) := emit .accept program
  let (body, program) := layOut again program
  ((body, again), program.setIfInBounds again (choice greedy body exit))

/-- Lay out an expression in front of the step `next`; the step it begins with. -/
def layOut : Expr → (next : Nat) → Program → Nat × Program
  | .empty, next, program => (next, program)
  | .chars set, next, program => emit (.chars set next) program
  | .look assertion, next, program => emit (.look assertion next) program
  | .sequence first second, next, program =>
      let (next, program) := layOut second next program
      layOut first next program
  | .either first second, next, program =>
      let (second, program) := layOut second next program
      let (first, program) := layOut first next program
      emit (.split first second) program
  | .repeated least (some greatest) greedy body, next, program =>
      let (next, program) := optionals (layOut body) greedy next (greatest - least) program
      copies (layOut body) least next program
  | .repeated 0 none greedy body, next, program =>
      let ((start, again), program) := loop (layOut body) greedy next program
      if body.consumes then (again, program)
      else emit (choice greedy start next) program
  | .repeated (least + 1) none greedy body, next, program =>
      let ((start, _), program) := loop (layOut body) greedy next program
      copies (layOut body) least start program

end Program

def greatestWeight : Nat := 10 * 1024 * 1024

end Regex

structure Regex where
  program : Regex.Program
  start : Nat

namespace Regex

def ofExpr (expr : Expr) : Regex :=
  let (accept, program) := Program.emit .accept #[]
  let (start, program) := Program.layOut expr accept program
  ⟨program, start⟩

inductive Error where
  | syntaxError
  | tooLarge
  deriving Repr, DecidableEq

def Error.message : Error → String
  | .syntaxError => "regex parse error"
  | .tooLarge => "Compiled regex exceeds size limit of " ++ toString greatestWeight ++ " bytes."

def ofString (text : String) : Except Error Regex :=
  match parse text with
  | none => .error .syntaxError
  | some expr => if expr.weight ≤ greatestWeight then .ok (ofExpr expr) else .error .tooLarge

def ofString? (text : String) : Option Regex := (ofString text).toOption

structure Thread where
  step : Nat
  start : Nat

/-- The threads at one place, in reverse order of preference, and the steps they came by. -/
structure Threads where
  threads : List Thread
  seen : Array Bool

/-- Follow all steps that need no character, those preferred first. -/
def follow (program : Program) (before after : Option Char) (start : Nat) :
    (fuel : Nat) → (steps : List Nat) → Threads → Threads
  | 0, _, threads => threads
  | _, [], threads => threads
  | fuel + 1, step :: steps, threads =>
      if threads.seen.getD step true then
        follow program before after start fuel steps threads
      else
        let threads := { threads with seen := threads.seen.setIfInBounds step true }
        match program[step]? with
        | none => follow program before after start fuel steps threads
        | some (.split first second) =>
            follow program before after start fuel (first :: second :: steps) threads
        | some (.look assertion next) =>
            follow program before after start fuel
              (if assertion.holds before after then next :: steps else steps) threads
        | some _ =>
            follow program before after start fuel steps
              { threads with threads := ⟨step, start⟩ :: threads.threads }

/-- The place a match was found: its ends in bytes, and the text around its end. -/
structure Found where
  start : Nat
  stop : Nat
  before : Option Char
  rest : List Char

namespace Program

def noThreads (program : Program) : Threads := ⟨[], Array.replicate program.size false⟩

def add (program : Program) (before after : Option Char) (start step : Nat)
    (threads : Threads) : Threads :=
  follow program before after start (2 * program.size + 2) [step] threads

/-- Run the threads of a place in order of preference up to one that accepts: the place its
match began, and the threads that go on over the next character. -/
def advance (program : Program) (read after : Option Char) :
    List Thread → Threads → Option Nat × Threads
  | [], next => (none, next)
  | thread :: threads, next =>
      match program[thread.step]?, read with
      | some .accept, _ => (some thread.start, next)
      | some (.chars set step), some c =>
          if set.contains c.toNat then
            advance program read after threads (program.add read after thread.start step next)
          else advance program read after threads next
      | _, _ => advance program read after threads next

/-- Search from a place on, given the threads that reached it and the best match so far. -/
def search (regex : Regex) (position : Nat) (before : Option Char) (threads : Threads)
    (best : Option Found) : List Char → Option Found
  | [] =>
      let threads :=
        if best.isSome then threads else add regex.program before none position regex.start threads
      match advance regex.program none none threads.threads.reverse (noThreads regex.program) with
      | (some start, _) => some ⟨start, position, before, []⟩
      | (none, _) => best
  | c :: rest =>
      let threads :=
        if best.isSome then threads
        else add regex.program before (some c) position regex.start threads
      if best.isSome && threads.threads.isEmpty then best
      else
        let (accepted, next) :=
          advance regex.program (some c) rest.head? threads.threads.reverse
            (noThreads regex.program)
        let best :=
          match accepted with
          | some start => some ⟨start, position, before, c :: rest⟩
          | none => best
        search regex (position + c.utf8Size) (some c) next best rest

end Program

/-- The leftmost match in a text that begins at byte `position`, after `before`. -/
def findFrom (regex : Regex) (position : Nat) (before : Option Char) (text : List Char) :
    Option Found :=
  Program.search regex position before (Program.noThreads regex.program) none text

def isMatch (regex : Regex) (text : String) : Bool :=
  (regex.findFrom 0 none text.toList).isSome

/-- The byte ranges of all matches from left to right.  An empty match right at the end of the
match before it is passed over. -/
def findAll (regex : Regex) (fuel position : Nat) (before : Option Char) (text : List Char)
    (lastStop : Option Nat) : List (Nat × Nat) :=
  match fuel with
  | 0 => []
  | fuel + 1 =>
      match regex.findFrom position before text with
      | none => []
      | some found =>
          if found.start == found.stop && lastStop == some found.stop then
            match text with
            | [] => []
            | c :: rest => findAll regex fuel (position + c.utf8Size) (some c) rest lastStop
          else
            (found.start, found.stop) ::
              findAll regex fuel found.stop found.before found.rest (some found.stop)

def matches? (regex : Regex) (text : String) : List (Nat × Nat) :=
  let chars := text.toList
  regex.findAll (2 * chars.length + 2) 0 none chars none

def unmatchedLength (regex : Regex) (text : String) : Nat :=
  let (covered, uncovered) := (regex.matches? text).foldl
    (fun (last, uncovered) (start, stop) => (stop, uncovered + (start - last))) (0, 0)
  uncovered + (text.utf8ByteSize - covered)

end Regex

end ServiceStub
