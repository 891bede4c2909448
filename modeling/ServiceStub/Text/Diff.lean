import ServiceStub.Text.Blank

/-!
Differences between two texts as a shortest edit script over tokens.  The script is found by
searching from both ends at once for the middle of a shortest path, and splitting there.
-/

namespace ServiceStub.Text

inductive Edit (α : Type) where
  | same (tokens : List α)
  | removed (tokens : List α)
  | added (tokens : List α)
  deriving Repr

namespace Diff

variable {α : Type} [BEq α]

def commonPrefix : List α → List α → Nat
  | left :: lefts, right :: rights => if left == right then commonPrefix lefts rights + 1 else 0
  | _, _ => 0

def commonSuffix (left right : List α) : Nat := commonPrefix left.reverse right.reverse

/-- For each diagonal how far a search has come along the old text. -/
abbrev Frontier := Array Int

namespace Frontier

def start (reach : Nat) : Frontier := Array.replicate (2 * reach + 3) 0

def get (frontier : Frontier) (diagonal : Int) : Int :=
  frontier.getD (diagonal + frontier.size / 2).toNat 0

def put (frontier : Frontier) (diagonal value : Int) : Frontier :=
  frontier.setIfInBounds (diagonal + frontier.size / 2).toNat value

/-- The furthest point on a diagonal that one more step reaches. -/
def step (frontier : Frontier) (steps diagonal : Int) : Int :=
  let below := frontier.get (diagonal - 1)
  let above := frontier.get (diagonal + 1)
  if diagonal == -steps || (diagonal != steps && below < above) then above else below + 1

end Frontier

def run (old new : Array α) (fuel oldAt newAt : Nat) : Nat :=
  match fuel with
  | 0 => 0
  | fuel + 1 =>
      match old[oldAt]?, new[newAt]? with
      | some left, some right =>
          if left == right then run old new fuel (oldAt + 1) (newAt + 1) + 1 else 0
      | _, _ => 0

def advance (old new : Array α) (x y : Int) : Int :=
  if x < old.size && 0 ≤ y && y < new.size then
    run old new old.size x.toNat y.toNat
  else 0

def diagonals (steps : Nat) : List Int :=
  (List.range (steps + 1)).map fun (index : Nat) => (steps : Int) - 2 * (index : Int)

/-- Extend the search from the start; stop where it meets the search from the end. -/
def forward (old new : Array α) (steps : Nat) (backwards : Frontier) :
    List Int → Frontier → Except (Int × Int) Frontier
  | [], forwards => .ok forwards
  | diagonal :: rest, forwards =>
      let x := forwards.step steps diagonal
      let y := x - diagonal
      let reached := x + advance old new x y
      let forwards := forwards.put diagonal reached
      let delta : Int := (old.size : Int) - new.size
      if delta % 2 == 1 && ((diagonal - delta).natAbs : Int) ≤ (steps : Int) - 1 &&
          (old.size : Int) ≤ reached + backwards.get (delta - diagonal) then .error (x, y)
      else forward old new steps backwards rest forwards

def backward (old new : Array α) (steps : Nat) (forwards : Frontier) :
    List Int → Frontier → Except (Int × Int) Frontier
  | [], backwards => .ok backwards
  | diagonal :: rest, backwards =>
      let x := backwards.step steps diagonal
      let y := x - diagonal
      let gained := advance old new x y
      let backwards := backwards.put diagonal (x + gained)
      let delta : Int := (old.size : Int) - new.size
      if delta % 2 == 0 && (diagonal - delta).natAbs ≤ steps &&
          (old.size : Int) ≤ x + gained + forwards.get (delta - diagonal) then
        .error (old.size - (x + gained), new.size - (y + gained))
      else backward old new steps forwards rest backwards

def meet (old new oldReversed newReversed : Array α) :
    (remaining steps : Nat) → (forwards backwards : Frontier) → Option (Int × Int)
  | 0, _, _, _ => none
  | remaining + 1, steps, forwards, backwards =>
      match forward old new steps backwards (diagonals steps) forwards with
      | .error point => some point
      | .ok forwards =>
          match backward oldReversed newReversed steps forwards (diagonals steps) backwards with
          | .error point => some point
          | .ok backwards =>
              meet old new oldReversed newReversed remaining (steps + 1) forwards backwards

/-- A point on a shortest path, as positions in the old and the new text. -/
def middle (old new : List α) : Option (Nat × Nat) :=
  let reach := (old.length + new.length + 1) / 2 + 1
  (meet old.toArray new.toArray old.reverse.toArray new.reverse.toArray reach 0
    (Frontier.start reach) (Frontier.start reach)).map fun (x, y) => (x.toNat, y.toNat)

def sameRun (tokens : List α) : List (Edit α) := if tokens.isEmpty then [] else [.same tokens]

/-- The edits between two texts, what they share at both ends taken off first. -/
def script (fuel : Nat) (old new : List α) : List (Edit α) :=
  match fuel with
  | 0 => [.removed old, .added new]
  | fuel + 1 =>
      let before := commonPrefix old new
      let oldRest := old.drop before
      let newRest := new.drop before
      let after := commonSuffix oldRest newRest
      let oldInner := oldRest.take (oldRest.length - after)
      let newInner := newRest.take (newRest.length - after)
      let inner :=
        match oldInner, newInner with
        | [], [] => []
        | oldInner, [] => [.removed oldInner]
        | [], newInner => [.added newInner]
        | oldInner, newInner =>
            match middle oldInner newInner with
            | some (x, y) =>
                script fuel (oldInner.take x) (newInner.take y) ++
                  script fuel (oldInner.drop x) (newInner.drop y)
            | none => [.removed oldInner, .added newInner]
      sameRun (old.take before) ++ inner ++ sameRun (oldRest.drop (oldRest.length - after))

/-- An edit among others: those before it in reverse order, and those after it. -/
structure Cursor (α : Type) where
  before : List (Edit α)
  current : Edit α
  after : List (Edit α)

namespace Cursor

def keep (tokens : List α) (others : List (Edit α)) : List (Edit α) :=
  if tokens.isEmpty then others else .same tokens :: others

def joinFront (tokens : List α) : List (Edit α) → List (Edit α)
  | .same others :: rest => .same (tokens ++ others) :: rest
  | rest => .same tokens :: rest

def joinBack (tokens : List α) : List (Edit α) → List (Edit α)
  | .same others :: rest => .same (others ++ tokens) :: rest
  | rest => .same tokens :: rest

/-- Move an edit towards the start: additions slide along shared tokens, and edits of one kind
are joined. -/
def moveUp (fuel : Nat) (cursor : Cursor α) : Cursor α :=
  match fuel with
  | 0 => cursor
  | fuel + 1 =>
      match cursor.before, cursor.current with
      | [], _ => cursor
      | .same shared :: before, .added tokens =>
          let slide := commonSuffix shared tokens
          if 0 < slide then
            let kept := shared.take (shared.length - slide)
            let moved := shared.drop (shared.length - slide)
            moveUp fuel
              ⟨keep kept before, .added (moved ++ tokens.take (tokens.length - slide)),
                joinFront moved cursor.after⟩
          else if shared.isEmpty then moveUp fuel { cursor with before }
          else cursor
      | .same shared :: before, _ =>
          if shared.isEmpty then moveUp fuel { cursor with before } else cursor
      | .added others :: before, .added tokens =>
          moveUp fuel { cursor with before, current := .added (others ++ tokens) }
      | .removed others :: before, .removed tokens =>
          moveUp fuel { cursor with before, current := .removed (others ++ tokens) }
      | other :: before, _ => moveUp fuel { cursor with before, after := other :: cursor.after }

def moveDown (fuel : Nat) (cursor : Cursor α) : Cursor α :=
  match fuel with
  | 0 => cursor
  | fuel + 1 =>
      match cursor.after, cursor.current with
      | [], _ => cursor
      | .same shared :: after, .added tokens =>
          let slide := commonPrefix shared tokens
          if 0 < slide then
            let moved := shared.take slide
            moveDown fuel
              ⟨joinBack moved cursor.before, .added (tokens.drop slide ++ moved),
                keep (shared.drop slide) after⟩
          else if shared.isEmpty then moveDown fuel { cursor with after }
          else cursor
      | .same shared :: after, _ =>
          if shared.isEmpty then moveDown fuel { cursor with after } else cursor
      | .added others :: after, .added tokens =>
          moveDown fuel { cursor with after, current := .added (tokens ++ others) }
      | .removed others :: after, .removed tokens =>
          moveDown fuel { cursor with after, current := .removed (tokens ++ others) }
      | other :: after, _ =>
          moveDown fuel { cursor with after, before := other :: cursor.before }

end Cursor

def settle (fuel bound : Nat) (wanted : Edit α → Bool) (before after : List (Edit α)) :
    List (Edit α) :=
  match fuel, after with
  | 0, after => before.reverse ++ after
  | _, [] => before.reverse
  | fuel + 1, edit :: after =>
      if wanted edit then
        let cursor := ((Cursor.mk before edit after).moveUp bound).moveDown bound
        settle fuel bound wanted (cursor.current :: cursor.before) cursor.after
      else settle fuel bound wanted (edit :: before) after

def isRemoved : Edit α → Bool
  | .removed _ => true
  | _ => false

def isAdded : Edit α → Bool
  | .added _ => true
  | _ => false

/-- Between shared tokens first what is removed, then what is added. -/
def arrange (removed added : List α) : List (Edit α) → List (Edit α)
  | [] => [.removed removed, .added added]
  | .removed tokens :: rest => arrange (removed ++ tokens) added rest
  | .added tokens :: rest => arrange removed (added ++ tokens) rest
  | .same tokens :: rest => .removed removed :: .added added :: .same tokens :: arrange [] [] rest

def edits (old new : List α) : List (Edit α) :=
  let size := old.length + new.length + 2
  let found := script size old new
  let bound := 4 * size + found.length
  let removals := settle (2 * bound) bound isRemoved [] found
  arrange [] [] (settle (2 * bound) bound isAdded [] removals)

end Diff

end ServiceStub.Text
