import KeyedStore.Pattern.Tree
import KeyedStore.Text.Basic

/-!
# Reading patterns

A cursor goes through a pattern from left to right. `Reading` is a computation that moves the cursor
or finds a fault. Loops end because every round but the last reads at least one character.

## References

- SPEC_FULL.md, section 10.8, Logging: patterns in the filter that `init_logging` reads
-/

namespace KeyedStore.Pattern

open Text

/-- How far a pattern has been read. -/
structure Cursor where
  /-- The characters that have not been read. -/
  rest : List Char
  /-- How many have been read. -/
  place : Nat
  /-- Whether blanks and comments count for nothing. -/
  skipsBlanks : Bool
  /-- The names of groups so far. -/
  names : List (String × Span)

/-- A computation that reads a pattern. -/
abbrev Reading := StateT Cursor (Except Fault)

/-- How many characters are blanks or in comments, from the beginning or from within a comment. -/
def blankCount : Bool → List Char → Nat
  | _, [] => 0
  | true, c :: rest => 1 + blankCount (c ≠ '\n') rest
  | false, c :: rest =>
    if isBlank c then 1 + blankCount false rest
    else if c = '#' then 1 + blankCount true rest
    else 0

/-- Read so many characters, or all if there are fewer. -/
def Cursor.skip (count : Nat) (cursor : Cursor) : Cursor :=
  { cursor with
    rest := cursor.rest.drop count, place := cursor.place + min count cursor.rest.length }

/-- Read blanks and comments if they count for nothing. -/
def Cursor.skipBlanks (cursor : Cursor) : Cursor :=
  if cursor.skipsBlanks then cursor.skip (blankCount false cursor.rest) else cursor

namespace Reading

variable {α β : Type}

/-- The next character. -/
def peek? : Reading (Option Char) := do
  return (← get).rest.head?

/-- The place of the cursor. -/
def place : Reading Nat := do
  return (← get).place

/-- Read so many characters. -/
def skip (count : Nat) : Reading Unit :=
  modify (·.skip count)

/-- Read blanks and comments if they count for nothing. -/
def skipBlanks : Reading Unit :=
  modify (·.skipBlanks)

/-- Read a character and what counts for nothing behind it. -/
def advance : Reading Unit := do
  skip 1
  skipBlanks

/-- Read a text if it is next. -/
def skipIf (text : String) : Reading Bool := do
  let isNext := text.toList.isPrefixOf (← get).rest
  if isNext then skip text.length
  return isNext

/-- Stop at a fault between two places. -/
def fail (kind : FaultKind) (start stop : Nat) : Reading α :=
  throw ⟨kind, ⟨start, stop⟩, none⟩

/-- Stop at a fault of the next character. -/
def failHere (kind : FaultKind) : Reading α := do
  fail kind (← place) ((← place) + 1)

/-- Stop at a fault between two characters. -/
def failBetween (kind : FaultKind) : Reading α := do
  fail kind (← place) (← place)

/-- Repeat a step until it has a result. A step that has none must have read something; one that has
not would be repeated for ever and counts as an unfinished escape. -/
def loop (step : α → Reading (α ⊕ β)) (start : α) : Reading β := fun cursor =>
  match step start cursor with
  | .error fault => .error fault
  | .ok (.inr result, after) => .ok (result, after)
  | .ok (.inl next, after) =>
    if after.rest.length < cursor.rest.length then loop step next after
    else .error ⟨.escapeUnfinished, ⟨cursor.place, cursor.place⟩, none⟩
termination_by cursor => cursor.rest.length

end Reading

end KeyedStore.Pattern
