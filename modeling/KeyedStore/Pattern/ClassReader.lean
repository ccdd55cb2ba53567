import KeyedStore.Pattern.Escape

/-!
# Reading classes

Classes of characters between brackets: characters, ranges, escapes, named classes, further classes
between brackets, and operators. All operators bind alike, from left to right, and more weakly than
mere succession. A closing bracket that comes first, and minus signs that come first, stand for
themselves.

## References

- SPEC_FULL.md, section 10.8, Logging: patterns in the filter that `init_logging` reads
-/

namespace KeyedStore.Pattern

open Text

/-- A class that has been opened, as far as it has been read. -/
structure OpenClass where
  /-- The bracket that opens it, with what stands directly behind. -/
  opening : Span
  /-- Whether it holds the characters outside of what is written. -/
  negated : Bool
  /-- What stands before the last operator, and the operator. -/
  left : Option (CharClass × ClassOperator)
  /-- Where the items behind the last operator begin. -/
  start : Nat
  /-- The items behind the last operator, the last one first. -/
  items : List CharClass

namespace OpenClass

/-- A class with one more item. -/
def push (level : OpenClass) (item : CharClass) : OpenClass :=
  { level with items := item :: level.items }

/-- The items behind the last operator as one class. -/
def lastItems (level : OpenClass) : CharClass :=
  match level.items with
  | [] => .union ⟨level.start, level.start⟩ []
  | [item] => item
  | last :: others =>
    .union ⟨((others.getLast?.getD last).span).start, last.span.stop⟩ (last :: others).reverse

/-- All that has been read, as one class. -/
def inner (level : OpenClass) : CharClass :=
  let right := level.lastItems
  match level.left with
  | none => right
  | some (left, operator) => .joined ⟨left.span.start, right.span.stop⟩ operator left right

/-- A class behind an operator that has just been read up to a place. -/
def operate (level : OpenClass) (operator : ClassOperator) (place : Nat) : OpenClass :=
  { level with left := some (level.inner, operator), start := place, items := [] }

/-- The class with a bracket behind it that ends at a place. -/
def close (level : OpenClass) (stop : Nat) : CharClass :=
  .bracketed ⟨level.opening.start, stop⟩ level.negated level.inner

end OpenClass

/-- The ranges of the class of ASCII characters that has a name. -/
def namedRanges? : String → Option (List (Nat × Nat))
  | "alnum" => some [(48, 57), (65, 90), (97, 122)]
  | "alpha" => some [(65, 90), (97, 122)]
  | "ascii" => some [(0, 127)]
  | "blank" => some [(9, 9), (32, 32)]
  | "cntrl" => some [(0, 31), (127, 127)]
  | "digit" => some [(48, 57)]
  | "graph" => some [(33, 126)]
  | "lower" => some [(97, 122)]
  | "print" => some [(32, 126)]
  | "punct" => some [(33, 47), (58, 64), (91, 96), (123, 126)]
  | "space" => some [(9, 13), (32, 32)]
  | "upper" => some [(65, 90)]
  | "word" => some [(48, 57), (65, 90), (95, 95), (97, 122)]
  | "xdigit" => some [(48, 57), (65, 70), (97, 102)]
  | _ => none

/-- A named class between brackets and colons that a text begins with: its ranges, whether it is
negated, and its length. -/
def namedClass? (chars : List Char) : Option (List (Nat × Nat) × Bool × Nat) :=
  let (negated, inside) := match chars with
    | '[' :: ':' :: '^' :: rest => (true, some rest)
    | '[' :: ':' :: rest => (false, some rest)
    | _ => (false, none)
  match inside.map (cut ':') with
  | some (name, some (']' :: _)) => do
    let ranges ← namedRanges? (String.ofList name)
    return (ranges, negated, name.length + if negated then 5 else 4)
  | _ => none

/-- The character behind the next one, with blanks and marks of comments passed over if they count
for nothing. -/
def Cursor.behind? (cursor : Cursor) : Option Char :=
  let after := cursor.rest.drop 1
  if cursor.skipsBlanks then
    match after.dropWhile isBlank with
    | '#' :: comment => (comment.dropWhile isBlank).head?.or after.head?
    | rest => rest.head?.or after.head?
  else after.head?

namespace Reading

/-- Read the minus signs that come first in a class. -/
def firstMinuses (start : Nat) : Reading (List CharClass) :=
  loop (fun items => do
    if (← peek?) = some '-' then
      let here ← place
      advance
      if (← peek?).isNone then fail .classUnclosed start start
      return .inl (.literal ⟨⟨here, here + 1⟩, '-', false⟩ :: items)
    else return .inr items) []

/-- Stop if the pattern ends where a class goes on that begins at a place. -/
def expectMore (start : Nat) : Reading Unit := do
  if (← peek?).isNone then fail .classUnclosed start (← place)

/-- Open a class. -/
def openClass : Reading OpenClass := do
  let start ← place
  advance
  expectMore start
  let negated := (← peek?) = some '^'
  if negated then
    advance
    expectMore start
  let first ← place
  let minuses ← firstMinuses start
  let here ← place
  -- An empty class cannot be written: a closing bracket that comes first is a character.
  if minuses.isEmpty ∧ (← peek?) = some ']' then
    advance
    expectMore start
    return ⟨⟨start, ← place⟩, negated, none, first, [.literal ⟨⟨here, here + 1⟩, ']', false⟩]⟩
  else return ⟨⟨start, here⟩, negated, none, first, minuses⟩

/-- Read a character of a class or an escape in it. -/
def classItem (c : Char) : Reading Tree := do
  if c = '\\' then escape
  else
    let here ← place
    skip 1
    return .literal ⟨⟨here, here + 1⟩, c, false⟩

/-- A part as an item of a class. -/
def asItem : Tree → Reading CharClass
  | .literal written => return .literal written
  | .charClass inner => return inner
  | other => fail .classEscape other.span.start other.span.stop

/-- A part as the end of a range. -/
def asRangeEnd : Tree → Reading Literal
  | .literal written => return written
  | other => fail .classRangeEnd other.span.start other.span.stop

/-- Stop if the pattern ends within a class. -/
def expectInside (level : OpenClass) : Reading Unit := do
  if (← peek?).isNone then fail .classUnclosed level.opening.start level.opening.stop

/-- Read an item of a class, or a range. -/
def itemOrRange (level : OpenClass) (c : Char) : Reading CharClass := do
  let first ← classItem c
  skipBlanks
  expectInside level
  let behind := (← get).behind?
  -- A minus sign before a bracket is a character, and two of them are an operator.
  if (← peek?) ≠ some '-' ∨ behind = some ']' ∨ behind = some '-' then asItem first
  else
    advance
    expectInside level
    let last ← classItem ((← peek?).getD '-')
    let span : Span := ⟨first.span.start, last.span.stop⟩
    let least ← asRangeEnd first
    let greatest ← asRangeEnd last
    if greatest.char < least.char then fail .classRangeOrder span.start span.stop
    return .range span least greatest

/-- The operator that a text begins with. -/
def operator? : List Char → Option ClassOperator
  | '&' :: '&' :: _ => some .both
  | '-' :: '-' :: _ => some .without
  | '~' :: '~' :: _ => some .either
  | _ => none

/-- Read the next part of a class. The result is the class when the outermost bracket is closed;
before that it is the open class with the classes around it. -/
def classStep (level : OpenClass) (outer : List OpenClass) :
    Reading ((OpenClass × List OpenClass) ⊕ CharClass) := do
  skipBlanks
  expectInside level
  let rest := (← get).rest
  let here ← place
  match rest with
  | '[' :: _ =>
    match namedClass? rest with
    | some (ranges, negated, count) =>
      skip count
      return .inl (level.push (.named ⟨here, here + count⟩ ranges negated), outer)
    | none => return .inl (← openClass, level :: outer)
  | ']' :: _ =>
    skip 1
    let closed := level.close (← place)
    match outer with
    | [] => return .inr closed
    | around :: outer => return .inl (around.push closed, outer)
  | c :: _ =>
    match operator? rest with
    | some operator =>
      skip 2
      return .inl (level.operate operator (← place), outer)
    | none => return .inl (level.push (← itemOrRange level c), outer)
  | [] => fail .classUnclosed level.opening.start level.opening.stop

/-- Read a class between brackets. -/
def bracketed : Reading CharClass := do
  let first ← openClass
  loop (fun (level, outer) => classStep level outer) (first, [])

end Reading

end KeyedStore.Pattern
