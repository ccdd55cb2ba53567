import KeyedStore.Pattern.Cursor
import KeyedStore.Text.Hex

/-!
# Escapes in patterns

What stands behind a backslash: a character that would have a meaning of its own, a control, a code
point, a class, a property or an anchor. Letters and digits that mean nothing are refused, so that
they can get a meaning later.

## References

- SPEC_FULL.md, section 10.8, Logging: patterns in the filter that `init_logging` reads
-/

namespace KeyedStore.Pattern

open Text

namespace Reading

/-- Read so many hexadecimal digits. -/
def hexFixed : Nat → Nat → Reading Nat
  | 0, value => return value
  | count + 1, value => do
    match ← peek? with
    | none => failBetween .escapeUnfinished
    | some c =>
      match hexValue? c with
      | none => failHere .hexDigit
      | some digit =>
        advance
        hexFixed count (16 * value + digit)

/-- Read hexadecimal digits between braces, and the place of the closing one. -/
def hexBraced (brace : Nat) : Reading (Nat × Nat) := do
  advance
  let (value, stop) ← loop (fun value => do
    match ← peek? with
    | none => fail .escapeUnfinished brace (← place)
    | some c =>
      if c = '\x7d' then
        let stop ← place
        advance
        return .inr (value, stop)
      else
        match hexValue? c with
        | none => failHere .hexDigit
        | some digit =>
          advance
          return .inl (some (16 * value.getD 0 + digit))) (none : Option Nat)
  match value with
  | none => fail .hexEmpty brace (← place)
  | some value => return (value, stop)

/-- Read a code point behind the letter that says how many digits it has without braces. -/
def codePoint (start : Nat) (letter : Char) : Reading Literal := do
  advance
  let first ← place
  match ← peek? with
  | none => failBetween .escapeUnfinished
  | some c =>
    let isBraced := c = '\x7b'
    let (value, stop) ← if isBraced then hexBraced first else do
      let value ← hexFixed (if letter = 'x' then 2 else if letter = 'u' then 4 else 8) 0
      pure (value, ← place)
    if value.isValidChar then
      return ⟨⟨start, ← place⟩, Char.ofNat value, letter = 'x' ∧ ¬ isBraced⟩
    else fail .hexInvalid (if isBraced then first + 1 else first) stop

/-- Read a property behind its letter: a name between braces, or a name of one letter. -/
def property (start : Nat) : Reading CharClass := do
  advance
  match ← peek? with
  | none => failBetween .escapeUnfinished
  | some c =>
    let name ← if c = '\x7b' then do
        advance
        loop (fun name => do
          match ← peek? with
          | none => failBetween .escapeUnfinished
          | some c =>
            if c = '\x7d' then
              skip 1
              return .inr name
            else
              advance
              return .inl (name ++ [c])) []
      else if c = '\\' then failHere .propertyInvalid
      else do
        advance
        pure [c]
    return .property ⟨start, ← place⟩ (String.ofList name)

/-- Whether a character can be in the name of a boundary of words. -/
def isInBoundaryName (c : Char) : Bool :=
  c.isAlpha || c = '-'

/-- The boundary of words of a name. -/
def boundaryNamed? : String → Option Anchor
  | "start" => some .wordStart
  | "end" => some .wordEnd
  | "start-half" => some .wordStartHalf
  | "end-half" => some .wordEndHalf
  | _ => none

/-- Read the name of a boundary of words between braces, if there is one. Braces that begin with
another character hold a number of repetitions. -/
def boundaryName? (start : Nat) : Reading (Option Anchor) := do
  let before ← get
  advance
  let first ← place
  match ← peek? with
  | none => fail .boundaryUnfinished start (← place)
  | some c =>
    if isInBoundaryName c then
      let name ← loop (fun name => do
        match ← peek? with
        | some c =>
          if isInBoundaryName c then
            advance
            return .inl (name ++ [c])
          else return .inr name
        | none => return .inr name) []
      if (← peek?) = some '\x7d' then
        let stop ← place
        skip 1
        match boundaryNamed? (String.ofList name) with
        | some anchor => return some anchor
        | none => fail .boundaryUnknown first stop
      else fail .boundaryUnclosed before.place (← place)
    else
      set before
      return none

/-- Whether a character has a meaning of its own in a pattern. -/
def hasMeaning (c : Char) : Bool :=
  c ∈ ['\\', '.', '+', '*', '?', '(', ')', '|', '[', ']', '\x7b', '\x7d', '^', '$', '#', '&', '-',
    '~']

/-- Whether a character stands for itself behind a backslash: every ASCII character but the letters,
the digits and the two signs for ends of words. -/
def isEscapable (c : Char) : Bool :=
  hasMeaning c || (c.toNat < 128 && !c.isAlphanum && c ≠ '<' && c ≠ '>')

/-- The control that a letter behind a backslash stands for. -/
def control? : Char → Option Char
  | 'a' => some '\x07'
  | 'f' => some '\x0c'
  | 't' => some '\t'
  | 'n' => some '\n'
  | 'r' => some '\r'
  | 'v' => some '\x0b'
  | _ => none

/-- The anchor that a character behind a backslash stands for. -/
def anchor? : Char → Option Anchor
  | 'A' => some .textStart
  | 'z' => some .textEnd
  | 'b' => some .boundary
  | 'B' => some .notBoundary
  | '<' => some .wordStart
  | '>' => some .wordEnd
  | _ => none

/-- The class that a letter behind a backslash stands for, with the characters outside it for a
capital letter. -/
def shortClass? : Char → Option (ShortClass × Bool)
  | 'd' => some (.digit, false)
  | 'D' => some (.digit, true)
  | 's' => some (.space, false)
  | 'S' => some (.space, true)
  | 'w' => some (.word, false)
  | 'W' => some (.word, true)
  | _ => none

/-- Read an escape of one character behind the backslash. -/
def shortEscape (start : Nat) (c : Char) : Reading Tree := do
  skip 1
  let span : Span := ⟨start, ← place⟩
  if isEscapable c then return .literal ⟨span, c, false⟩
  if let some control := control? c then return .literal ⟨span, control, false⟩
  if let some (kind, negated) := shortClass? c then return .charClass (.short span kind negated)
  match anchor? c with
  | none => fail .escapeUnknown span.start span.stop
  | some anchor =>
    -- Only the boundary of words may have a name behind it.
    if c = 'b' ∧ (← peek?) = some '\x7b' then
      match ← boundaryName? start with
      | some named => return .anchor ⟨start, ← place⟩ named
      | none => return .anchor span anchor
    else return .anchor span anchor

/-- Read an escape. -/
def escape : Reading Tree := do
  let start ← place
  skip 1
  match ← peek? with
  | none => fail .escapeUnfinished start (← place)
  | some c =>
    if isDigit c then fail .backreference start ((← place) + 1)
    else if c ∈ ['x', 'u', 'U'] then return .literal (← codePoint start c)
    else if c = 'p' ∨ c = 'P' then return .charClass (← property start)
    else shortEscape start c

end Reading

end KeyedStore.Pattern
