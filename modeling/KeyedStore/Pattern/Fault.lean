import KeyedStore.Text.Basic
import KeyedStore.Text.Digits

/-!
# Faults of patterns

Why a text is not a pattern, and how the fault is shown. A report repeats the pattern with carets
under the place of the fault, and under a second place if the fault has to do with two. The lines of
a pattern of several lines are numbered and stand between two rules.

## References

- SPEC_FULL.md, section 10.8, Logging: patterns in the filter that `init_logging` reads
-/

namespace KeyedStore.Pattern

open Text

/-- A part of a pattern: the places of its first character and of the one behind its last. -/
structure Span where
  /-- The place of the first character. -/
  start : Nat
  /-- The place behind the last character. -/
  stop : Nat
deriving DecidableEq

/-- What is wrong with a pattern. -/
inductive FaultKind where
  /-- An escape in a class is not a character. -/
  | classEscape
  /-- A range of a class ends before it begins. -/
  | classRangeOrder
  /-- A range of a class has an end that is not a character. -/
  | classRangeEnd
  /-- A class is not closed. -/
  | classUnclosed
  /-- A number of repetitions is too large. -/
  | countInvalid
  /-- A number of repetitions is missing. -/
  | countMissing
  /-- The least number of repetitions is above the greatest. -/
  | countOrder
  /-- The numbers of repetitions are not closed. -/
  | countUnclosed
  /-- Nothing stands before a repetition. -/
  | nothingToRepeat
  /-- A code point has no digits. -/
  | hexEmpty
  /-- A code point is not that of a character. -/
  | hexInvalid
  /-- A digit of a code point is not one. -/
  | hexDigit
  /-- The pattern ends within an escape. -/
  | escapeUnfinished
  /-- An escape is not known. -/
  | escapeUnknown
  /-- A number behind a backslash would ask for an earlier group. -/
  | backreference
  /-- A group looks ahead or behind. -/
  | lookAround
  /-- A minus sign among flags has no flag behind it. -/
  | flagDangling
  /-- A flag is repeated. -/
  | flagRepeated
  /-- The minus sign among flags is repeated. -/
  | minusRepeated
  /-- The pattern ends within flags. -/
  | flagUnfinished
  /-- A flag is not known. -/
  | flagUnknown
  /-- Two groups have one name. -/
  | nameRepeated
  /-- A group has an empty name. -/
  | nameEmpty
  /-- The name of a group has a character that cannot be in one. -/
  | nameInvalid
  /-- The pattern ends within the name of a group. -/
  | nameUnfinished
  /-- A group is not closed. -/
  | groupUnclosed
  /-- A group is closed that has not been opened. -/
  | groupUnopened
  /-- Groups and classes are nested too deeply. -/
  | nestedTooDeeply
  /-- The name of a boundary of words is not closed. -/
  | boundaryUnclosed
  /-- The name of a boundary of words is not known. -/
  | boundaryUnknown
  /-- The pattern ends where a boundary or a repetition may be meant. -/
  | boundaryUnfinished
  /-- A property has no name. -/
  | propertyInvalid
  /-- A property is not known. -/
  | propertyUnknown
  /-- The value of a property is not known. -/
  | propertyValueUnknown
  /-- A class that needs tables of all scripts. -/
  | scriptsUnknown
  /-- Letters of either case, which need tables of all scripts. -/
  | casesUnknown
  /-- A character of more than one byte where bytes are meant. -/
  | notByte
  /-- Bytes that are not a text. -/
  | notText
deriving DecidableEq

/-- A fault with its place in the pattern. -/
structure Fault where
  /-- What is wrong. -/
  kind : FaultKind
  /-- Where it is wrong. -/
  span : Span
  /-- The earlier place that it has to do with. -/
  other : Option Span := none

/-- The wording of a fault. -/
def FaultKind.message : FaultKind → String
  | .classEscape => "invalid escape sequence found in character class"
  | .classRangeOrder => "invalid character class range, the start must be <= the end"
  | .classRangeEnd => "invalid range boundary, must be a literal"
  | .classUnclosed => "unclosed character class"
  | .countInvalid => "decimal literal invalid"
  | .countMissing => "repetition quantifier expects a valid decimal"
  | .countOrder => "invalid repetition count range, the start must be <= the end"
  | .countUnclosed => "unclosed counted repetition"
  | .nothingToRepeat => "repetition operator missing expression"
  | .hexEmpty => "hexadecimal literal empty"
  | .hexInvalid => "hexadecimal literal is not a Unicode scalar value"
  | .hexDigit => "invalid hexadecimal digit"
  | .escapeUnfinished => "incomplete escape sequence, reached end of pattern prematurely"
  | .escapeUnknown => "unrecognized escape sequence"
  | .backreference => "backreferences are not supported"
  | .lookAround => "look-around, including look-ahead and look-behind, is not supported"
  | .flagDangling => "dangling flag negation operator"
  | .flagRepeated => "duplicate flag"
  | .minusRepeated => "flag negation operator repeated"
  | .flagUnfinished => "expected flag but got end of regex"
  | .flagUnknown => "unrecognized flag"
  | .nameRepeated => "duplicate capture group name"
  | .nameEmpty => "empty capture group name"
  | .nameInvalid => "invalid capture group character"
  | .nameUnfinished => "unclosed capture group name"
  | .groupUnclosed => "unclosed group"
  | .groupUnopened => "unopened group"
  | .nestedTooDeeply => "exceed the maximum number of nested parentheses/brackets (250)"
  | .boundaryUnclosed =>
    "special word boundary assertion is either unclosed or contains an invalid character"
  | .boundaryUnknown =>
    "unrecognized special word boundary assertion, valid choices are: " ++
      "start, end, start-half or end-half"
  | .boundaryUnfinished =>
    "found either the beginning of a special word boundary or a bounded repetition on a \\b " ++
      "with an opening brace, but no closing brace"
  | .propertyInvalid => "invalid Unicode character class"
  | .propertyUnknown => "Unicode property not found"
  | .propertyValueUnknown => "Unicode property value not found"
  | .scriptsUnknown =>
    "Unicode-aware Perl class not found (make sure the unicode-perl feature is enabled)"
  | .casesUnknown =>
    "Unicode-aware case insensitivity matching is not available " ++
      "(make sure the unicode-case feature is enabled)"
  | .notByte => "Unicode not allowed here"
  | .notText => "pattern can match invalid UTF-8"

/-- The line of a place and its column in it, both counted from zero. -/
def position (pattern : List Char) (place : Nat) : Nat × Nat :=
  let before := pattern.take place
  (before.count '\n', (before.reverse.takeWhile (· ≠ '\n')).length)

/-- The carets under the parts of a line, each given by its first column and the one behind its
last. Every part has at least one caret. -/
def carets : Nat → List (Nat × Nat) → List Char
  | _, [] => []
  | column, (start, stop) :: rest =>
    let count := max 1 (stop - start)
    List.replicate (start - column) ' ' ++ List.replicate count '^' ++
      carets (max column start + count) rest

namespace Fault

/-- The places of a fault, in order. -/
def spans (fault : Fault) : List Span :=
  match fault.other with
  | none => [fault.span]
  | some other =>
    if other.start ≤ fault.span.start then [other, fault.span] else [fault.span, other]

/-- The places of a fault that lie within one line, as columns. -/
def columnsIn (pattern : List Char) (fault : Fault) (line : Nat) : List (Nat × Nat) :=
  fault.spans.filterMap fun span =>
    let (first, start) := position pattern span.start
    let (last, stop) := position pattern span.stop
    if first = line ∧ last = line then some (start, stop) else none

/-- Lines of a pattern from one of a given number on, each with the carets under it. -/
def notated (pattern : List Char) (fault : Fault) (width : Nat) : Nat → List (List Char) →
    List (List Char)
  | _, [] => []
  | line, chars :: rest =>
    let number := digits (line + 1)
    -- A single line is indented; of several lines each has its number.
    let margin := if width = 0 then List.replicate 4 ' '
      else List.replicate (width - number.length) ' ' ++ number ++ [':', ' ']
    let under := match fault.columnsIn pattern line with
      | [] => []
      | columns => [List.replicate margin.length ' ' ++ carets 0 columns]
    (margin ++ chars) :: (under ++ notated pattern fault width (line + 1) rest)

/-- A place of a fault that goes over several lines, in words. -/
def acrossLines? (pattern : List Char) (span : Span) : Option (List Char) :=
  let (first, start) := position pattern span.start
  let (last, stop) := position pattern span.stop
  if first = last then none
  else some ("on line ".toList ++ digits (first + 1) ++ " (column ".toList ++ digits (start + 1) ++
    ") through line ".toList ++ digits (last + 1) ++ " (column ".toList ++ digits stop ++ [')'])

/-- The report about a fault. -/
def report (text : String) (fault : Fault) : String :=
  let pattern := text.toList
  let message := "error: ".toList ++ fault.kind.message.toList
  let body := if '\n' ∈ pattern then
      let rule := List.replicate 79 '~'
      -- A line break at the end begins a further line.
      let width := (digits (splitOn '\n' pattern).length).length
      let across := fault.spans.filterMap (acrossLines? pattern)
      [rule] ++ fault.notated pattern width 0 (lines pattern) ++ [rule] ++ across
    else fault.notated pattern 0 0 (lines pattern)
  String.ofList (List.intercalate ['\n'] (["regex parse error:".toList] ++ body ++ [message]))

end Fault

end KeyedStore.Pattern
