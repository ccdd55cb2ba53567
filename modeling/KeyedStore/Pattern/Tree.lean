import KeyedStore.Pattern.Fault

/-!
# Trees of patterns

A pattern as it is written: characters, classes, anchors, repetitions, groups, alternatives, and the
flags that change how the rest is meant. Every part knows its place in the text, because faults that
show only later must name it.

## References

- SPEC_FULL.md, section 10.8, Logging: patterns in the filter that `init_logging` reads
-/

namespace KeyedStore.Pattern

/-- The flags of a pattern. -/
inductive Flag where
  /-- Letters of either case. -/
  | anyCase
  /-- Lines have ends of their own. -/
  | lines
  /-- A point is a line break too. -/
  | wholeText
  /-- Short repetitions come first. -/
  | shortFirst
  /-- Characters, not bytes, are meant. -/
  | characters
  /-- A carriage return is a line break too. -/
  | returns
  /-- Blanks and comments count for nothing. -/
  | blanks
deriving DecidableEq

/-- A word among flags. -/
inductive FlagWord where
  /-- The minus sign, behind which flags are taken back. -/
  | minus
  /-- A flag. -/
  | flag (flag : Flag)
deriving DecidableEq

/-- What words say about a flag, if it is among them. -/
def FlagWord.setting? (flag : Flag) (words : List FlagWord) : Option Bool :=
  if .flag flag ∈ words then some (.minus ∉ words.takeWhile (· ≠ .flag flag)) else none

/-- The places in a text that a pattern can ask for. -/
inductive Anchor where
  /-- The beginning of a line. -/
  | lineStart
  /-- The end of a line. -/
  | lineEnd
  /-- The beginning of the text. -/
  | textStart
  /-- The end of the text. -/
  | textEnd
  /-- The beginning or the end of a word. -/
  | boundary
  /-- A place that is neither. -/
  | notBoundary
  /-- The beginning of a word. -/
  | wordStart
  /-- The end of a word. -/
  | wordEnd
  /-- A place behind no word. -/
  | wordStartHalf
  /-- A place before no word. -/
  | wordEndHalf
deriving DecidableEq

/-- The classes of characters that have a letter. -/
inductive ShortClass where
  /-- Digits. -/
  | digit
  /-- Blanks. -/
  | space
  /-- Characters of words. -/
  | word
deriving DecidableEq

/-- A character as it is written. -/
structure Literal where
  /-- Its place. -/
  span : Span
  /-- The character. -/
  char : Char
  /-- Whether it is written as the number of a byte. -/
  isByte : Bool

/-- The ways to join two classes. -/
inductive ClassOperator where
  /-- What is in both. -/
  | both
  /-- What is only in the first. -/
  | without
  /-- What is in one of the two only. -/
  | either
deriving DecidableEq

/-- A class of characters. -/
inductive CharClass where
  /-- A character. -/
  | literal (written : Literal)
  /-- The characters between two. -/
  | range (span : Span) (first last : Literal)
  /-- A class of ASCII characters, by closed ranges. -/
  | named (span : Span) (ranges : List (Nat × Nat)) (negated : Bool)
  /-- A class with a letter. -/
  | short (span : Span) (kind : ShortClass) (negated : Bool)
  /-- The characters that have a property. -/
  | property (span : Span) (name : String)
  /-- A class between brackets. -/
  | bracketed (span : Span) (negated : Bool) (inner : CharClass)
  /-- What is in one of several classes. -/
  | union (span : Span) (items : List CharClass)
  /-- Two classes with an operator between them. -/
  | joined (span : Span) (operator : ClassOperator) (left right : CharClass)

/-- The place of a class. -/
def CharClass.span : CharClass → Span
  | .literal written => written.span
  | .range span _ _ | .named span _ _ | .short span _ _ | .property span _ | .bracketed span _ _
  | .union span _ | .joined span _ _ _ => span

/-- A pattern as it is written. -/
inductive Tree where
  /-- Nothing. -/
  | empty (span : Span)
  /-- Flags for what follows. -/
  | flags (span : Span) (words : List FlagWord)
  /-- A character. -/
  | literal (written : Literal)
  /-- Any character. -/
  | point (span : Span)
  /-- A place. -/
  | anchor (span : Span) (kind : Anchor)
  /-- A character of a class. -/
  | charClass (inner : CharClass)
  /-- A part several times. -/
  | repetition (span : Span) (least : Nat) (most : Option Nat) (inner : Tree)
  /-- A group, with flags for it alone. -/
  | group (span : Span) (words : List FlagWord) (inner : Tree)
  /-- One of several parts. -/
  | alternation (span : Span) (items : List Tree)
  /-- Parts in turn. -/
  | sequence (span : Span) (items : List Tree)

namespace Tree

/-- The place of a part. -/
def span : Tree → Span
  | .literal written => written.span
  | .charClass inner => inner.span
  | .empty span | .flags span _ | .point span | .anchor span _ | .repetition span _ _ _
  | .group span _ _ | .alternation span _ | .sequence span _ => span

end Tree

/-- How deeply parts may be nested. -/
def nestLimit : Nat := 250

/-- The place of a part that is nested too deeply, if a part at a depth makes one more level. -/
def tooDeepAt? (depth : Nat) (span : Span) : Option Span :=
  if nestLimit < depth + 1 then some span else none

mutual

/-- The first class within a class that is nested too deeply. -/
def CharClass.tooDeep? (depth : Nat) : CharClass → Option Span
  | .literal _ | .range _ _ _ | .named _ _ _ | .short _ _ _ | .property _ _ | .union _ [] => none
  | .bracketed span _ inner => (tooDeepAt? depth span).or (inner.tooDeep? (depth + 1))
  | .union span items => (tooDeepAt? depth span).or (CharClass.anyTooDeep? (depth + 1) items)
  | .joined span _ left right =>
    ((tooDeepAt? depth span).or (left.tooDeep? (depth + 1))).or (right.tooDeep? (depth + 1))

/-- The first class within several that is nested too deeply. -/
def CharClass.anyTooDeep? (depth : Nat) : List CharClass → Option Span
  | [] => none
  | item :: rest => (item.tooDeep? depth).or (CharClass.anyTooDeep? depth rest)

end

mutual

/-- The first part of a tree that is nested too deeply. -/
def Tree.tooDeep? (depth : Nat) : Tree → Option Span
  | .empty _ | .flags _ _ | .literal _ | .point _ | .anchor _ _ => none
  | .charClass inner => inner.tooDeep? depth
  | .repetition span _ _ inner | .group span _ inner =>
    (tooDeepAt? depth span).or (inner.tooDeep? (depth + 1))
  | .alternation span items | .sequence span items =>
    (tooDeepAt? depth span).or (Tree.anyTooDeep? (depth + 1) items)

/-- The first part of several trees that is nested too deeply. -/
def Tree.anyTooDeep? (depth : Nat) : List Tree → Option Span
  | [] => none
  | item :: rest => (item.tooDeep? depth).or (Tree.anyTooDeep? depth rest)

end

end KeyedStore.Pattern
