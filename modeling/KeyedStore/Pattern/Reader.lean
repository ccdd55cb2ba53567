import KeyedStore.Pairs
import KeyedStore.Pattern.ClassReader
import KeyedStore.Text.Alphanumeric

/-!
# Reading trees of patterns

A pattern is read from left to right. What has been read at one level is a list of finished branches
and a branch that is still open; an opening parenthesis begins a further level, and a closing one
puts the group at the end of the branch around it. `Tree.read` reads a whole pattern.

## References

- SPEC_FULL.md, section 10.8, Logging: patterns in the filter that `init_logging` reads
-/

namespace KeyedStore.Pattern

open Text

/-- What has been read at one level. -/
structure Level where
  /-- Where the level begins. -/
  start : Nat
  /-- The finished branches, the last one first. -/
  branches : List Tree
  /-- Where the open branch begins. -/
  branchStart : Nat
  /-- The parts of the open branch, the last one first. -/
  items : List Tree

/-- A group that has been opened. -/
structure OpenGroup where
  /-- The level around it. -/
  outside : Level
  /-- Its parenthesis. -/
  span : Span
  /-- Its flags. -/
  words : List FlagWord
  /-- Whether blanks count for nothing around it. -/
  skipsBlanks : Bool

namespace Level

/-- A level that begins at a place. -/
def startAt (place : Nat) : Level :=
  ⟨place, [], place, []⟩

/-- A level with one more part. -/
def push (level : Level) (item : Tree) : Level :=
  { level with items := item :: level.items }

/-- The open branch, which ends at a place. -/
def branch (level : Level) (stop : Nat) : Tree :=
  match level.items with
  | [] => .empty ⟨level.branchStart, stop⟩
  | [item] => item
  | items => .sequence ⟨level.branchStart, stop⟩ items.reverse

/-- A level with a new branch behind the bar at a place. -/
def divide (level : Level) (bar : Nat) : Level :=
  { level with branches := level.branch bar :: level.branches, branchStart := bar + 1, items := [] }

/-- The whole level, which ends at a place. -/
def tree (level : Level) (stop : Nat) : Tree :=
  match level.branches with
  | [] => level.branch stop
  | branches => .alternation ⟨level.start, stop⟩ (branches.reverse ++ [level.branch stop])

end Level

namespace Reading

/-- The flag of a letter. -/
def flag? : Char → Option Flag
  | 'i' => some .anyCase
  | 'm' => some .lines
  | 's' => some .wholeText
  | 'U' => some .shortFirst
  | 'u' => some .characters
  | 'R' => some .returns
  | 'x' => some .blanks
  | _ => none

/-- Read a word among flags, if there is one. -/
def flagWord (c : Char) : Reading FlagWord := do
  if c = '-' then return .minus
  else
    match flag? c with
    | some flag => return .flag flag
    | none => failHere .flagUnknown

/-- Read flags up to a colon or a closing parenthesis. No flag occurs twice, not even behind the
minus sign. -/
def flagWords : Reading (List FlagWord) := do
  let words ← loop (fun words => do
    match ← peek? with
    | none => failBetween .flagUnfinished
    | some c =>
      if c = ':' ∨ c = ')' then return .inr words
      else
        let here : Span := ⟨← place, (← place) + 1⟩
        let word ← flagWord c
        match Pairs.get? word words with
        | some earlier =>
          throw ⟨if word = .minus then .minusRepeated else .flagRepeated, here, some earlier⟩
        | none =>
          skip 1
          return .inl (words ++ [(word, here)])) []
  match words.getLast? with
  | some (.minus, span) => fail .flagDangling span.start span.stop
  | _ => return Pairs.names words

/-- Whether a character can be in the name of a group, or begin it. -/
def isInName (isFirst : Bool) (c : Char) : Bool :=
  if isFirst then c = '_' || isLetter c
  else c ∈ ['_', '.', '[', ']'] || isAlphanumeric c

/-- Read the name of a group up to the closing sign. -/
def groupName : Reading Unit := do
  let start ← place
  let name ← loop (fun name => do
    match ← peek? with
    | none => failBetween .nameUnfinished
    | some c =>
      if c = '>' then return .inr name
      else if isInName name.isEmpty c then
        skip 1
        return .inl (name ++ [c])
      else failHere .nameInvalid) []
  let span : Span := ⟨start, ← place⟩
  skip 1
  if name.isEmpty then fail .nameEmpty start start
  match Pairs.get? (String.ofList name) (← get).names with
  | some earlier => throw ⟨.nameRepeated, span, some earlier⟩
  | none =>
    modify fun cursor => { cursor with names := (String.ofList name, span) :: cursor.names }

/-- What an opening parenthesis begins. -/
inductive Opening where
  /-- A group with flags of its own. -/
  | group (words : List FlagWord)
  /-- Flags for what follows. -/
  | flags (span : Span) (words : List FlagWord)

/-- Read the flags behind an opening parenthesis and a question mark. -/
def flagged (start question : Nat) : Reading Opening := do
  if (← peek?).isNone then fail .groupUnclosed start (start + 1)
  let words ← flagWords
  let isGroup := (← peek?) = some ':'
  skip 1
  if isGroup then return .group words
  else if words.isEmpty then fail .nothingToRepeat question question
  else return .flags ⟨start, ← place⟩ words

/-- Read an opening parenthesis and what belongs to it. -/
def opening : Reading Opening := do
  let start ← place
  advance
  for ahead in ["?=", "?!", "?<=", "?<!"] do
    if ← skipIf ahead then fail .lookAround start (← place)
  let question ← place
  if ← skipIf "?P<" then groupName; return .group []
  if ← skipIf "?<" then groupName; return .group []
  if ← skipIf "?" then flagged start question
  else return .group []

/-- Set whether blanks count for nothing. -/
def setBlanks (words : List FlagWord) : Reading Unit :=
  modify fun cursor =>
    { cursor with skipsBlanks := (FlagWord.setting? .blanks words).getD cursor.skipsBlanks }

/-- The part before a repetition, and the level without it. -/
def repeated (level : Level) : Reading (Tree × Level) := do
  match level.items with
  | [] | .flags _ _ :: _ => failBetween .nothingToRepeat
  | item :: items => return (item, { level with items := items })

/-- Read a question mark that asks for few repetitions, if there is one. It changes which of several
matches is found, and not whether there is one. -/
def fewest : Reading Unit := do
  if (← peek?) = some '?' then skip 1

/-- Read a repetition of one character. -/
def briefRepetition (level : Level) (least : Nat) (most : Option Nat) : Reading Level := do
  let (item, level) ← repeated level
  skip 1
  fewest
  return level.push (.repetition ⟨item.span.start, ← place⟩ least most item)

/-- Read a number of repetitions with blanks around it. Without digits it is a fault, which the
result holds, because another fault may come first. -/
def count : Reading (Except Fault Nat) := do
  skip ((← get).rest.takeWhile isBlank).length
  let start ← place
  let figures ← loop (fun figures => do
    match ← peek? with
    | some c =>
      if isDigit c then
        advance
        return .inl (figures ++ [c])
      else return .inr figures
    | none => return .inr figures) []
  let span : Span := ⟨start, ← place⟩
  loop (fun () => do
    if (← peek?).any isBlank then
      advance
      return .inl ()
    else return .inr ()) ()
  if figures.isEmpty then return .error ⟨.countMissing, span, none⟩
  else if digitsValue figures < UInt32.size then return .ok (digitsValue figures)
  else return .error ⟨.countInvalid, span, none⟩

/-- Read numbers of repetitions between braces. -/
def countedRepetition (level : Level) : Reading Level := do
  let (item, level) ← repeated level
  let start ← place
  let expectMore : Reading Unit := do
    if (← peek?).isNone then fail .countUnclosed start (← place)
  advance
  expectMore
  let first ← count
  expectMore
  let least (first : Except Fault Nat) : Reading Nat := match first with
    | .ok n => return n
    | .error fault => throw fault
  let (fewest, most) ← if (← peek?) = some ',' then do
      advance
      expectMore
      let fewest ← least first
      if (← peek?) = some '\x7d' then pure (fewest, none)
      else pure (fewest, some (← least (← count)))
    else do
      let fewest ← least first
      pure (fewest, some fewest)
  if (← peek?) ≠ some '\x7d' then fail .countUnclosed start (← place)
  advance
  Reading.fewest
  if most.any (· < fewest) then fail .countOrder start (← place)
  return level.push (.repetition ⟨item.span.start, ← place⟩ fewest most item)

/-- Close the innermost group with the parenthesis at the cursor. -/
def closeGroup (level : Level) (groups : List OpenGroup) : Reading (Level × List OpenGroup) := do
  match groups with
  | [] => failHere .groupUnopened
  | group :: groups =>
    let inner := level.tree (← place)
    skip 1
    modify fun cursor => { cursor with skipsBlanks := group.skipsBlanks }
    return (group.outside.push (.group ⟨group.span.start, ← place⟩ group.words inner), groups)

/-- Open a group with the parenthesis at the cursor, or read flags. -/
def openGroup (level : Level) (groups : List OpenGroup) : Reading (Level × List OpenGroup) := do
  let here ← place
  let skipsBlanks := (← get).skipsBlanks
  match ← opening with
  | .flags span words =>
    setBlanks words
    return (level.push (.flags span words), groups)
  | .group words =>
    setBlanks words
    return (.startAt (← place), ⟨level, ⟨here, here + 1⟩, words, skipsBlanks⟩ :: groups)

/-- Read the next part of a pattern. The result is the whole when the pattern ends; before that it
is the level that is being read with the groups around it. -/
def step (level : Level) (groups : List OpenGroup) :
    Reading ((Level × List OpenGroup) ⊕ Tree) := do
  skipBlanks
  let here ← place
  match ← peek? with
  | none =>
    match groups with
    | [] => return .inr (level.tree here)
    | group :: _ => fail .groupUnclosed group.span.start group.span.stop
  | some '(' => return .inl (← openGroup level groups)
  | some ')' => return .inl (← closeGroup level groups)
  | some '|' =>
    skip 1
    return .inl (level.divide here, groups)
  | some '[' => return .inl (level.push (.charClass (← bracketed)), groups)
  | some '?' => return .inl (← briefRepetition level 0 (some 1), groups)
  | some '*' => return .inl (← briefRepetition level 0 none, groups)
  | some '+' => return .inl (← briefRepetition level 1 none, groups)
  | some '\x7b' => return .inl (← countedRepetition level, groups)
  | some '\\' => return .inl (level.push (← escape), groups)
  | some c =>
    skip 1
    let span : Span := ⟨here, here + 1⟩
    let part : Tree := match c with
      | '.' => .point span
      | '^' => .anchor span .lineStart
      | '$' => .anchor span .lineEnd
      | c => .literal ⟨span, c, false⟩
    return .inl (level.push part, groups)

end Reading

/-- Read a whole pattern. -/
def Tree.read (text : String) : Except Fault Tree := do
  let start : Cursor := ⟨text.toList, 0, false, []⟩
  let (tree, _) ← (Reading.loop (fun (level, groups) => Reading.step level groups)
    (Level.startAt 0, [])).run start
  match tree.tooDeep? 0 with
  | some span => throw ⟨.nestedTooDeeply, span, none⟩
  | none => return tree

end KeyedStore.Pattern
