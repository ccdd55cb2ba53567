import KeyedStore.Pattern.Expression
import KeyedStore.Pattern.Tree

/-!
# The meaning of patterns

What the parts of a pattern mean under the flags that hold for them. The library knows no tables of
cases and of classes of all scripts: a pattern that needs them has a meaning only if the flag for
characters is taken back, so that ASCII is enough. Then again nothing may be said that could match
half a character.

## References

- SPEC_FULL.md, section 10.8, Logging: patterns in the filter that `init_logging` reads
-/

namespace KeyedStore.Pattern

/-- The flags that hold for a part of a pattern. -/
structure Mode where
  /-- Whether letters of either case are meant. -/
  anyCase : Bool := false
  /-- Whether lines have ends of their own. -/
  lines : Bool := false
  /-- Whether a point is a line break too. -/
  wholeText : Bool := false
  /-- Whether characters are meant, and not bytes. -/
  characters : Bool := true
  /-- Whether a carriage return is a line break too. -/
  returns : Bool := false

/-- The flags that hold behind some words. -/
def Mode.after (mode : Mode) (words : List FlagWord) : Mode where
  anyCase := (FlagWord.setting? .anyCase words).getD mode.anyCase
  lines := (FlagWord.setting? .lines words).getD mode.lines
  wholeText := (FlagWord.setting? .wholeText words).getD mode.wholeText
  characters := (FlagWord.setting? .characters words).getD mode.characters
  returns := (FlagWord.setting? .returns words).getD mode.returns

/-- The fault of a part of a pattern. -/
def faultAt (kind : FaultKind) (span : Span) : Fault :=
  ⟨kind, span, none⟩

/-- The name of a property without what does not count in it. -/
def propertyKey (name : String) : String :=
  let plain := (name.toList.filter fun c => c ∉ [' ', '_', '-'] ∧ c.toNat < 128).map Char.toLower
  match plain with
  | ['i', 's', 'c'] => "isc"
  | 'i' :: 's' :: rest => String.ofList rest
  | _ => String.ofList plain

/-- Why a property is not known. Three short names can only be those of values. -/
def propertyFault (name : String) : FaultKind :=
  let hasValue := name.toList.any fun c => c = ':' ∨ c = '='
  if ¬ hasValue ∧ 2 ≤ name.length ∧ propertyKey name ∈ ["cf", "sc", "lc"] then
    .propertyValueUnknown
  else .propertyUnknown

/-- The ranges of a class that has a letter, in ASCII. -/
def ShortClass.ranges : ShortClass → List (Nat × Nat)
  | .digit => [(48, 57)]
  | .space => [(9, 13), (32, 32)]
  | .word => [(48, 57), (65, 90), (95, 95), (97, 122)]

namespace CharSet

/-- A set, or the characters outside it. -/
def turned (mode : Mode) (negated : Bool) (set : CharSet) : CharSet :=
  if negated then .others (if mode.characters then 0x10FFFF else 0xFF) set else set

/-- A set of bytes that ends a part, if all its members are whole characters. -/
def whole (mode : Mode) (span : Span) (set : CharSet) : Except Fault CharSet :=
  if mode.characters ∨ set.isAscii then .ok set else .error (faultAt .notText span)

/-- A set of bytes, with letters of either case if they are meant. -/
def cased (mode : Mode) (set : CharSet) : CharSet :=
  if mode.anyCase then .anyCase set else set

end CharSet

/-- Where bytes are meant, a character written by the number of one must be a whole character. -/
def Literal.check (mode : Mode) (literal : Literal) : Except Fault Unit :=
  if ¬ mode.characters ∧ literal.isByte ∧ 0x80 ≤ literal.char.toNat ∧ literal.char.toNat ≤ 0xFF then
    .error (faultAt .notText literal.span)
  else .ok ()

/-- A character of a class. -/
def Literal.inClass (mode : Mode) (literal : Literal) : Except Fault Nat := do
  literal.check mode
  if ¬ mode.characters ∧ 0x80 ≤ literal.char.toNat then throw (faultAt .notByte literal.span)
  return literal.char.toNat

mutual

/-- Whether a class is written without any characters, which operators allow. -/
def CharClass.isVacant : CharClass → Bool
  | .union _ items => CharClass.areVacant items
  | .joined _ _ left right => left.isVacant && right.isVacant
  | .bracketed _ negated inner => !negated && inner.isVacant
  | _ => false

/-- Whether several classes are written without any characters. -/
def CharClass.areVacant : List CharClass → Bool
  | [] => true
  | item :: rest => item.isVacant && CharClass.areVacant rest

end

/-- Stop at a class that would need tables of cases. -/
def CharClass.checkCase (mode : Mode) (charClass : CharClass) (span : Span) : Except Fault Unit :=
  if mode.characters ∧ mode.anyCase ∧ ¬ charClass.isVacant then
    .error (faultAt .casesUnknown span)
  else .ok ()

/-- The set that an operator makes of two. -/
def ClassOperator.apply : ClassOperator → CharSet → CharSet → CharSet
  | .both => .both
  | .without => .without
  | .either => .either

mutual

/-- The set of a class. -/
def CharClass.meaning (mode : Mode) : CharClass → Except Fault CharSet
  | .literal written => do return .range (← written.inClass mode) (← written.inClass mode)
  | .range _ first last => do return .range (← first.inClass mode) (← last.inClass mode)
  | .named span ranges negated => do
    if mode.characters ∧ mode.anyCase then throw (faultAt .casesUnknown span)
    (((CharSet.ofRanges ranges).cased mode).turned mode negated).whole mode span
  | .short span kind negated => do
    if mode.characters then throw (faultAt .scriptsUnknown span)
    ((CharSet.ofRanges kind.ranges).turned mode negated).whole mode span
  | .property span name =>
    .error (faultAt (if mode.characters then propertyFault name else .notByte) span)
  | .bracketed span negated inner => do
    let set ← inner.meaning mode
    inner.checkCase mode span
    ((set.cased mode).turned mode negated).whole mode span
  | .union _ items => CharClass.unionMeaning mode items
  | .joined _ operator left right => do
    let first ← left.meaning mode
    let second ← right.meaning mode
    -- The class behind the operator is looked at first.
    right.checkCase mode right.span
    left.checkCase mode left.span
    return operator.apply (first.cased mode) (second.cased mode)

/-- The union of several classes. -/
def CharClass.unionMeaning (mode : Mode) : List CharClass → Except Fault CharSet
  | [] => .ok .none
  | item :: rest => do
    let first ← item.meaning mode
    return .union first (← CharClass.unionMeaning mode rest)

end

/-- The place that an anchor asks for. -/
def Anchor.meaning (mode : Mode) : Anchor → Look
  | .lineStart => if mode.lines then .lineStart mode.returns else .textStart
  | .lineEnd => if mode.lines then .lineEnd mode.returns else .textEnd
  | .textStart => .textStart
  | .textEnd => .textEnd
  | .boundary => if mode.characters then .anyScript else .boundary
  | .notBoundary => if mode.characters then .anyScript else .notBoundary
  | .wordStart => if mode.characters then .anyScript else .wordStart
  | .wordEnd => if mode.characters then .anyScript else .wordEnd
  | .wordStartHalf => if mode.characters then .anyScript else .wordStartHalf
  | .wordEndHalf => if mode.characters then .anyScript else .wordEndHalf

/-- The meaning of a character. -/
def Literal.meaning (mode : Mode) (literal : Literal) : Except Fault Expression := do
  literal.check mode
  if mode.characters ∧ mode.anyCase then throw (faultAt .casesUnknown literal.span)
  let set := CharSet.single literal.char
  return .one (if mode.anyCase ∧ literal.char.isAlpha then .anyCase set else set)

/-- The meaning of a point: any character but a line break. -/
def pointMeaning (mode : Mode) (span : Span) : Except Fault Expression :=
  if ¬ mode.characters then .error (faultAt .notText span)
  else
    let all := CharSet.range 0 0x10FFFF
    let breaks := if mode.wholeText then CharSet.none
      else if mode.returns then .union (.single '\n') (.single '\r')
      else .single '\n'
    .ok (.one (.without all breaks))

mutual

/-- The meaning of a part under the flags before it, and the flags behind it. -/
def Tree.meaning (mode : Mode) : Tree → Except Fault (Expression × Mode)
  | .empty _ => .ok (.nothing, mode)
  | .flags _ words => .ok (.nothing, mode.after words)
  | .literal written => do return (← written.meaning mode, mode)
  | .point span => do return (← pointMeaning mode span, mode)
  | .anchor _ kind => .ok (.look (kind.meaning mode), mode)
  | .charClass inner => do
    let set ← inner.meaning mode
    return (.one (if mode.characters then set else .both (.range 0 127) set), mode)
  | .repetition _ least most inner => do
    let (expression, mode) ← inner.meaning mode
    return (.several least most expression, mode)
  | .group _ words inner => do
    -- Flags within a group end with it.
    let (expression, _) ← inner.meaning (mode.after words)
    return (expression, mode)
  | .alternation _ items => Tree.choiceMeaning mode items
  | .sequence _ items => Tree.sequenceMeaning mode items

/-- The meaning of parts in turn. -/
def Tree.sequenceMeaning (mode : Mode) : List Tree → Except Fault (Expression × Mode)
  | [] => .ok (.nothing, mode)
  | item :: rest => do
    let (first, mode) ← item.meaning mode
    let (second, mode) ← Tree.sequenceMeaning mode rest
    return (.sequence first second, mode)

/-- The meaning of branches. Flags in one branch hold for the branches behind it too. -/
def Tree.choiceMeaning (mode : Mode) : List Tree → Except Fault (Expression × Mode)
  | [] => .ok (.one .none, mode)
  | item :: rest => do
    let (first, mode) ← item.meaning mode
    let (second, mode) ← Tree.choiceMeaning mode rest
    return (.choice first second, mode)

end

end KeyedStore.Pattern
