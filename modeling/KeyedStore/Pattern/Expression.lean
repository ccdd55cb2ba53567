import KeyedStore.Pattern.CharSet

/-!
# Expressions and where they match

What a pattern means, without the way it is written. An expression leads from places in a text to
places: to those where a match can end that begins at one of them. A set of places is a number whose
bits are the places, so that one step of an expression is a step from all places at once.

## References

- SPEC_FULL.md, section 10.8, Logging: patterns in the filter that `init_logging` reads
-/

namespace KeyedStore.Pattern

/-- The places in a text that an expression can ask for. -/
inductive Look where
  /-- The beginning of the text. -/
  | textStart
  /-- The end of the text. -/
  | textEnd
  /-- The beginning of a line; `returns` tells whether a carriage return ends a line too. -/
  | lineStart (returns : Bool)
  /-- The end of a line. -/
  | lineEnd (returns : Bool)
  /-- The beginning or the end of a word. -/
  | boundary
  /-- A place that is neither. -/
  | notBoundary
  /-- The beginning of a word. -/
  | wordStart
  /-- The end of a word. -/
  | wordEnd
  /-- A place behind no word. -/
  | wordStartHalf
  /-- A place before no word. -/
  | wordEndHalf
  /-- A boundary of words of all scripts, which cannot be found. -/
  | anyScript
deriving DecidableEq

/-- What a pattern means. -/
inductive Expression where
  /-- Nothing. -/
  | nothing
  /-- A character of a set. -/
  | one (set : CharSet)
  /-- A place. -/
  | look (place : Look)
  /-- One expression and then the other. -/
  | sequence (first second : Expression)
  /-- One expression or the other. -/
  | choice (first second : Expression)
  /-- An expression several times. -/
  | repeated (least : Nat) (most : Option Nat) (inner : Expression)

/-- Whether a character belongs to a word of ASCII letters, digits and low lines. -/
def isInWord : Option Char → Bool
  | some c => c.isAlphanum || c = '_'
  | none => false

namespace Look

/-- Whether a place between two characters is the one that is asked for. -/
def holds (look : Look) (before after : Option Char) : Bool :=
  match look with
  | .textStart => before.isNone
  | .textEnd => after.isNone
  | .lineStart false => before.isNone || before = some '\n'
  | .lineEnd false => after.isNone || after = some '\n'
  | .lineStart true =>
    before.isNone || before = some '\n' || (before = some '\r' && after ≠ some '\n')
  | .lineEnd true => after.isNone || after = some '\r' || (after = some '\n' && before ≠ some '\r')
  | .boundary => isInWord before != isInWord after
  | .notBoundary => isInWord before == isInWord after
  | .wordStart => !isInWord before && isInWord after
  | .wordEnd => isInWord before && !isInWord after
  | .wordStartHalf => !isInWord before
  | .wordEndHalf => !isInWord after
  | .anyScript => false

end Look

/-- The places below a number where something holds. -/
def placesWhere (holds : Nat → Bool) : Nat → Nat
  | 0 => 0
  | count + 1 => placesWhere holds count ||| if holds count then 1 <<< count else 0

/-- The number of one place, or of none, has the bit of that place only. -/
theorem testBit_oneOrNone (held : Bool) (count place : Nat) :
    (if held then 1 <<< count else 0).testBit place = (decide (place = count) && held) := by
  cases held with
  | false => simp
  | true =>
    rw [if_pos rfl, Nat.one_shiftLeft, Bool.and_true]
    by_cases same : count = place
    · rw [same, Nat.testBit_two_pow_self, decide_eq_true rfl]
    · rw [Nat.testBit_two_pow_of_ne same, decide_eq_false (Ne.symm same)]

/-- A place is among those where something holds exactly if it holds there. -/
theorem testBit_placesWhere (holds : Nat → Bool) (count place : Nat) :
    (placesWhere holds count).testBit place = (decide (place < count) && holds place) := by
  induction count with
  | zero => simp [placesWhere]
  | succ count ih =>
    rw [placesWhere, Nat.testBit_or, ih, testBit_oneOrNone]
    rcases Nat.lt_trichotomy place count with below | same | above
    · simp [below, Nat.lt_succ_of_lt below, Nat.ne_of_lt below]
    · simp [same]
    · simp [Nat.not_lt_of_gt above, Nat.ne_of_gt above, Nat.not_lt.mpr above]

/-- A step so many times. From no place no step leads anywhere. -/
def times (step : Nat → Nat) : Nat → Nat → Nat
  | 0, places => places
  | count + 1, places => if places = 0 then 0 else times step count (step places)

/-- A step at most so many times. When it leads to no further place, more steps do not either. -/
def upTo (step : Nat → Nat) : Nat → Nat → Nat
  | 0, places => places
  | count + 1, places =>
    let further := places ||| step places
    if further = places then places else upTo step count further

namespace Expression

/-- The places where matches end that begin at given places of a text. -/
def ends (text : Array Char) : Expression → Nat → Nat
  | .nothing, places => places
  | .one set, places =>
    (places &&& placesWhere (fun i => text[i]?.any fun c => set.contains c.toNat) text.size) <<< 1
  | .look asked, places =>
    places &&& placesWhere
      (fun i => asked.holds (if i = 0 then none else text[i - 1]?) text[i]?) (text.size + 1)
  | .sequence first second, places => second.ends text (first.ends text places)
  | .choice first second, places => first.ends text places ||| second.ends text places
  | .repeated least most inner, places =>
    -- Without a limit every useful round adds a place, and there is one more than characters.
    let more := match most with
      | some most => most - least
      | none => text.size + 1
    upTo (inner.ends text) more (times (inner.ends text) least places)

/-- Whether an expression matches somewhere in a text. -/
def occursIn (expression : Expression) (text : Array Char) : Bool :=
  expression.ends text (placesWhere (fun _ => true) (text.size + 1)) ≠ 0

/-- Whether an expression matches nothing but places. -/
def isWidthless : Expression → Bool
  | .nothing | .look _ => true
  | .one _ => false
  | .sequence first second | .choice first second => first.isWidthless && second.isWidthless
  | .repeated _ most inner => most = some 0 || inner.isWidthless

/-- An expression several times. A place need not be asked for twice. -/
def several (least : Nat) (most : Option Nat) (inner : Expression) : Expression :=
  let (least, most) := if inner.isWidthless then (min least 1, some (min (most.getD 1) 1))
    else (least, most)
  if most = some 0 then .nothing else .repeated least most inner

/-- Whether an expression asks for a boundary of words of all scripts. -/
def needsScripts : Expression → Bool
  | .nothing | .one _ => false
  | .look asked => asked = .anyScript
  | .sequence first second | .choice first second => first.needsScripts || second.needsScripts
  | .repeated _ _ inner => inner.needsScripts

/-- About how many bytes an expression takes when every repetition is written out: thirty-two for a
step by one byte, and more for a step by a character of many. -/
def weight : Expression → Nat
  | .nothing | .look _ => 32
  | .one (.range least greatest) =>
    if least = greatest then 32 * (Char.ofNat least).utf8Size
    else if greatest < 128 then 40
    else 450
  | .one set => if set.bound < 128 then 40 else 450
  | .sequence first second => first.weight + second.weight
  | .choice first second => first.weight + second.weight + 32
  | .repeated least none inner => max least 1 * inner.weight + 32
  | .repeated least (some most) inner =>
    least * inner.weight + (most - least) * (inner.weight + 32)

end Expression

end KeyedStore.Pattern
