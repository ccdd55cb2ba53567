import KeyedStore.Pattern.Meaning
import KeyedStore.Pattern.Reader

/-!
# Patterns

Patterns that a text may match somewhere. `Pattern.ofText` reads one or tells why it cannot be used,
and `Pattern.occursIn` tells whether it matches.

## References

- SPEC_FULL.md, section 10.8, Logging: the filter that `init_logging` reads
-/

namespace KeyedStore

/-- A pattern that can be used. -/
structure Pattern where
  /-- What it means. -/
  expression : Pattern.Expression

namespace Pattern

/-- Why a pattern cannot be used. -/
inductive Refusal where
  /-- It has a fault. -/
  | faulty (text : String) (fault : Fault)
  /-- It would be too large when its repetitions are written out. -/
  | tooLarge
  /-- It asks for a boundary of words of all scripts. -/
  | unknownScripts

/-- The greatest weight of a pattern. -/
def weightLimit : Nat := 10485760

/-- The wording of a refusal. -/
def Refusal.message : Refusal → String
  | .faulty text fault => fault.report text
  | .tooLarge => "Compiled regex exceeds size limit of " ++ Text.decimal weightLimit ++ " bytes."
  | .unknownScripts => "error building NFA"

/-- Read a pattern. -/
def ofText (text : String) : Except Refusal Pattern := do
  let (expression, _) ← ((Tree.read text).bind (Tree.meaning {})).mapError (.faulty text)
  if weightLimit < expression.weight then throw .tooLarge
  if expression.needsScripts then throw .unknownScripts
  return ⟨expression⟩

/-- Whether a pattern matches somewhere in a text. -/
def occursIn (pattern : Pattern) (text : String) : Bool :=
  pattern.expression.occursIn text.toList.toArray

end Pattern

end KeyedStore
