/-!
# Sets of characters

Sets of code points, written as ranges and what can be made of them. Membership is the only question
that is asked of a set, so a set is kept as it is written.

## References

- SPEC_FULL.md, section 10.8, Logging: patterns in the filter that `init_logging` reads
-/

namespace KeyedStore.Pattern

/-- A set of code points. -/
inductive CharSet where
  /-- The code points between two. -/
  | range (least greatest : Nat)
  /-- No code point. -/
  | none
  /-- What is in one set or in the other. -/
  | union (left right : CharSet)
  /-- What is in both sets. -/
  | both (left right : CharSet)
  /-- What is only in the first set. -/
  | without (left right : CharSet)
  /-- What is in one of the two sets only. -/
  | either (left right : CharSet)
  /-- What is not in the set, up to a greatest code point. -/
  | others (greatest : Nat) (inner : CharSet)
  /-- The set with the ASCII letters of the other case. -/
  | anyCase (inner : CharSet)

namespace CharSet

/-- The ASCII letter of the other case. Everything else is its own other case. -/
def otherCase (n : Nat) : Nat :=
  if 65 ≤ n ∧ n ≤ 90 then n + 32
  else if 97 ≤ n ∧ n ≤ 122 then n - 32
  else n

/-- The other case of the other case is the letter itself. -/
theorem otherCase_otherCase (n : Nat) : otherCase (otherCase n) = n := by
  unfold otherCase
  grind

/-- Whether a code point is in a set. -/
def contains : CharSet → Nat → Bool
  | range least greatest, n => least ≤ n && n ≤ greatest
  | none, _ => false
  | union left right, n => left.contains n || right.contains n
  | both left right, n => left.contains n && right.contains n
  | without left right, n => left.contains n && !right.contains n
  | either left right, n => left.contains n != right.contains n
  | others greatest inner, n => n ≤ greatest && !inner.contains n
  | anyCase inner, n => inner.contains n || inner.contains (otherCase n)

/-- A set with letters of either case holds a letter if it holds the letter of the other case. -/
theorem contains_anyCase_otherCase (inner : CharSet) (n : Nat) :
    (anyCase inner).contains (otherCase n) = (anyCase inner).contains n := by
  simp [contains, otherCase_otherCase, Bool.or_comm]

/-- The set of one character. -/
def single (c : Char) : CharSet :=
  range c.toNat c.toNat

/-- The union of ranges. -/
def ofRanges (ranges : List (Nat × Nat)) : CharSet :=
  ranges.foldr (fun pair rest => union (range pair.1 pair.2) rest) none

/-- Whether none of the upper half of the bytes is in a set. -/
def isAscii (set : CharSet) : Bool :=
  (List.range 128).all fun n => !set.contains (128 + n)

/-- A code point that no member of a set is above. -/
def bound : CharSet → Nat
  | range _ greatest => greatest
  | none => 0
  | union left right | either left right => max left.bound right.bound
  | both left right => min left.bound right.bound
  | without left _ => left.bound
  | others greatest _ => greatest
  | anyCase inner => max inner.bound 122

end CharSet

end KeyedStore.Pattern
