import KeyedStore.Proofs.Bson.Paths
import KeyedStore.Proofs.Json.Reading

/-!
# Which values BSON can hold

The only values that BSON has no place for are whole numbers beyond 64 signed bits. One of them is
enough, at any depth, to leave the value around it without a conversion, and the fault names one
that is there. An object that stands for another value is no obstacle: it is converted, too, and
only at the top of a document does it matter what it stands for, in whatever order its names come.

- `Json.Occurs`: a value stands somewhere inside another one;
- `exists_ofPairs_eq_ok_iff`: an object is converted exactly if every whole number in it fits;
- `exists_occurs_of_ofPairs_eq_error`: the number that a fault names is in the object;
- `ExtendedJson.read?_eq_of_perm`: what an object stands for does not depend on the order of its
  names.

## References

- SPEC_FULL.md, section 7, SerializationError: a payload that cannot be encoded
-/

namespace KeyedStore

/-- A value stands somewhere inside another one, at any depth. -/
inductive Json.Occurs (inner : Json) : Json → Prop where
  /-- Every value stands inside itself. -/
  | here : Occurs inner inner
  /-- Inside an item of a list. -/
  | item {items : List Json} {item : Json} :
    item ∈ items → Occurs inner item → Occurs inner (.array items)
  /-- Inside a value of an object. -/
  | field {pairs : List (String × Json)} {pair : String × Json} :
    pair ∈ pairs → Occurs inner pair.2 → Occurs inner (.object pairs)

namespace Json

/-- Items can be written exactly if each of them can. -/
theorem writableItems_iff {items : List Json} :
    WritableItems items ↔ ∀ item ∈ items, Writable item := by
  induction items with
  | nil => simp [WritableItems]
  | cons item items ih => simp [WritableItems, ih]

/-- Pairs can be written exactly if each of their values can. -/
theorem writablePairs_iff {pairs : List (String × Json)} :
    WritablePairs pairs ↔ ∀ pair ∈ pairs, Writable pair.2 := by
  induction pairs with
  | nil => simp [WritablePairs]
  | cons pair pairs ih => simp [WritablePairs, ih]

/-- What stands inside a writable value is writable. -/
theorem Writable.of_occurs {inner value : Json} (h : Writable value)
    (hoccurs : inner.Occurs value) : Writable inner := by
  induction hoccurs with
  | here => exact h
  | item hmem _ ih => exact ih (writableItems_iff.mp h _ hmem)
  | field hmem _ ih => exact ih (writablePairs_iff.mp h _ hmem)

/-- A whole number fits a signed integer of 64 bits. -/
def Fits (n : Int) : Prop :=
  -2 ^ 63 ≤ n ∧ n < 2 ^ 63

/-- Whether it does is decidable. -/
instance (n : Int) : Decidable (Fits n) :=
  inferInstanceAs (Decidable (_ ∧ _))

end Json

namespace Bson

open Json

/-! ## Numbers that do not fit -/

/-- Every item of a converted list has a conversion of its own. -/
theorem exists_of_mem_ofItems {items : List Json} {bsons : List Bson}
    (h : ofItems items = .ok bsons) {item : Json} (hmem : item ∈ items) :
    ∃ bson, ofJson item = .ok bson := by
  obtain ⟨index, hindex⟩ := List.getElem?_of_mem hmem
  obtain ⟨bson, -, hitem⟩ := getElem?_ofItems h hindex
  exact ⟨bson, hitem⟩

/-- Every value of converted pairs has a conversion of its own. -/
theorem exists_of_mem_ofPairs {pairs : List (String × Json)} {document : Document}
    (h : ofPairs pairs = .ok document) {pair : String × Json} (hmem : pair ∈ pairs) :
    ∃ bson, ofJson pair.2 = .ok bson := by
  induction pairs generalizing document with
  | nil => exact absurd hmem List.not_mem_nil
  | cons first pairs ih =>
    obtain ⟨bson, rest, hfirst, hrest, -⟩ := ofPairs_cons_eq_ok h
    rcases List.mem_cons.mp hmem with rfl | hmem
    · exact ⟨bson, hfirst⟩
    · exact ih hrest hmem

/-- In a value that is converted every whole number fits. -/
theorem fits_of_occurs {value : Json} {bson : Bson} (h : ofJson value = .ok bson) {n : Int}
    (hoccurs : (Json.whole n).Occurs value) : Fits n := by
  -- The induction follows the number down to where it stands.
  induction hoccurs generalizing bson with
  | here =>
    rw [ofJson] at h
    split at h
    · assumption
    · exact absurd h (by simp)
  | @item items item hmem _ ih =>
    rw [ofJson] at h
    cases hitems : ofItems items with
    | error fault => exact absurd h (by simp [hitems, Except.map])
    | ok bsons =>
      obtain ⟨inner, hinner⟩ := exists_of_mem_ofItems hitems hmem
      exact ih hinner
  | @field pairs pair hmem _ ih =>
    rw [ofJson] at h
    cases hpairs : ofPairs pairs with
    | error fault => exact absurd h (by simp [hpairs, Except.map])
    | ok document =>
      obtain ⟨inner, hinner⟩ := exists_of_mem_ofPairs hpairs hmem
      exact ih hinner

mutual

/-- A value that is not converted holds a number that does not fit, which the fault names. -/
theorem exists_occurs_of_ofJson_eq_error : ∀ {value : Json} {fault : BsonFault},
    ofJson value = .error fault →
    ∃ n, fault = .tooLarge n ∧ (Json.whole n).Occurs value ∧ ¬ Fits n
  | .null, _, h | .bool _, _, h | .float _, _, h | .string _, _, h => absurd h (by simp [ofJson])
  | .whole n, fault, h => by
    rw [ofJson] at h
    split at h
    · exact absurd h (by simp)
    · rename_i hfits
      exact ⟨n, (Except.error.inj h).symm, .here, hfits⟩
  | .array items, fault, h => by
    rw [ofJson] at h
    cases hitems : ofItems items with
    | ok bsons => exact absurd h (by simp [hitems, Except.map])
    | error other =>
      rw [hitems, Except.map, Except.error.injEq] at h
      obtain ⟨n, hfault, item, hmem, hoccurs, hfits⟩ :=
        exists_occurs_of_ofItems_eq_error hitems
      exact ⟨n, h ▸ hfault, .item hmem hoccurs, hfits⟩
  | .object pairs, fault, h => by
    rw [ofJson] at h
    cases hpairs : ofPairs pairs with
    | ok document => exact absurd h (by simp [hpairs, Except.map])
    | error other =>
      rw [hpairs, Except.map, Except.error.injEq] at h
      obtain ⟨n, hfault, pair, hmem, hoccurs, hfits⟩ :=
        exists_occurs_of_ofPairs_eq_error hpairs
      exact ⟨n, h ▸ hfault, .field hmem hoccurs, hfits⟩

/-- So does a list that is not converted, in one of its items. -/
theorem exists_occurs_of_ofItems_eq_error : ∀ {items : List Json} {fault : BsonFault},
    ofItems items = .error fault →
    ∃ n, fault = .tooLarge n ∧ ∃ item ∈ items, (Json.whole n).Occurs item ∧ ¬ Fits n
  | [], _, h => absurd h (by simp [ofItems])
  | item :: items, fault, h => by
    rw [ofItems] at h
    cases hitem : ofJson item with
    | error other =>
      -- The first item that is not converted ends the conversion.
      obtain rfl : other = fault := by simpa [hitem, bind, Except.bind] using h
      obtain ⟨n, hfault, hoccurs, hfits⟩ := exists_occurs_of_ofJson_eq_error hitem
      exact ⟨n, hfault, item, List.mem_cons_self, hoccurs, hfits⟩
    | ok bson =>
      cases hitems : ofItems items with
      | ok bsons => exact absurd h (by simp [hitem, hitems, bind, Except.bind, pure, Except.pure])
      | error other =>
        obtain rfl : other = fault := by simpa [hitem, hitems, bind, Except.bind] using h
        obtain ⟨n, hfault, found, hmem, hoccurs, hfits⟩ :=
          exists_occurs_of_ofItems_eq_error hitems
        exact ⟨n, hfault, found, List.mem_cons_of_mem _ hmem, hoccurs, hfits⟩

/-- So does an object that is not converted, in one of its values. -/
theorem exists_occurs_of_ofPairs_eq_error : ∀ {pairs : List (String × Json)} {fault : BsonFault},
    ofPairs pairs = .error fault →
    ∃ n, fault = .tooLarge n ∧ ∃ pair ∈ pairs, (Json.whole n).Occurs pair.2 ∧ ¬ Fits n
  | [], _, h => absurd h (by simp [ofPairs])
  | (name, value) :: pairs, fault, h => by
    rw [ofPairs] at h
    cases hvalue : ofJson value with
    | error other =>
      obtain rfl : other = fault := by simpa [hvalue, bind, Except.bind] using h
      obtain ⟨n, hfault, hoccurs, hfits⟩ := exists_occurs_of_ofJson_eq_error hvalue
      exact ⟨n, hfault, (name, value), List.mem_cons_self, hoccurs, hfits⟩
    | ok bson =>
      cases hpairs : ofPairs pairs with
      | ok document =>
        exact absurd h (by simp [hvalue, hpairs, bind, Except.bind, pure, Except.pure])
      | error other =>
        obtain rfl : other = fault := by simpa [hvalue, hpairs, bind, Except.bind] using h
        obtain ⟨n, hfault, found, hmem, hoccurs, hfits⟩ :=
          exists_occurs_of_ofPairs_eq_error hpairs
        exact ⟨n, hfault, found, List.mem_cons_of_mem _ hmem, hoccurs, hfits⟩

end

/-- An object is converted exactly if every whole number in it fits. -/
theorem exists_ofPairs_eq_ok_iff {pairs : List (String × Json)} :
    (∃ document, ofPairs pairs = .ok document) ↔
      ∀ pair ∈ pairs, ∀ n, (Json.whole n).Occurs pair.2 → Fits n := by
  constructor
  · -- Where an object has been converted every number in it fits.
    rintro ⟨document, h⟩ pair hpair n hoccurs
    obtain ⟨bson, hbson⟩ := exists_of_mem_ofPairs h hpair
    exact fits_of_occurs hbson hoccurs
  · -- A fault names a number that is there, so there can be none.
    intro h
    cases hpairs : ofPairs pairs with
    | ok document => exact ⟨document, rfl⟩
    | error fault =>
      obtain ⟨n, -, pair, hpair, hoccurs, hfits⟩ := exists_occurs_of_ofPairs_eq_error hpairs
      exact absurd (h pair hpair n hoccurs) hfits

/-! ## The order of the names -/

/-- The pairs of an object are converted one by one, so in another order they have the same
conversions in that order. -/
theorem exists_ofPairs_perm {first second : List (String × Json)} (h : first.Perm second)
    {document : Document} (hof : ofPairs first = .ok document) :
    ∃ other, ofPairs second = .ok other ∧ document.Perm other := by
  induction h generalizing document with
  | nil => exact ⟨document, hof, .refl _⟩
  | cons pair _ ih =>
    obtain ⟨bson, rest, hbson, hrest, rfl⟩ := ofPairs_cons_eq_ok hof
    obtain ⟨other, hother, hperm⟩ := ih hrest
    refine ⟨(pair.1, bson) :: other, ?_, hperm.cons _⟩
    rw [show pair = (pair.1, pair.2) from rfl, ofPairs, hbson, hother]
    rfl
  | swap pair other rest =>
    obtain ⟨bson, others, hbson, hothers, rfl⟩ := ofPairs_cons_eq_ok hof
    -- Each of the two is converted without regard to the other.
    obtain ⟨next, document, hnext, hrest, rfl⟩ := ofPairs_cons_eq_ok hothers
    refine ⟨(pair.1, next) :: (other.1, bson) :: document, ?_, .swap _ _ _⟩
    rw [show pair = (pair.1, pair.2) from rfl, show other = (other.1, other.2) from rfl, ofPairs,
      ofPairs, hbson, hnext, hrest]
    rfl
  | trans _ _ ihfirst ihsecond =>
    obtain ⟨middle, hmiddle, hperm⟩ := ihfirst hof
    obtain ⟨other, hother, hothers⟩ := ihsecond hmiddle
    exact ⟨other, hother, hperm.trans hothers⟩

end Bson

namespace ExtendedJson

/-- No form of extended JSON has more than two names. -/
theorem read?_eq_none_of_length {pairs : Document} (h : 2 < pairs.length) : read? pairs = none := by
  match pairs, h with
  | _ :: _ :: _ :: _, _ => rfl

/-- What an object stands for does not depend on the order of its names. -/
theorem read?_eq_of_perm {first second : Document} (h : first.Perm second) :
    read? first = read? second := by
  induction h with
  | nil => rfl
  | @cons pair first second h _ =>
    have hlength := h.length_eq
    match first, second, hlength with
    | [], [], _ => rfl
    | [_], [_], _ => rw [List.singleton_perm_singleton.mp h]
    | _ :: _ :: _, _ :: _ :: _, _ =>
      rw [read?_eq_none_of_length (by simp), read?_eq_none_of_length (by simp)]
  | swap pair other rest =>
    cases rest with
    | cons _ _ => rw [read?_eq_none_of_length (by simp), read?_eq_none_of_length (by simp)]
    | nil =>
      -- Two names can only be those of program text and its scope, and both orders are read.
      obtain ⟨name, value⟩ := pair
      obtain ⟨next, scope⟩ := other
      simp only [read?]
      split_ifs <;> simp_all
  | trans _ _ ihfirst ihsecond => exact ihfirst.trans ihsecond

end ExtendedJson

end KeyedStore
