import KeyedStore.Bson.OfJson

/-!
# The forms of extended JSON

Extended JSON writes the values that JSON does not have as objects. None of its forms stands for a
document, so an object that is read as a document is that document, and an object with a document
has been converted name by name.

- `noDocument_read?`: whatever an object stands for, it is no document;
- `read_eq_document_iff`: an object that is read as a document stands for itself;
- `Document.ofPairs_eq_ok_iff`: when an object has a document, which holds its converted values.

## References

- SPEC_FULL.md, section 4.2, step 5 of storing: the payload as a flat document
-/

namespace KeyedStore

namespace ExtendedJson

/-- The value that is read, if there is one, is no document. -/
def NoDocument (found : Option Bson) : Prop :=
  ∀ pairs, found ≠ some (.document pairs)

theorem noDocument_none : NoDocument none :=
  fun _ => by simp

/-- A value that is no document is none as the result of a form either. -/
theorem noDocument_some {value : Bson} (h : ∀ pairs, value ≠ .document pairs) :
    NoDocument (some value) :=
  fun pairs => by simpa using h pairs

/-- What is made of a found value is no document if nothing that is made of any value is one. -/
theorem noDocument_bind {α : Type} (found : Option α) {next : α → Option Bson}
    (h : ∀ value, NoDocument (next value)) : NoDocument (found >>= next) := by
  cases found with
  | none => exact noDocument_none
  | some value => exact h value

theorem noDocument_timestamp? (pairs : Document) : NoDocument (timestamp? pairs) := by
  unfold timestamp?
  refine noDocument_bind _ fun time => noDocument_bind _ fun increment => ?_
  split
  · exact noDocument_some (by simp)
  · split
    · exact noDocument_some (by simp)
    · exact noDocument_none
  · exact noDocument_none

theorem noDocument_regularExpression? (pairs : Document) :
    NoDocument (regularExpression? pairs) := by
  unfold regularExpression?
  refine noDocument_bind _ fun _ => noDocument_bind _ fun _ => noDocument_bind _ fun _ =>
    noDocument_bind _ fun _ => ?_
  exact noDocument_some (by simp)

theorem noDocument_binary? (pairs : Document) : NoDocument (binary? pairs) := by
  unfold binary?
  split
  · -- Letters, with a subtype in hexadecimal digits.
    refine noDocument_bind _ fun _ => noDocument_bind _ fun _ => noDocument_bind _ fun _ =>
      noDocument_bind _ fun _ => ?_
    split
    · exact noDocument_some (by simp)
    · exact noDocument_none
  · -- Bytes, with a subtype as a number.
    refine noDocument_bind _ fun _ => noDocument_bind _ fun _ => noDocument_bind _ fun _ =>
      noDocument_bind _ fun _ => ?_
    dsimp only
    split
    · exact noDocument_some (by simp)
    · exact noDocument_none

theorem noDocument_dbPointer? (pairs : Document) : NoDocument (dbPointer? pairs) := by
  unfold dbPointer?
  refine noDocument_bind _ fun _ => noDocument_bind _ fun _ => noDocument_bind _ fun _ =>
    noDocument_bind _ fun _ => ?_
  exact noDocument_some (by simp)

theorem noDocument_date? (value : Bson) : NoDocument (date? value) := by
  unfold date?
  split
  · exact noDocument_some (by simp)
  · refine noDocument_bind _ fun _ => ?_
    exact noDocument_some (by simp)
  · exact noDocument_none

/-- No form of a single name stands for a document. -/
theorem noDocument_single? (name : String) (value : Bson) : NoDocument (single? name value) := by
  unfold single?
  split
  -- Values that are read from a text or from bytes, as they are or in one more step.
  case h_2 | h_9 =>
    rw [Option.map_eq_bind]
    exact noDocument_bind _ fun _ => noDocument_some (by simp)
  case h_1 | h_3 | h_4 | h_5 | h_6 | h_7 =>
    exact noDocument_bind _ fun _ => noDocument_bind _ fun _ => noDocument_some (by simp)
  -- Values that are read from a document.
  case h_8 => exact noDocument_bind _ noDocument_binary?
  case h_10 => exact noDocument_bind _ noDocument_timestamp?
  case h_11 => exact noDocument_bind _ noDocument_regularExpression?
  case h_12 => exact noDocument_bind _ noDocument_dbPointer?
  case h_13 => exact noDocument_date? value
  case h_14 | h_15 | h_16 =>
    split
    · exact noDocument_some (by simp)
    · exact noDocument_none
  case h_17 => exact noDocument_none

theorem noDocument_scoped? (code scope : Bson) : NoDocument (scoped? code scope) := by
  unfold scoped?
  exact noDocument_bind _ fun _ => noDocument_bind _ fun _ => noDocument_some (by simp)

/-- No form of extended JSON stands for a document. -/
theorem noDocument_read? (pairs : Document) : NoDocument (read? pairs) := by
  unfold read?
  split
  · exact noDocument_single? _ _
  · split
    · exact noDocument_scoped? _ _
    · split
      · exact noDocument_scoped? _ _
      · exact noDocument_none
  · exact noDocument_none

/-- An object is read as a document exactly if it stands for itself. -/
theorem read_eq_document_iff {pairs document : Document} :
    read pairs = .document document ↔ document = pairs ∧ read? pairs = none := by
  rw [read]
  cases hread : read? pairs with
  | none =>
    rw [Option.getD_none, Bson.document.injEq]
    exact ⟨fun h => ⟨h.symm, rfl⟩, fun h => h.1.symm⟩
  | some value =>
    rw [Option.getD_some]
    refine iff_of_false (fun h => ?_) (by simp)
    exact noDocument_read? pairs document (hread.trans (congrArg some h))

end ExtendedJson

namespace Document

variable {pairs : List (String × Json)}

/-- An object has a document exactly if its values are converted and it stands for itself. -/
theorem ofPairs_eq_ok_iff {document : Document} :
    ofPairs pairs = .ok document ↔
      Bson.ofPairs pairs = .ok document ∧ ExtendedJson.read? document = none := by
  unfold ofPairs
  cases hof : Bson.ofPairs pairs with
  | error fault => simp [bind, Except.bind]
  | ok converted =>
    simp only [bind, Except.bind]
    split
    · rename_i found hread
      obtain ⟨rfl, hnone⟩ := ExtendedJson.read_eq_document_iff.mp hread
      constructor
      · rintro ⟨⟩
        exact ⟨rfl, hnone⟩
      · exact And.left
    · -- The object stands for something else, and so do the converted values.
      rename_i hread
      refine iff_of_false (by simp [throw, throwThe, MonadExceptOf.throw]) ?_
      rintro ⟨⟨⟩, hnone⟩
      exact hread _ (ExtendedJson.read_eq_document_iff.mpr ⟨rfl, hnone⟩)

/-- The document of an object holds the converted values of the object. -/
theorem ofPairs_eq_ok {document : Document} (h : ofPairs pairs = .ok document) :
    Bson.ofPairs pairs = .ok document :=
  (ofPairs_eq_ok_iff.mp h).1

/-- If an object has no document for a number in it, its values are not converted. -/
theorem ofPairs_eq_tooLarge {n : Int} (h : ofPairs pairs = .error (.tooLarge n)) :
    Bson.ofPairs pairs = .error (.tooLarge n) := by
  unfold ofPairs at h
  cases hof : Bson.ofPairs pairs with
  | error fault => simpa [hof, bind, Except.bind] using h
  | ok converted =>
    simp only [hof, bind, Except.bind] at h
    split at h
    · exact absurd h (by simp [pure, Except.pure])
    · exact absurd h (by simp [throw, throwThe, MonadExceptOf.throw])

end Document

end KeyedStore
