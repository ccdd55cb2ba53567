import KeyedStore.Bson.OfJson
import KeyedStore.Bson.ToJson
import KeyedStore.Proofs.Json.Reading

/-!
# Plain values

A JSON value is plain if BSON can hold it as it is: no doubles, whole numbers of 64 signed bits,
and no name that begins with a dollar sign, so that no object is taken for extended JSON.

- `read?_eq_none_of_undollared`: an object without such names stands for itself;
- `exists_ofJson_eq`: a plain value has a BSON value, which is shown as the plain value again;
- `Plain.legible`: the text of a plain value can be read back.

## References

- SPEC_FULL.md, section 8, Round trip
-/

namespace KeyedStore

/-- The name begins with a dollar sign. -/
def HasDollar (name : String) : Prop :=
  name.toList.head? = some '$'

/-- Whether a name begins with a dollar sign is decidable. -/
instance (name : String) : Decidable (HasDollar name) :=
  inferInstanceAs (Decidable (name.toList.head? = some '$'))

namespace ExtendedJson

/-- Every form of extended JSON has a name that begins with a dollar sign. -/
theorem single?_eq_none_of_undollared {name : String} (h : ¬ HasDollar name) (value : Bson) :
    single? name value = none := by
  unfold single?
  split
  all_goals first
    | rfl
    | exact absurd (by decide) h

/-- An object without a name that begins with a dollar sign is no extended JSON. -/
theorem read?_eq_none_of_undollared {pairs : Document}
    (h : ∀ name ∈ Pairs.names pairs, ¬ HasDollar name) : read? pairs = none := by
  unfold read?
  split
  · exact single?_eq_none_of_undollared (h _ (by simp [Pairs.names])) _
  · rename_i first value second other
    have hfirst : ¬ HasDollar first := h _ (by simp [Pairs.names])
    -- Code is the only form of two names, and both of them begin with a dollar sign.
    have hcode : first ≠ "$code" := by
      rintro rfl
      exact hfirst (by decide)
    have hscope : first ≠ "$scope" := by
      rintro rfl
      exact hfirst (by decide)
    simp [hcode, hscope]
  · rfl

/-- A document without dollar signs in front of its names is read as itself. -/
theorem read_eq_document_of_undollared {pairs : Document}
    (h : ∀ name ∈ Pairs.names pairs, ¬ HasDollar name) : read pairs = .document pairs := by
  rw [read, read?_eq_none_of_undollared h, Option.getD_none]

end ExtendedJson

namespace Json

mutual

/-- There are no doubles, every whole number has 64 signed bits, and no name begins with a dollar
sign. -/
def Plain : Json → Prop
  | .whole n => -2 ^ 63 ≤ n ∧ n < 2 ^ 63
  | .float _ => False
  | .array items => PlainItems items
  | .object pairs => PlainPairs pairs
  | .null | .bool _ | .string _ => True

/-- All items of a list are plain. -/
def PlainItems : List Json → Prop
  | [] => True
  | item :: items => Plain item ∧ PlainItems items

/-- All names and values of an object are plain. -/
def PlainPairs : List (String × Json) → Prop
  | [] => True
  | (name, value) :: pairs => ¬ HasDollar name ∧ Plain value ∧ PlainPairs pairs

end

mutual

/-- The text of a plain value is read back as the value. -/
theorem Plain.legible : ∀ {value : Json}, Plain value → Legible value
  | .null, _ | .bool _, _ | .string _, _ => trivial
  | .whole n, h => by
    obtain ⟨hlow, hhigh⟩ := h
    exact ⟨hlow, by omega⟩
  | .float _, h => h
  | .array _, h => PlainItems.legible h
  | .object _, h => PlainPairs.legible h

theorem PlainItems.legible : ∀ {items : List Json}, PlainItems items → LegibleItems items
  | [], _ => trivial
  | _ :: _, h => ⟨Plain.legible h.1, PlainItems.legible h.2⟩

theorem PlainPairs.legible : ∀ {pairs : List (String × Json)},
    PlainPairs pairs → LegiblePairs pairs
  | [], _ => trivial
  | (_, _) :: _, h => ⟨Plain.legible h.2.1, PlainPairs.legible h.2.2⟩

end

/-- Pairs are plain exactly if each of them has a plain value under a name without a dollar sign. -/
theorem plainPairs_iff {pairs : List (String × Json)} :
    PlainPairs pairs ↔ ∀ pair ∈ pairs, ¬ HasDollar pair.1 ∧ Plain pair.2 := by
  induction pairs with
  | nil => simp [PlainPairs]
  | cons pair pairs ih =>
    obtain ⟨name, value⟩ := pair
    simp [PlainPairs, ih, and_assoc]

theorem plainItems_iff {items : List Json} : PlainItems items ↔ ∀ item ∈ items, Plain item := by
  induction items with
  | nil => simp [PlainItems]
  | cons item items ih => simp [PlainItems, ih]

end Json

namespace Bson

open Json

/-- The pairs that a reader is shown have the names of the document. -/
theorem names_pairsToJson (pairs : Document) :
    Pairs.names (pairsToJson pairs) = Pairs.names pairs := by
  induction pairs with
  | nil => rfl
  | cons pair pairs ih =>
    obtain ⟨name, value⟩ := pair
    simp only [pairsToJson, Pairs.names, List.map_cons] at ih ⊢
    rw [ih]

/-- A pair that can be converted is converted in front of the others. -/
theorem ofPairs_cons {value : Json} {first : Bson} {pairs : List (String × Json)} {rest : Document}
    (name : String) (hfirst : ofJson value = .ok first) (hrest : ofPairs pairs = .ok rest) :
    ofPairs ((name, value) :: pairs) = .ok ((name, first) :: rest) := by
  rw [ofPairs, hfirst, hrest]
  rfl

/-- An object is converted by reading the document of its pairs as extended JSON. -/
theorem ofJson_object {pairs : List (String × Json)} {document : Document}
    (h : ofPairs pairs = .ok document) :
    ofJson (.object pairs) = .ok (ExtendedJson.read document) := by
  rw [ofJson, h]
  rfl

/-- A document that is shown as plain pairs has no names with a dollar sign in front. -/
theorem undollared_of_plainPairs {document : Document} (h : PlainPairs (pairsToJson document)) :
    ∀ name ∈ Pairs.names document, ¬ HasDollar name := by
  intro name hname
  rw [← names_pairsToJson, Pairs.names, List.mem_map] at hname
  obtain ⟨pair, hpair, rfl⟩ := hname
  exact (plainPairs_iff.mp h pair hpair).1

mutual

/-- A plain value has a BSON value, which is shown as the plain value again. -/
theorem exists_ofJson_eq : ∀ {value : Json}, Plain value →
    ∃ bson, ofJson value = .ok bson ∧ bson.toJson = value
  | .null, _ => ⟨.null, rfl, rfl⟩
  | .bool value, _ => ⟨.boolean value, rfl, rfl⟩
  | .whole n, h => by
    refine ⟨.int64 (Int64.ofInt n), if_pos h, ?_⟩
    rw [toJson, Int64.toInt_ofInt_of_le h.1 h.2]
  | .float _, h => absurd h (by simp [Plain])
  | .string value, _ => ⟨.string value, rfl, rfl⟩
  | .array items, h => by
    obtain ⟨bsons, hof, hto⟩ := exists_ofItems_eq h
    refine ⟨.array bsons, ?_, ?_⟩
    · rw [ofJson, hof]
      rfl
    · rw [toJson, hto]
  | .object pairs, h => by
    obtain ⟨document, hof, hto⟩ := exists_ofPairs_eq h
    -- The values of the document no longer matter: its names rule out every form of extended JSON.
    have hnames := undollared_of_plainPairs (hto ▸ h)
    refine ⟨.document document, ?_, ?_⟩
    · rw [ofJson_object hof, ExtendedJson.read_eq_document_of_undollared hnames]
    · rw [toJson, hto]

/-- Plain items have BSON values that are shown as the items. -/
theorem exists_ofItems_eq : ∀ {items : List Json}, PlainItems items →
    ∃ bsons, ofItems items = .ok bsons ∧ itemsToJson bsons = items
  | [], _ => ⟨[], rfl, rfl⟩
  | item :: items, h => by
    obtain ⟨first, hfirst, htoFirst⟩ := exists_ofJson_eq h.1
    obtain ⟨rest, hrest, htoRest⟩ := exists_ofItems_eq h.2
    refine ⟨first :: rest, ?_, ?_⟩
    · rw [ofItems, hfirst, hrest]
      rfl
    · rw [itemsToJson, htoFirst, htoRest]

/-- The pairs of a plain object have a document, which is shown as the same pairs again. -/
theorem exists_ofPairs_eq : ∀ {pairs : List (String × Json)}, PlainPairs pairs →
    ∃ document, ofPairs pairs = .ok document ∧ pairsToJson document = pairs
  | [], _ => ⟨[], rfl, rfl⟩
  | (name, value) :: pairs, h => by
    obtain ⟨first, hfirst, htoFirst⟩ := exists_ofJson_eq h.2.1
    obtain ⟨rest, hrest, htoRest⟩ := exists_ofPairs_eq h.2.2
    refine ⟨(name, first) :: rest, ofPairs_cons name hfirst hrest, ?_⟩
    rw [pairsToJson, htoFirst, htoRest]

end

end Bson

namespace Json

/-- BSON holds the value as it is, and the text of the value can be read back. -/
structure Faithful (value : Json) : Prop where
  legible : Legible value
  converts : ∃ bson, Bson.ofJson value = .ok bson ∧ bson.toJson = value

/-- Plain values survive the way to BSON and back. -/
theorem Plain.faithful {value : Json} (h : Plain value) : Faithful value :=
  ⟨h.legible, Bson.exists_ofJson_eq h⟩

/-- No name begins with a dollar sign, and BSON holds every value as it is. -/
def FaithfulPairs (pairs : List (String × Json)) : Prop :=
  ∀ pair ∈ pairs, ¬ HasDollar pair.1 ∧ Faithful pair.2

/-- Plain pairs survive the way to BSON and back. -/
theorem PlainPairs.faithful {pairs : List (String × Json)} (h : PlainPairs pairs) :
    FaithfulPairs pairs := by
  intro pair hpair
  obtain ⟨hname, hvalue⟩ := plainPairs_iff.mp h pair hpair
  exact ⟨hname, hvalue.faithful⟩

/-- Pairs that survive the way to BSON have texts that are read back. -/
theorem FaithfulPairs.legible {pairs : List (String × Json)} (h : FaithfulPairs pairs) :
    LegiblePairs pairs :=
  legiblePairs_iff.mpr fun pair hpair => (h pair hpair).2.legible

end Json

/-- Faithful pairs have a document that is shown as the pairs. -/
theorem Bson.exists_ofPairs_eq_of_faithful {pairs : List (String × Json)}
    (h : Json.FaithfulPairs pairs) :
    ∃ document, Bson.ofPairs pairs = .ok document ∧ Bson.pairsToJson document = pairs := by
  induction pairs with
  | nil => exact ⟨[], rfl, rfl⟩
  | cons pair pairs ih =>
    obtain ⟨name, value⟩ := pair
    obtain ⟨first, hfirst, htoFirst⟩ := (h _ List.mem_cons_self).2.converts
    obtain ⟨rest, hrest, htoRest⟩ := ih fun pair hpair => h pair (List.mem_cons_of_mem _ hpair)
    refine ⟨(name, first) :: rest, ofPairs_cons name hfirst hrest, ?_⟩
    rw [pairsToJson, htoFirst, htoRest]

/-- Pairs that BSON holds as they are have a document, which is shown as the same pairs again. -/
theorem Document.exists_ofPairs_eq {pairs : List (String × Json)} (h : Json.FaithfulPairs pairs) :
    ∃ document, Document.ofPairs pairs = .ok document ∧ Bson.pairsToJson document = pairs := by
  obtain ⟨document, hof, hto⟩ := Bson.exists_ofPairs_eq_of_faithful h
  refine ⟨document, ?_, hto⟩
  -- No name of the document begins with a dollar sign, so it stands for itself.
  have hnames : ∀ name ∈ Pairs.names document, ¬ HasDollar name := by
    intro name hname
    rw [← Bson.names_pairsToJson, hto] at hname
    obtain ⟨pair, hpair, rfl⟩ := List.mem_map.mp hname
    exact (h pair hpair).1
  simp only [Document.ofPairs, hof, bind, Except.bind,
    ExtendedJson.read_eq_document_of_undollared hnames]
  rfl

end KeyedStore
