import KeyedStore.Bson.OfJson

/-!
# What is found at a path

A path leads from a value to a value inside it, through lists by the index of an item and through
objects by a name. Conversion to BSON works in place: whatever is found at a path of a JSON value,
its own BSON value is found at the same path of the converted value. Only an object that stands for
another value, as extended JSON, closes the paths that lead through it.

- `get?_ofPairs`, `getElem?_ofItems`: conversion one level down;
- `at?_ofJson`: conversion along a path.

## References

- SPEC_FULL.md, section 4.2, step 5 of storing: every field of the payload is there
-/

namespace KeyedStore

/-- A step from a container to one of its values. -/
inductive Step where
  /-- To the value of a name. -/
  | field (name : String)
  /-- To the item at an index. -/
  | item (index : Nat)

/-- The value at a path of a JSON value. -/
def Json.at? : List Step → Json → Option Json
  | [], value => some value
  | .field name :: path, .object pairs => (Pairs.get? name pairs).bind (at? path)
  | .item index :: path, .array items => items[index]?.bind (at? path)
  | _ :: _, _ => none

/-- The value at a path of a BSON value. -/
def Bson.at? : List Step → Bson → Option Bson
  | [], value => some value
  | .field name :: path, .document pairs => (Pairs.get? name pairs).bind (at? path)
  | .item index :: path, .array items => items[index]?.bind (at? path)
  | _ :: _, _ => none

/-- No object that a path leads through stands for another value. -/
def Json.Clear : List Step → Json → Prop
  | .field name :: path, .object pairs =>
    (∀ document, Bson.ofPairs pairs = .ok document → ExtendedJson.read? document = none) ∧
      ∀ value, Pairs.get? name pairs = some value → Clear path value
  | .item index :: path, .array items => ∀ value, items[index]? = some value → Clear path value
  | _, _ => True

namespace Bson

/-- A conversion of several pairs converts the first and the others. -/
theorem ofPairs_cons_eq_ok {name : String} {value : Json} {pairs : List (String × Json)}
    {document : Document} (h : ofPairs ((name, value) :: pairs) = .ok document) :
    ∃ first rest, ofJson value = .ok first ∧ ofPairs pairs = .ok rest ∧
      document = (name, first) :: rest := by
  rw [ofPairs] at h
  cases hfirst : ofJson value with
  | error fault => simp [hfirst, bind, Except.bind] at h
  | ok first =>
    cases hrest : ofPairs pairs with
    | error fault => simp [hfirst, hrest, bind, Except.bind] at h
    | ok rest =>
      rw [hfirst, hrest] at h
      exact ⟨first, rest, rfl, rfl, (Except.ok.inj h).symm⟩

/-- A converted list is its first item, converted, and the others. -/
theorem ofItems_cons_eq_ok {item : Json} {items : List Json} {bsons : List Bson}
    (h : ofItems (item :: items) = .ok bsons) :
    ∃ first rest, ofJson item = .ok first ∧ ofItems items = .ok rest ∧ bsons = first :: rest := by
  rw [ofItems] at h
  cases hfirst : ofJson item with
  | error fault => simp [hfirst, bind, Except.bind] at h
  | ok first =>
    cases hrest : ofItems items with
    | error fault => simp [hfirst, hrest, bind, Except.bind] at h
    | ok rest =>
      rw [hfirst, hrest] at h
      exact ⟨first, rest, rfl, rfl, (Except.ok.inj h).symm⟩

/-- Conversion keeps the names of pairs, in their order. -/
theorem names_ofPairs {pairs : List (String × Json)} {document : Document}
    (h : ofPairs pairs = .ok document) : Pairs.names document = Pairs.names pairs := by
  induction pairs generalizing document with
  | nil =>
    rw [← Except.ok.inj h]
    rfl
  | cons pair pairs ih =>
    obtain ⟨first, rest, -, hrest, rfl⟩ := ofPairs_cons_eq_ok h
    rw [Pairs.names, List.map_cons, ← Pairs.names, ih hrest]
    rfl

/-- The value of a name is converted under its name. -/
theorem get?_ofPairs {pairs : List (String × Json)} {document : Document}
    (h : ofPairs pairs = .ok document) {name : String} {value : Json}
    (hget : Pairs.get? name pairs = some value) :
    ∃ bson, Pairs.get? name document = some bson ∧ ofJson value = .ok bson := by
  induction pairs generalizing document with
  | nil => exact absurd hget (by simp [Pairs.get?])
  | cons pair pairs ih =>
    obtain ⟨first, rest, hfirst, hrest, rfl⟩ := ofPairs_cons_eq_ok h
    rw [Pairs.get?] at hget ⊢
    split at hget
    · rename_i hname
      rw [if_pos hname, ← Option.some.inj hget]
      exact ⟨first, rfl, hfirst⟩
    · rename_i hname
      rw [if_neg hname]
      exact ih hrest hget

/-- The item at an index is converted in its place. -/
theorem getElem?_ofItems {items : List Json} {bsons : List Bson} (h : ofItems items = .ok bsons)
    {index : Nat} {value : Json} (hget : items[index]? = some value) :
    ∃ bson, bsons[index]? = some bson ∧ ofJson value = .ok bson := by
  induction items generalizing bsons index with
  | nil => exact absurd hget (by simp)
  | cons item items ih =>
    obtain ⟨first, rest, hfirst, hrest, rfl⟩ := ofItems_cons_eq_ok h
    -- An index counts down as the list does.
    cases index with
    | zero =>
      rw [List.getElem?_cons_zero, Option.some.injEq] at hget
      exact ⟨first, rfl, hget ▸ hfirst⟩
    | succ index =>
      rw [List.getElem?_cons_succ] at hget ⊢
      exact ih hrest hget

/-- The value at a clear path is converted in its place. -/
theorem at?_ofJson {path : List Step} {value found : Json} {bson : Bson}
    (h : ofJson value = .ok bson) (hclear : value.Clear path) (hat : value.at? path = some found) :
    ∃ converted, bson.at? path = some converted ∧ ofJson found = .ok converted := by
  induction path generalizing value bson with
  | nil =>
    rw [Json.at?, Option.some.injEq] at hat
    exact ⟨bson, rfl, hat ▸ h⟩
  | cons step path ih =>
    cases step with
    | field name =>
      cases value with
      | object pairs =>
        rw [Json.at?, Option.bind_eq_some_iff] at hat
        obtain ⟨inner, hget, hat⟩ := hat
        obtain ⟨hself, hclear⟩ := hclear
        rw [ofJson] at h
        cases hof : ofPairs pairs with
        | error fault => simp [hof, Except.map] at h
        | ok document =>
          -- The object stands for itself, so its conversion is a document of the same names.
          rw [hof, Except.map, Except.ok.injEq, ExtendedJson.read, hself document hof,
            Option.getD_none] at h
          obtain ⟨converted, hconverted, hinner⟩ := get?_ofPairs hof hget
          rw [← h, at?, hconverted, Option.bind_some]
          exact ih hinner (hclear inner hget) hat
      | _ => exact absurd hat (by simp [Json.at?])
    | item index =>
      cases value with
      | array items =>
        rw [Json.at?, Option.bind_eq_some_iff] at hat
        obtain ⟨inner, hget, hat⟩ := hat
        rw [ofJson] at h
        cases hof : ofItems items with
        | error fault => simp [hof, Except.map] at h
        | ok bsons =>
          rw [hof, Except.map, Except.ok.injEq] at h
          obtain ⟨converted, hconverted, hinner⟩ := getElem?_ofItems hof hget
          rw [← h, at?, hconverted, Option.bind_some]
          exact ih hinner (hclear inner hget) hat
      | _ => exact absurd hat (by simp [Json.at?])

end Bson

end KeyedStore
