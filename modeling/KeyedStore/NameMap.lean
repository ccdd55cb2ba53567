import KeyedStore.Pairs

/-!
# Maps from names

A finite map from texts, kept as ordered pairs with distinct names. Two maps that hold the same
values under the same names are the same map for every reader; the order of the pairs is only the
order in which they happen to be visited.

## References

- SPEC_FULL.md, section 10.7, the map of statistics and the maps of rewards and awards
-/

namespace KeyedStore

/-- A finite map from names to values, with the order in which its pairs are visited. -/
structure NameMap (α : Type) where
  /-- The pairs, in visiting order. -/
  pairs : List (String × α)
  /-- No name occurs twice. -/
  distinct : Pairs.Distinct pairs

namespace NameMap

variable {α β : Type}

/-- The map that holds nothing. -/
def empty : NameMap α :=
  ⟨[], List.nodup_nil⟩

/-- The empty map is the default one. -/
instance : Inhabited (NameMap α) := ⟨empty⟩

/-- The value held under a name. -/
def get? (map : NameMap α) (name : String) : Option α :=
  Pairs.get? name map.pairs

/-- The number of names. -/
def size (map : NameMap α) : Nat :=
  map.pairs.length

/-- Hold `value` under `name`. -/
def insert (map : NameMap α) (name : String) (value : α) : NameMap α :=
  ⟨Pairs.insert name value map.pairs, map.distinct.insert name value⟩

/-- Hold nothing under `name`. -/
def erase (map : NameMap α) (name : String) : NameMap α :=
  ⟨Pairs.erase name map.pairs, map.distinct.erase name⟩

/-- The map of the pairs written in turn: of a repeated name the last value counts. -/
def ofList (pairs : List (String × α)) : NameMap α :=
  pairs.foldl (fun map pair => map.insert pair.1 pair.2) empty

/-- Two maps are alike when they hold the same value under every name. -/
def Alike (first second : NameMap α) : Prop :=
  ∀ name, first.get? name = second.get? name

/-- Nothing is held in the empty map. -/
@[simp]
theorem get?_empty (name : String) : (empty : NameMap α).get? name = none := rfl

/-- The value just held is read back. -/
@[simp]
theorem get?_insert_self (map : NameMap α) (name : String) (value : α) :
    (map.insert name value).get? name = some value :=
  Pairs.get?_insert_self name value map.pairs

/-- Holding a value under one name leaves every other name as it was. -/
theorem get?_insert_of_ne (map : NameMap α) {name other : String} (h : other ≠ name) (value : α) :
    (map.insert name value).get? other = map.get? other :=
  Pairs.get?_insert_of_ne h value map.pairs

/-- An erased name holds nothing. -/
@[simp]
theorem get?_erase_self (map : NameMap α) (name : String) :
    (map.erase name).get? name = none :=
  Pairs.get?_erase_self map.distinct name

/-- Erasing one name leaves every other name as it was. -/
theorem get?_erase_of_ne (map : NameMap α) {name other : String} (h : other ≠ name) :
    (map.erase name).get? other = map.get? other :=
  Pairs.get?_erase_of_ne h map.pairs

end NameMap

end KeyedStore
