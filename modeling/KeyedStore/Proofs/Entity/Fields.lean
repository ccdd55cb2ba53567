import KeyedStore.Entity.Shape
import KeyedStore.Proofs.Pairs

/-!
# Reading records field by field

A record reads an object in two passes: the pairs that are there are checked in their own order,
then the entity is built by looking its fields up. `Record.Fits` is what both passes need of the
pairs, stated without their order and built up one field at a time, as the record is.

- `Fits.there`, `Fits.absent`: the record with one more field;
- `Fits.read_eq`: a record that fits the pairs reads them;
- `build_eq_ok`, `build_field_eq_ok`: what has been read, field by field.

## References

- SPEC_FULL.md, section 4.2, step 4 of loading
-/

namespace KeyedStore

variable {α β : Type}

namespace Shape

/-- A shape finds no fault in a value that it reads. -/
theorem fault?_eq_none {shape : Shape α} {json : Json} {value : α} (h : shape json = .ok value) :
    shape.fault? json = none := by
  rw [fault?, h]

/-- A value that is there is read by an optional shape as by the shape itself. -/
theorem optional_eq {shape : Shape α} {json : Json} {value : α} (h : shape json = .ok value)
    (hnull : json.isNull = false) : shape.optional json = .ok (some value) := by
  cases json with
  | null => exact absurd hnull (by decide)
  | _ => simp [optional, h, Except.map]

/-- A list of written values is read back if every single one is. -/
theorem listOf_map {shape : Shape α} {write : α → Json}
    (h : ∀ value, shape (write value) = .ok value) (values : List α) :
    shape.listOf (.array (values.map write)) = .ok values := by
  rw [listOf, List.mapM_map]
  induction values with
  | nil => rfl
  | cons value values ih =>
    rw [List.mapM_cons, Function.comp_apply, h, ih]
    rfl

/-- A map of written values is read back if every single one is. -/
theorem mapOf_map {shape : Shape α} {write : α → Json}
    (h : ∀ value, shape (write value) = .ok value) (map : NameMap α) :
    shape.mapOf (.object (map.pairs.map fun pair => (pair.1, write pair.2))) = .ok map := by
  have hpairs : ∀ pairs : List (String × α),
      shape.pairsOf (pairs.map fun pair => (pair.1, write pair.2)) = .ok pairs := by
    intro pairs
    induction pairs with
    | nil => rfl
    | cons pair pairs ih =>
      rw [List.map_cons, pairsOf, h, ih]
      rfl
  rw [mapOf, hpairs]
  exact congrArg Except.ok (NameMap.ofList_pairs map)

theorem int64_whole (n : Int64) : int64 (.whole n.toInt) = .ok n := by
  have hlow := n.le_toInt
  have hhigh := n.toInt_lt
  rw [int64, wholeIn, if_pos (by omega)]
  exact congrArg Except.ok (Int64.ofInt_toInt n)

theorem int32_whole (n : Int32) : int32 (.whole n.toInt) = .ok n := by
  have hlow := n.le_toInt
  have hhigh := n.toInt_lt
  rw [int32, wholeIn, if_pos (by omega)]
  exact congrArg Except.ok (Int32.ofInt_toInt n)

theorem uint8_whole (n : UInt8) : uint8 (.whole n.toNat) = .ok n := by
  have hhigh := n.toNat_lt
  rw [uint8, wholeIn, if_pos (by omega)]
  exact congrArg Except.ok UInt8.ofNat_toNat

end Shape

namespace Record

/-- Every pair that the record names passes its check, and the entity that is built from the pairs
is `value`. -/
structure Fits (record : Record α) (pairs : List (String × Json)) (value : α) : Prop where
  passes : ∀ {name json check}, Pairs.get? name pairs = some json →
    Pairs.get? name record.checks = some check → check json = none
  builds : record.build pairs = .ok value

variable {pairs : List (String × Json)}

/-- A record without fields fits all pairs. -/
theorem fits_of (value : α) (pairs : List (String × Json)) :
    (Record.of value).Fits pairs value where
  passes _ hcheck := absurd hcheck (by simp [Record.of, Pairs.get?])
  builds := rfl

/-- A further field that finds no fault in its pair leaves no pair with a fault. -/
private theorem passes_field {record : Record (α → β)} {partly : α → β}
    (h : record.Fits pairs partly) {field : String} {shape : Shape α} {absent : Option α}
    (hfits : ∀ json, Pairs.get? field pairs = some json → shape.fault? json = none)
    {name : String} {json : Json} {check : Json → Option DecodeFault}
    (hjson : Pairs.get? name pairs = some json)
    (hcheck : Pairs.get? name (record.field field shape absent).checks = some check) :
    check json = none := by
  rw [Record.field, Pairs.get?_append] at hcheck
  -- The first check of a name is the one that counts, so that of an earlier field stays in force.
  cases hearlier : Pairs.get? name record.checks with
  | some earlier =>
    rw [hearlier, Option.some_or] at hcheck
    exact h.passes hjson (hearlier.trans hcheck)
  | none =>
    rw [hearlier, Option.none_or, Pairs.get?] at hcheck
    split at hcheck
    · rename_i hname
      rw [← Option.some.inj hcheck]
      exact hfits json (hname ▸ hjson)
    · exact absurd hcheck (by simp [Pairs.get?])

/-- A record fits with one more field if the field is there and can be read. -/
theorem Fits.there {record : Record (α → β)} {partly : α → β} (h : record.Fits pairs partly)
    {field : String} {shape : Shape α} {json : Json} {value : α}
    (hjson : Pairs.get? field pairs = some json) (hread : shape json = .ok value)
    (absent : Option α) : (record.field field shape absent).Fits pairs (partly value) where
  passes hget hcheck := by
    refine passes_field h (fun found hfound => ?_) hget hcheck
    rw [hjson] at hfound
    rw [← Option.some.inj hfound]
    exact Shape.fault?_eq_none hread
  builds := by
    simp only [Record.field, h.builds, hjson, hread]
    rfl

/-- A record fits with one more field if the field is not there and has a value of its own. -/
theorem Fits.absent {record : Record (α → β)} {partly : α → β} (h : record.Fits pairs partly)
    {field : String} (hnone : Pairs.get? field pairs = none) (shape : Shape α) (value : α) :
    (record.field field shape (some value)).Fits pairs (partly value) where
  passes hget hcheck := by
    refine passes_field h (fun found hfound => ?_) hget hcheck
    exact absurd hfound (by simp [hnone])
  builds := by
    simp only [Record.field, h.builds, hnone]
    rfl

/-- A record finds no fault in pairs that it fits. -/
theorem firstFault_eq_none {record : Record α} {value : α} (h : record.Fits pairs value)
    (hdistinct : Pairs.Distinct pairs) : record.firstFault pairs = none := by
  -- The induction is on a part of the pairs; their values are looked up among all of them.
  have hall : ∀ part : List (String × Json), (∀ pair ∈ part, pair ∈ pairs) →
      record.firstFault part = none := by
    intro part hpart
    induction part with
    | nil => rfl
    | cons pair part ih =>
      obtain ⟨name, json⟩ := pair
      have hjson := (Pairs.get?_eq_some_iff hdistinct).mpr (hpart (name, json) List.mem_cons_self)
      have hfault : (Pairs.get? name record.checks).bind (· json) = none := by
        cases hcheck : Pairs.get? name record.checks with
        | none => rfl
        | some check => exact h.passes hjson hcheck
      rw [firstFault, hfault]
      exact ih fun pair hpair => hpart pair (List.mem_cons_of_mem _ hpair)
  exact hall pairs fun _ => id

/-- A record that fits distinct pairs reads their object. -/
theorem Fits.read_eq {record : Record α} {value : α} (h : record.Fits pairs value)
    (hdistinct : Pairs.Distinct pairs) : record.read (.object pairs) = .ok value := by
  rw [Record.read, firstFault_eq_none h hdistinct]
  exact h.builds

/-! ## What has been read -/

/-- What a record reads from an object is built from its pairs. -/
theorem build_eq_ok {record : Record α} {value : α} (h : record.read (.object pairs) = .ok value) :
    record.build pairs = .ok value := by
  rw [Record.read] at h
  split at h
  · exact absurd h (by simp)
  · exact h

/-- An entity with one more field is built from what has been read before and from the field, which
is there and can be read, or is not there and has a value of its own. -/
theorem build_field_eq_ok {record : Record (α → β)} {field : String} {shape : Shape α}
    {absent : Option α} {value : β}
    (h : (record.field field shape absent).build pairs = .ok value) :
    ∃ partly part, record.build pairs = .ok partly ∧ value = partly part ∧
      ((∃ json, Pairs.get? field pairs = some json ∧ shape json = .ok part) ∨
        Pairs.get? field pairs = none ∧ absent = some part) := by
  simp only [Record.field] at h
  cases hpartly : record.build pairs with
  | error fault =>
    rw [hpartly] at h
    exact absurd h (by simp [bind, Except.bind])
  | ok partly =>
    simp only [hpartly, bind, Except.bind] at h
    split at h
    · rename_i json hjson
      cases hpart : shape json with
      | error fault => exact absurd h (by simp [hpart, Except.map])
      | ok part =>
        rw [hpart] at h
        -- The field is there, or else its absence has a meaning.
        exact ⟨partly, part, rfl, (Except.ok.inj h).symm, .inl ⟨json, hjson, hpart⟩⟩
    · rename_i part hnone
      exact ⟨partly, part, rfl, (Except.ok.inj h).symm, .inr ⟨hnone, rfl⟩⟩
    · exact absurd h (by simp)

end Record

end KeyedStore
