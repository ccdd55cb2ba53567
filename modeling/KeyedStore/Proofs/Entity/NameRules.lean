import KeyedStore.Entity.Registry

/-!
# The rules for declared names

What a collection and a key field can be called, and what is wrong with another name. A registration
is held to the rule for its collection first; only if that is kept does its key field matter.

- `NamesCollection`, `CollectionFault`: names of collections, and what is wrong with others;
- `NamesField`, `FieldFault`: the same of key fields;
- `Registration.Keeps`, `Registration.Breaks`: both rules together, in their order;
- `Registration.keeps_or_breaks`: there is no third case;
- `Registration.Keeps.check_eq`, `Registration.Breaks.check_eq`: what a check says of each.

## References

- SPEC_FULL.md, section 10.3, Validation
-/

namespace KeyedStore

/-! ## Names -/

/-- A name that a collection can have. -/
structure NamesCollection (name : String) : Prop where
  /-- Not all of it is blank. -/
  notBlank : ∃ c ∈ name.toList, Text.isBlank c = false
  /-- It has no dollar sign. -/
  noDollar : '$' ∉ name.toList
  /-- It has no null character. -/
  noNull : '\x00' ∉ name.toList
  /-- It is not that of a collection of the system. -/
  notReserved : ¬ "system.".toList <+: name.toList

/-- What is wrong with the name of a collection. -/
inductive CollectionFault (typeName name : String) : StoreError → Prop where
  /-- There is nothing but blanks. -/
  | blank (hblank : ∀ c ∈ name.toList, Text.isBlank c = true) :
    CollectionFault typeName name (.emptyCollection typeName)
  /-- There is a forbidden character. -/
  | forbidden (hblank : ∃ c ∈ name.toList, Text.isBlank c = false)
    (hforbidden : '$' ∈ name.toList ∨ '\x00' ∈ name.toList) :
    CollectionFault typeName name (.invalidCollection typeName name)
  /-- The name is that of a collection of the system. -/
  | reserved (hblank : ∃ c ∈ name.toList, Text.isBlank c = false) (hdollar : '$' ∉ name.toList)
    (hnull : '\x00' ∉ name.toList) (hreserved : "system.".toList <+: name.toList) :
    CollectionFault typeName name (.reservedCollection typeName name)

/-- A name that a key field can have. -/
structure NamesField (name : String) : Prop where
  /-- Not all of it is blank. -/
  notBlank : ∃ c ∈ name.toList, Text.isBlank c = false
  /-- It does not begin with a dollar sign. -/
  noDollar : name.toList.head? ≠ some '$'
  /-- It is not a path. -/
  noDot : '.' ∉ name.toList

/-- What is wrong with the name of a key field. -/
inductive FieldFault (typeName name : String) : StoreError → Prop where
  /-- There is nothing but blanks. -/
  | blank (hblank : ∀ c ∈ name.toList, Text.isBlank c = true) :
    FieldFault typeName name (.noKeyField typeName)
  /-- The name cannot stand at the top of a document. -/
  | forbidden (hblank : ∃ c ∈ name.toList, Text.isBlank c = false)
    (hforbidden : name.toList.head? = some '$' ∨ '.' ∈ name.toList) :
    FieldFault typeName name (.invalidKeyField typeName name)

/-! ## Checks of names -/

namespace Declaration

variable {typeName name : String} {error : StoreError}

/-- A name is blank exactly if all its characters are. -/
theorem allBlank_iff : Text.allBlank name = true ↔ ∀ c ∈ name.toList, Text.isBlank c = true :=
  List.all_eq_true

/-- A name is not blank exactly if one of its characters is not. -/
theorem not_allBlank_iff : ¬ Text.allBlank name = true ↔
    ∃ c ∈ name.toList, Text.isBlank c = false := by
  simp [allBlank_iff]

theorem checkCollection_of_names (h : NamesCollection name) :
    checkCollection typeName name = .ok () := by
  have hforbidden : ¬ ('$' ∈ name.toList ∨ '\x00' ∈ name.toList) :=
    not_or.mpr ⟨h.noDollar, h.noNull⟩
  rw [checkCollection, if_neg (not_allBlank_iff.mpr h.notBlank), if_neg hforbidden,
    if_neg (mt List.isPrefixOf_iff_prefix.mp h.notReserved)]

theorem checkCollection_of_fault (h : CollectionFault typeName name error) :
    checkCollection typeName name = .error error := by
  cases h with
  | blank hblank => rw [checkCollection, if_pos (allBlank_iff.mpr hblank)]
  | forbidden hblank hforbidden =>
    rw [checkCollection, if_neg (not_allBlank_iff.mpr hblank), if_pos hforbidden]
  | reserved hblank hdollar hnull hreserved =>
    rw [checkCollection, if_neg (not_allBlank_iff.mpr hblank),
      if_neg (not_or.mpr ⟨hdollar, hnull⟩), if_pos (List.isPrefixOf_iff_prefix.mpr hreserved)]

theorem checkKeyField_of_names (h : NamesField name) : checkKeyField typeName name = .ok () := by
  have hforbidden : ¬ (name.toList.head? = some '$' ∨ '.' ∈ name.toList) :=
    not_or.mpr ⟨h.noDollar, h.noDot⟩
  rw [checkKeyField, if_neg (not_allBlank_iff.mpr h.notBlank), if_neg hforbidden]

theorem checkKeyField_of_fault (h : FieldFault typeName name error) :
    checkKeyField typeName name = .error error := by
  cases h with
  | blank hblank => rw [checkKeyField, if_pos (allBlank_iff.mpr hblank)]
  | forbidden hblank hforbidden =>
    rw [checkKeyField, if_neg (not_allBlank_iff.mpr hblank), if_pos hforbidden]

/-- A name is one that a collection can have, or something is wrong with it. -/
theorem namesCollection_or_fault (typeName name : String) :
    NamesCollection name ∨ ∃ error, CollectionFault typeName name error := by
  by_cases hblank : Text.allBlank name = true
  · exact .inr ⟨_, .blank (allBlank_iff.mp hblank)⟩
  have hblank := not_allBlank_iff.mp hblank
  by_cases hforbidden : '$' ∈ name.toList ∨ '\x00' ∈ name.toList
  · exact .inr ⟨_, .forbidden hblank hforbidden⟩
  obtain ⟨hdollar, hnull⟩ := not_or.mp hforbidden
  by_cases hreserved : "system.".toList <+: name.toList
  · exact .inr ⟨_, .reserved hblank hdollar hnull hreserved⟩
  · exact .inl ⟨hblank, hdollar, hnull, hreserved⟩

/-- A name is one that a key field can have, or something is wrong with it. -/
theorem namesField_or_fault (typeName name : String) :
    NamesField name ∨ ∃ error, FieldFault typeName name error := by
  by_cases hblank : Text.allBlank name = true
  · exact .inr ⟨_, .blank (allBlank_iff.mp hblank)⟩
  have hblank := not_allBlank_iff.mp hblank
  by_cases hforbidden : name.toList.head? = some '$' ∨ '.' ∈ name.toList
  · exact .inr ⟨_, .forbidden hblank hforbidden⟩
  · obtain ⟨hdollar, hdot⟩ := not_or.mp hforbidden
    exact .inl ⟨hblank, hdollar, hdot⟩

end Declaration

/-! ## Registrations -/

namespace Registration

/-- A registration that keeps the rules. -/
structure Keeps (registration : Registration) : Prop where
  /-- Its collection can be had. -/
  collection : NamesCollection registration.collection
  /-- Its key field can be had. -/
  keyField : NamesField registration.keyField

/-- What breaking a rule comes to. The key field does not matter unless the collection is in
order. -/
inductive Breaks (registration : Registration) : StoreError → Prop where
  /-- The collection is wrong. -/
  | collection {error : StoreError}
    (hfault : CollectionFault registration.typeName registration.collection error) :
    Breaks registration error
  /-- The collection is in order, but the key field is wrong. -/
  | keyField {error : StoreError} (hcollection : NamesCollection registration.collection)
    (hfault : FieldFault registration.typeName registration.keyField error) :
    Breaks registration error

variable {registration : Registration} {error : StoreError}

/-- A registration that keeps the rules passes the check. -/
theorem Keeps.check_eq (h : registration.Keeps) : registration.check = .ok () := by
  rw [check, Declaration.checkCollection_of_names h.collection]
  exact Declaration.checkKeyField_of_names h.keyField

/-- A registration that breaks a rule ends the check with the error of that rule. -/
theorem Breaks.check_eq (h : registration.Breaks error) : registration.check = .error error := by
  cases h with
  | collection hfault =>
    rw [check, Declaration.checkCollection_of_fault hfault]
    rfl
  | keyField hcollection hfault =>
    rw [check, Declaration.checkCollection_of_names hcollection]
    exact Declaration.checkKeyField_of_fault hfault

/-- A registration that breaks a rule does not keep the rules. -/
theorem Breaks.not_keeps (h : registration.Breaks error) : ¬ registration.Keeps :=
  fun hkeeps => absurd (h.check_eq.symm.trans hkeeps.check_eq) (by simp)

/-- A registration keeps the rules or breaks one of them. -/
theorem keeps_or_breaks (registration : Registration) :
    registration.Keeps ∨ ∃ error, registration.Breaks error := by
  rcases Declaration.namesCollection_or_fault registration.typeName registration.collection with
    hcollection | ⟨error, hfault⟩
  · rcases Declaration.namesField_or_fault registration.typeName registration.keyField with
      hfield | ⟨error, hfault⟩
    · exact .inl ⟨hcollection, hfield⟩
    · exact .inr ⟨error, .keyField hcollection hfault⟩
  · exact .inr ⟨error, .collection hfault⟩

/-- A rule that is broken is a configuration error. -/
theorem Breaks.isConfiguration (h : registration.Breaks error) : error.isConfiguration = true := by
  cases h with
  | collection hfault => cases hfault <;> rfl
  | keyField _ hfault => cases hfault <;> rfl

end Registration

end KeyedStore
