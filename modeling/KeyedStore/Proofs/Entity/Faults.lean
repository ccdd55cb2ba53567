import KeyedStore.Proofs.Bson.Convertible
import KeyedStore.Proofs.Entity.Fields

/-!
# What a fault tells

The fault of a value that cannot be read names what is wanted, and of the value at most one part of
it that stands where something else is wanted. Whether that part can be a text depends on the
fields: one of a text or of an instant never names a text, every other one may.

- `DecodeFault.Concerns`: a fault tells no more than that;
- `Shape.Candid`, `Record.Candid`: so do all faults of a shape and of a record;
- `Record.Candid.field`, `Record.Candid.read`: a record with one more field, and what it reads.

## References

- SPEC_FULL.md, section 4.2, step 4 of loading: diagnostics of a mismatch
-/

namespace KeyedStore

/-- A fault tells of a value no more than one part that stands inside it, beside words of at most
fifty characters. The part is a text only if `quotes` holds. -/
inductive DecodeFault.Concerns (quotes : Prop) (value : Json) : DecodeFault → Prop where
  /-- The fault names a field. -/
  | missingField {name : String} : name.length ≤ 50 → Concerns quotes value (.missingField name)
  /-- The fault names a part of the value. -/
  | wrongKind {found : Json} {wanted : String} : found.Occurs value → wanted.length ≤ 50 →
    (∀ text, found = .string text → quotes) → Concerns quotes value (.wrongKind found wanted)
  /-- The fault names a number of the value. -/
  | outOfRange {n : Int} {wanted : String} : (Json.whole n).Occurs value → wanted.length ≤ 50 →
    Concerns quotes value (.outOfRange n wanted)
  /-- The fault is a text that is not an instant, which is not named. -/
  | badInstant : Concerns quotes value .badInstant

variable {α β : Type} {quotes : Prop}

/-- A fault behind a change of the value is the fault of the value. -/
theorem error_of_map_eq_error {ε : Type} {first : Except ε α} {into : α → β} {fault : ε}
    (h : first.map into = .error fault) : first = .error fault := by
  cases first with
  | error other => exact congrArg Except.error (Except.error.inj h)
  | ok value => exact absurd h (by simp [Except.map])

/-- A fault that concerns a part concerns what the part stands in. -/
theorem DecodeFault.Concerns.of_part {part value : Json} {fault : DecodeFault}
    (h : fault.Concerns quotes part)
    (hpart : ∀ inner : Json, inner.Occurs part → inner.Occurs value) :
    fault.Concerns quotes value := by
  cases h with
  | missingField hname => exact .missingField hname
  | wrongKind hfound hwanted htext => exact .wrongKind (hpart _ hfound) hwanted htext
  | outOfRange hnumber hwanted => exact .outOfRange (hpart _ hnumber) hwanted
  | badInstant => exact .badInstant

/-! ## Shapes -/

namespace Shape

/-- Every fault of a shape concerns the value that is read. -/
def Candid (quotes : Prop) (shape : Shape α) : Prop :=
  ∀ value fault, shape value = .error fault → fault.Concerns quotes value

/-- Reading a text never quotes one: what stands in its place is no text. -/
theorem candid_text : text.Candid quotes := by
  intro value fault h
  cases value with
  | string _ => exact absurd h (by simp [text])
  | _ =>
    rw [← Except.error.inj h]
    exact .wrongKind .here (by decide) (by simp)

/-- Reading an instant never quotes a text: one that is no instant is not named. -/
theorem candid_instant : instant.Candid quotes := by
  intro value fault h
  cases value with
  | string content =>
    -- A text that is not an instant is not named, however long it is.
    simp only [instant] at h
    split at h
    · exact absurd h (by simp)
    · rw [← Except.error.inj h]
      exact .badInstant
  | _ =>
    rw [← Except.error.inj h]
    exact .wrongKind .here (by decide) (by simp)

/-- Reading a flag may quote a text in its place. -/
theorem candid_flag : flag.Candid True := by
  intro value fault h
  cases value with
  | bool _ => exact absurd h (by simp [flag])
  | _ =>
    rw [← Except.error.inj h]
    exact .wrongKind .here (by decide) fun _ _ => trivial

/-- So does every fault of a whole number of a range, whatever the number is taken into. -/
theorem candid_wholeIn {least greatest : Int} {wanted : String} (hwanted : wanted.length ≤ 50)
    (into : Int → α) : Candid True fun value => (wholeIn least greatest wanted value).map into := by
  intro value fault h
  cases value with
  | whole n =>
    simp only [wholeIn] at h
    split_ifs at h
    · exact absurd h (by simp [Except.map])
    · rw [← Except.error.inj h]
      exact .outOfRange .here hwanted
  | _ =>
    rw [← Except.error.inj h]
    exact .wrongKind .here hwanted fun _ _ => trivial

theorem candid_int64 : int64.Candid True := candid_wholeIn (by decide) _

theorem candid_int32 : int32.Candid True := candid_wholeIn (by decide) _

theorem candid_uint8 : uint8.Candid True := candid_wholeIn (by decide) _

variable {shape : Shape α}

/-- The fault that a shape finds in a value is the error of reading it. -/
theorem error_of_fault? {value : Json} {fault : DecodeFault} (h : shape.fault? value = some fault) :
    shape value = .error fault := by
  rw [fault?] at h
  split at h
  · exact absurd h (by simp)
  · rw [← Option.some.inj h]
    assumption

/-- A value that may be missing has no faults but those of the value. -/
theorem Candid.optional (h : shape.Candid quotes) : shape.optional.Candid quotes := by
  intro value fault hfault
  cases value with
  | null => exact absurd hfault (by simp [Shape.optional])
  | _ => exact h _ _ (error_of_map_eq_error hfault)

/-- A list of values is refused for one of them. -/
theorem exists_of_mapM_eq_error {items : List Json} {fault : DecodeFault}
    (h : items.mapM shape = .error fault) : ∃ item ∈ items, shape item = .error fault := by
  induction items with
  | nil => exact absurd h (by simp [pure, Except.pure])
  | cons item items ih =>
    rw [List.mapM_cons] at h
    cases hitem : shape item with
    | error other =>
      rw [hitem] at h
      -- The first item that is refused ends the reading.
      obtain rfl := Except.error.inj h
      exact ⟨item, List.mem_cons_self, hitem⟩
    | ok value =>
      rw [hitem] at h
      obtain ⟨other, hmem, hother⟩ := ih (error_of_map_eq_error h)
      exact ⟨other, List.mem_cons_of_mem _ hmem, hother⟩

/-- A fault of a list is one of the list or of an item in it. -/
theorem Candid.listOf (h : shape.Candid True) : shape.listOf.Candid True := by
  intro value fault hfault
  cases value with
  | array items =>
    obtain ⟨item, hmem, hitem⟩ := exists_of_mapM_eq_error hfault
    exact (h item fault hitem).of_part fun _ => .item hmem
  | _ =>
    rw [← Except.error.inj hfault]
    exact .wrongKind .here (by decide) fun _ _ => trivial

/-- The values of an object are refused for one of them. -/
theorem exists_of_pairsOf_eq_error {pairs : List (String × Json)} {fault : DecodeFault}
    (h : shape.pairsOf pairs = .error fault) : ∃ pair ∈ pairs, shape pair.2 = .error fault := by
  induction pairs with
  | nil => exact absurd h (by simp [pairsOf])
  | cons pair pairs ih =>
    rw [pairsOf] at h
    cases hvalue : shape pair.2 with
    | error other =>
      rw [hvalue] at h
      obtain rfl := Except.error.inj h
      exact ⟨pair, List.mem_cons_self, hvalue⟩
    | ok value =>
      rw [hvalue] at h
      obtain ⟨other, hmem, hother⟩ := ih (error_of_map_eq_error h)
      exact ⟨other, List.mem_cons_of_mem _ hmem, hother⟩

/-- A fault of a map is one of the map or of a value in it. -/
theorem Candid.mapOf (h : shape.Candid True) : shape.mapOf.Candid True := by
  intro value fault hfault
  cases value with
  | object pairs =>
    obtain ⟨pair, hmem, hvalue⟩ := exists_of_pairsOf_eq_error (error_of_map_eq_error hfault)
    exact (h pair.2 fault hvalue).of_part fun _ => .field hmem
  | _ =>
    rw [← Except.error.inj hfault]
    exact .wrongKind .here (by decide) fun _ _ => trivial

end Shape

/-! ## Records -/

namespace Record

/-- Every fault of a field concerns the value of the field, and every fault of the entity concerns
the object. -/
structure Candid (quotes : Prop) (record : Record α) : Prop where
  /-- A value that does not fit is told of. -/
  checks : ∀ {name : String} {check : Json → Option DecodeFault},
    Pairs.get? name record.checks = some check →
    ∀ value fault, check value = some fault → fault.Concerns quotes value
  /-- A field that is missing, or that does not fit, is told of. -/
  builds : ∀ {pairs : List (String × Json)} {fault : DecodeFault},
    record.build pairs = .error fault → fault.Concerns quotes (.object pairs)

/-- A record without fields has no faults. -/
theorem candid_of (value : α) : (Record.of value).Candid quotes where
  checks hcheck := absurd hcheck (by simp [Record.of, Pairs.get?])
  builds h := absurd h (by simp [Record.of])

/-- A record is candid with one more field of a short name and a candid shape. -/
theorem Candid.field {record : Record (α → β)} (h : record.Candid quotes) {name : String}
    {shape : Shape α} (hshape : shape.Candid quotes) (hname : name.length ≤ 50)
    (absent : Option α) : (record.field name shape absent).Candid quotes where
  checks {other check} hcheck value fault hfault := by
    -- The check of an earlier field of the same name stays in force.
    rw [Record.field, Pairs.get?_append] at hcheck
    rcases Option.or_eq_some_iff.mp hcheck with hearlier | ⟨-, hlast⟩
    · exact h.checks hearlier value fault hfault
    · -- The only check that is added is that of the shape.
      rw [Pairs.get?] at hlast
      split_ifs at hlast
      · rw [← Option.some.inj hlast] at hfault
        exact hshape value fault (Shape.error_of_fault? hfault)
      · exact absurd hlast (by simp [Pairs.get?])
  builds {pairs fault} hbuild := by
    -- What goes wrong is an earlier field, the value of this one, or its absence.
    simp only [Record.field] at hbuild
    cases hpartly : record.build pairs with
    | error other =>
      rw [hpartly] at hbuild
      obtain rfl := Except.error.inj hbuild
      exact h.builds hpartly
    | ok partly =>
      simp only [hpartly, bind, Except.bind] at hbuild
      split at hbuild
      · rename_i value hvalue
        exact (hshape value fault (error_of_map_eq_error hbuild)).of_part fun _ =>
          .field (Pairs.mem_of_get?_eq_some hvalue)
      · exact absurd hbuild (by simp)
      · rw [← Except.error.inj hbuild]
        exact .missingField hname

/-- What a candid record does not read of an object is told of. -/
theorem Candid.read {record : Record α} (h : record.Candid quotes)
    {pairs : List (String × Json)} {fault : DecodeFault}
    (hread : record.read (.object pairs) = .error fault) :
    fault.Concerns quotes (.object pairs) := by
  -- The induction is on a part of the pairs, in which the first fault is found.
  have hfirst : ∀ part : List (String × Json), (∀ pair ∈ part, pair ∈ pairs) →
      ∀ found, record.firstFault part = some found → found.Concerns quotes (.object pairs) := by
    intro part
    induction part with
    | nil => simp [firstFault]
    | cons pair part ih =>
      intro hpart found hfound
      rw [firstFault] at hfound
      split at hfound
      · rename_i fault hfault
        obtain ⟨check, hcheck, hvalue⟩ := Option.bind_eq_some_iff.mp hfault
        rw [← Option.some.inj hfound]
        exact (h.checks hcheck pair.2 fault hvalue).of_part fun _ =>
          .field (hpart pair List.mem_cons_self)
      · exact ih (fun other hother => hpart other (List.mem_cons_of_mem _ hother)) found hfound
  rw [Record.read] at hread
  split at hread
  · rename_i found hfound
    obtain rfl := Except.error.inj hread
    exact hfirst pairs (fun _ => id) found hfound
  · exact h.builds hread

end Record

end KeyedStore
