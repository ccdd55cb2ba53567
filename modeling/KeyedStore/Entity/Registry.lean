import KeyedStore.Entity.Declaration
import KeyedStore.Log

/-!
# The registry

All declarations of a program, checked together when it starts. A declaration is registered under
its type as the declaration writes it, which need not be the short name of the type. The first
registration that breaks a rule ends the check; two types that share a collection are only worth a
warning.

## References

- SPEC_FULL.md, section 10.3: `EntityRegistration`, `validate_registrations`
-/

namespace KeyedStore

/-- What a declaration leaves in the registry. -/
structure Registration where
  /-- The type as the declaration writes it. -/
  typeName : String
  /-- The name of the collection. -/
  collection : String
  /-- The name of the key field in the payload. -/
  keyField : String
deriving DecidableEq

/-- Check a registration. -/
def Registration.check (registration : Registration) : Except StoreError Unit := do
  Declaration.checkCollection registration.typeName registration.collection
  Declaration.checkKeyField registration.typeName registration.keyField

/-- The registration of a type that its declaration writes as `written`. -/
def Declaration.register (declaration : Declaration) (written : String) : Registration :=
  ⟨written, declaration.collection, declaration.keyField⟩

namespace Registry

/-- The part of the program that writes the entries of the check. -/
def source : String := "entity_datastore::core::registry"

/-- The warning that a type shares its collection with an earlier one. -/
def sharing (collection earlier later : String) : LogEntry :=
  ⟨.warn, source, "⚠️ 컬렉션 공유 감지: collection=" ++ collection ++ ", types=[" ++ earlier ++ ", " ++
    later ++ "]"⟩

/-- The entry at the end of a successful check. -/
def checked (count : Nat) : LogEntry :=
  ⟨.info, source, "📋 엔티티 레지스트리 검증 완료: " ++ Text.decimal count ++ "개 타입"⟩

/-- The warning about a registration, if its collection has an owner. -/
def warningsOf (owners : List (String × String)) (registration : Registration) : List LogEntry :=
  match Pairs.get? registration.collection owners with
  | some earlier => [sharing registration.collection earlier registration.typeName]
  | none => []

/-- Check registrations in turn. `owners` holds the last type seen for each collection and `count`
the number of registrations checked so far. -/
def checkAll (owners : List (String × String)) (count : Nat) :
    List Registration → Logged (Except StoreError Nat)
  | [] => ⟨[checked count], .ok count⟩
  | registration :: rest =>
    match registration.check with
    | .error error => ⟨[], .error error⟩
    | .ok () =>
      -- The later type takes the place of the earlier one for the next comparison.
      let later := checkAll
        (Pairs.insert registration.collection registration.typeName owners) (count + 1) rest
      ⟨warningsOf owners registration ++ later.entries, later.value⟩

/-- Check all registrations of a program; the result is their number. -/
def validate (registrations : List Registration) : Logged (Except StoreError Nat) :=
  checkAll [] 0 registrations

end Registry

end KeyedStore
