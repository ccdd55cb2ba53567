import KeyedStore.Entity.Registry
import KeyedStore.Player.Level
import KeyedStore.Player.Stats
import KeyedStore.Specimen.Archives
import KeyedStore.Specimen.Loose
import KeyedStore.Specimen.Records
import KeyedStore.World.Archive

/-!
# The catalogue

All kinds of entities by the names of their types, and the lists of registrations that are checked
together: the three of the application, and those with the registered specimens.

## References

- SPEC_FULL.md, section 10.2, the registry of `data_collection`; section 10.7, the entities of the
  program
-/

namespace KeyedStore.Catalogue

/-- The declarations of the application. -/
def applicationTypes : List Declaration :=
  [PlayerStats.kind.declaration, PlayerLevel.kind.declaration, WorldArchive.kind.declaration]

/-- The declarations of the application and of the registered specimens. -/
def registeredTypes : List Declaration :=
  applicationTypes ++ [FaultyArchive.kind.declaration, Profile.kind.declaration,
    ProfileV2.kind.declaration, Planet.kind.declaration, Shadowing.kind.declaration,
    MisdeclaredKey.kind.declaration, Scoreboard.kind.declaration]

/-- The registration of a type whose declaration stands beside it and writes its short name. -/
def registration (declaration : Declaration) : Registration :=
  declaration.register declaration.typeName

/-- The registrations of the application. -/
def application : List Registration :=
  applicationTypes.map registration

/-- The registrations of the application and of the registered specimens. -/
def registered : List Registration :=
  registeredTypes.map registration

/-- All declarations. -/
def all : List Declaration :=
  registeredTypes ++ Loose.declarations ++ [ReservedArchive.kind.declaration]

/-- The declaration of a type by its short name. -/
def declaration? (typeName : String) : Option Declaration :=
  all.find? fun declaration => declaration.typeName = typeName

/-- A structured kind of some type. -/
structure SomeStructured where
  /-- The type of the entities. -/
  Entity : Type
  /-- The kind. -/
  kind : StructuredKind Entity

/-- The structured kinds of fixed fields, in the order of their declarations. -/
def structured : List SomeStructured :=
  [⟨_, PlayerStats.kind⟩, ⟨_, PlayerLevel.kind⟩, ⟨_, Profile.kind⟩, ⟨_, ProfileV2.kind⟩,
    ⟨_, Planet.kind⟩, ⟨_, Shadowing.kind⟩, ⟨_, MisdeclaredKey.kind⟩, ⟨_, Scoreboard.kind⟩]

/-- The structured kind of fixed fields by the short name of its type. -/
def structured? (typeName : String) : Option SomeStructured :=
  structured.find? fun some => some.kind.declaration.typeName = typeName

/-- The loose kind by the short name of its type. -/
def loose? (typeName : String) : Option (StructuredKind Loose) :=
  (Loose.declarations.find? fun declaration => declaration.typeName = typeName).map Loose.kind

end KeyedStore.Catalogue
