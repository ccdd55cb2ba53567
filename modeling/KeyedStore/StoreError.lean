import KeyedStore.Bson.OfJson
import KeyedStore.Entity.Shape

/-!
# Errors of the store

Every error has a cause, and the cause decides its kind. A configuration error is a defect of a
declaration or of a call; serialization and connectivity errors befall correct calls too.

`Outcome` is the result of a computation that can also be cut short by a defect of the program
itself.

## References

- SPEC_FULL.md, section 7 and section 10.8, Errors: `DataStoreError` with `kind` and
  `is_configuration`
-/

namespace KeyedStore

/-- The three kinds of errors. -/
inductive ErrorKind where
  /-- A declaration or a key is wrong. -/
  | configuration
  /-- A value cannot be written to a document or read from one. -/
  | serialization
  /-- The store cannot be reached or does not answer. -/
  | connectivity
deriving DecidableEq

namespace ErrorKind

/-- The short name of a kind. -/
def name : ErrorKind → String
  | .configuration => "configuration"
  | .serialization => "serialization"
  | .connectivity => "connectivity"

/-- The words before the text of an error of a kind. -/
def heading : ErrorKind → String
  | .configuration => "Configuration error: "
  | .serialization => "Serialization error: "
  | .connectivity => "Connectivity error: "

/-- The name of a kind where an error is shown by its parts. -/
def label : ErrorKind → String
  | .configuration => "ConfigurationError"
  | .serialization => "SerializationError"
  | .connectivity => "ConnectivityError"

end ErrorKind

/-- An error by its cause. -/
inductive StoreError where
  /-- A declaration names no collection. -/
  | emptyCollection (type : String)
  /-- A declaration names a collection with a forbidden character. -/
  | invalidCollection (type collection : String)
  /-- A declaration names a collection of the system. -/
  | reservedCollection (type collection : String)
  /-- A declaration names no key field. -/
  | noKeyField (type : String)
  /-- A declaration names a key field that cannot stand at the top of a document. -/
  | invalidKeyField (type field : String)
  /-- An entity has no key. -/
  | nullKey (type field : String)
  /-- An entity has an empty key. -/
  | emptyKey (type field : String)
  /-- The payload of an entity lacks its key field. -/
  | keyFieldAbsent (type field : String)
  /-- The payload of an entity cannot be written. -/
  | unserializable (detail : String)
  /-- The payload of an entity is not an object. -/
  | notObject (type kind : String)
  /-- The payload of an entity has no document. -/
  | unstorable (fault : BsonFault)
  /-- A document is not an entity of the type. -/
  | undecodable (type collection key : String) (fault : DecodeFault) (excerpt : String)
  /-- The data of a binary entity is a list of other things than bytes. -/
  | notByteArray (collection key : String)
  /-- The data of a binary entity is of another type. -/
  | notBinary (collection key type : String)
  /-- The document of a binary entity has no data. -/
  | noData (collection key : String)
  /-- The bytes of a binary entity cannot be read. -/
  | brokenStream (detail : String)
  /-- The store has been closed. -/
  | closed
  /-- The store refuses to answer. -/
  | refused
  /-- A task was dropped before it ran. -/
  | taskCancelled
  /-- A connection string does not name a server. -/
  | noClient
  /-- The server does not answer. -/
  | noAnswer
  /-- An error of a kind, stated by a caller. -/
  | stated (kind : ErrorKind) (text : String)

/-- What the libraries say about an error in words of their own. -/
structure ErrorWords extends FaultWords where
  /-- Why a task was dropped. -/
  taskCancelled : String
  /-- Why a connection string does not name a server. -/
  noClient : String
  /-- Why the server does not answer. -/
  noAnswer : String
deriving Inhabited

namespace StoreError

/-- The kind of an error. -/
def kind : StoreError → ErrorKind
  | .emptyCollection _ | .invalidCollection _ _ | .reservedCollection _ _ | .noKeyField _
  | .invalidKeyField _ _ | .nullKey _ _ | .emptyKey _ _ | .keyFieldAbsent _ _ => .configuration
  | .unserializable _ | .notObject _ _ | .unstorable _ | .undecodable _ _ _ _ _
  | .notByteArray _ _ | .notBinary _ _ _ | .noData _ _ | .brokenStream _ => .serialization
  | .closed | .refused | .taskCancelled | .noClient | .noAnswer => .connectivity
  | .stated kind _ => kind

/-- Whether an error is a configuration error. -/
def isConfiguration (error : StoreError) : Bool :=
  error.kind = .configuration

/-- The text of an error, without its kind. -/
def text (words : ErrorWords) : StoreError → String
  | .emptyCollection type => type ++ " is not a storable data type: collection name is empty"
  | .invalidCollection type collection =>
    type ++ " declares invalid collection name `" ++ collection ++ "`: `$` and NUL are not allowed"
  | .reservedCollection type collection =>
    type ++ " declares reserved collection name `" ++ collection ++ "`"
  | .noKeyField type => type ++ " has no key field"
  | .invalidKeyField type field => type ++ " declares invalid key field `" ++ field ++ "`"
  | .nullKey type field => "Key field `" ++ field ++ "` of " ++ type ++ " is null"
  | .emptyKey type field => "Key field `" ++ field ++ "` of " ++ type ++ " is empty"
  | .keyFieldAbsent type field =>
    "key field `" ++ field ++ "` not present in serialized payload of " ++ type
  | .unserializable detail => detail
  | .notObject type kind => type ++ " did not serialize to an object (got " ++ kind ++ ")"
  | .unstorable fault => fault.message
  | .undecodable type collection key fault excerpt =>
    "failed to decode " ++ type ++ " (collection=" ++ collection ++ ", key=" ++ key ++ "): " ++
      fault.message words.toFaultWords ++ "; payload: " ++ excerpt
  | .notByteArray collection key =>
    "`data` of " ++ collection ++ " (key=" ++ key ++ ") is an array but not a byte array"
  | .notBinary collection key type =>
    "`data` of " ++ collection ++ " (key=" ++ key ++ ") holds " ++ type ++ " instead of binary"
  | .noData collection key => "document " ++ key ++ " in " ++ collection ++ " has no `data` field"
  | .brokenStream detail => "byte stream failure: " ++ detail
  | .closed => "in-memory store is closed"
  | .refused => "connection refused"
  | .taskCancelled => "storage worker task was cancelled: " ++ words.taskCancelled
  | .noClient => "Failed to initialize MongoDB connection: " ++ words.noClient
  | .noAnswer => "MongoDB ping failed: " ++ words.noAnswer
  | .stated _ text => text

/-- The wording of an error. -/
def message (words : ErrorWords) (error : StoreError) : String :=
  error.kind.heading ++ error.text words

end StoreError

/-- An error of something that the store relies on, in its own words. -/
inductive ForeignError where
  /-- A stream of bytes breaks off. -/
  | stream (detail : String)
  /-- A value cannot be written to a document or read from one. -/
  | document (detail : String)
  /-- A text is not JSON, or a value cannot be written as JSON. -/
  | json (detail : String)
  /-- A server refuses something. -/
  | server (detail : String)

/-- What an error of something else means for the store. -/
def StoreError.ofForeign : ForeignError → StoreError
  | .stream detail => .brokenStream detail
  | .document detail => .stated .serialization detail
  | .json detail => .stated .serialization detail
  | .server detail => .stated .connectivity detail

/-- A defect that cuts a computation short. -/
inductive Abort where
  /-- A sum does not fit its integers. -/
  | additionOverflow
  /-- More bytes are asked for than an address can span. -/
  | capacityOverflow
  /-- Memory does not grant so many bytes at once. -/
  | allocationRefused (size : Nat)
  /-- More permits are asked for than a pool can have. -/
  | tooManyPermits
  /-- A defect of a caller's own. -/
  | raised (text : String)

/-- The wording of a defect. -/
def Abort.message : Abort → String
  | .additionOverflow => "attempt to add with overflow"
  | .capacityOverflow => "capacity overflow"
  | .allocationRefused size => "memory allocation of " ++ Text.decimal size ++ " bytes failed"
  | .tooManyPermits =>
    "a semaphore may not have more than MAX_PERMITS permits (2305843009213693951)"
  | .raised text => text

/-- How a computation ends. -/
inductive Outcome (α : Type) where
  /-- With a value. -/
  | done (value : α)
  /-- With an error. -/
  | failed (error : StoreError)
  /-- Cut short. -/
  | aborted (cause : Abort)

namespace Outcome

variable {α β : Type}

/-- Go on from the value, if there is one. -/
def bind : Outcome α → (α → Outcome β) → Outcome β
  | .done value, next => next value
  | .failed error, _ => .failed error
  | .aborted cause, _ => .aborted cause

/-- Outcomes are composed by `bind`. -/
instance : Monad Outcome where
  pure := .done
  bind := bind

/-- The outcome of a computation that only succeeds or fails. -/
def ofExcept : Except StoreError α → Outcome α
  | .ok value => .done value
  | .error error => .failed error

end Outcome

end KeyedStore
