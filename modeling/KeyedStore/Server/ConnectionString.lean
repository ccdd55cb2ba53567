import KeyedStore.Server.Address
import KeyedStore.Server.Options

/-!
# Connection strings

How to reach servers: a scheme, an optional user before an at sign, addresses with commas between
them, an optional database after a slash and options after a question mark. `ConnectionString.read?`
takes a text apart, and `ConnectionString.isUsable` tells whether the parts go together.

## References

- SPEC_FULL.md, section 10.8, the connection string of the configuration; section 10.5:
  `connect` of the database, up to the server
-/

namespace KeyedStore

open Text Server

/-- How to reach servers. -/
structure ConnectionString where
  /-- Whether the text asks for a user, even if it does not name one. -/
  asksForUser : Bool
  /-- The name of the user. -/
  username : Option String
  /-- The password of the user. -/
  password : Option String
  /-- The addresses of the servers. -/
  addresses : List (List Char)
  /-- The options. -/
  options : Options

namespace ConnectionString

/-- Whether a text can be the name of a database. -/
def isDatabase (chars : List Char) : Bool :=
  chars.all fun c => c ∉ ['/', '\\', ' ', '"', '$']

/-- The user before the last at sign, if there is one, and the text behind it. -/
def splitUser (chars : List Char) : Option (List Char) × List Char :=
  -- Seen from the end, the last at sign is the first one.
  match cut '@' chars.reverse with
  | (place, none) => (none, place.reverse)
  | (place, some user) => (some user.reverse, place.reverse)

/-- Take a text apart. -/
def read? (text : String) : Option ConnectionString := do
  let scheme := "mongodb://".toList
  if ¬ scheme.isPrefixOf text.toList then none
  let (target, options) := cut '?' (text.toList.drop scheme.length)
  let (user, place) := splitUser target
  let (hosts, database) := cut '/' place
  let (username, password) ← readUser? (user.getD [])
  let addresses := splitOn ',' hosts
  let database ← percentDecoded? (database.getD [])
  let options ← options? (options.getD [])
  if addresses.all isAddress ∧ isDatabase database then
    some ⟨user.isSome, username, password, addresses, options⟩
  else none

/-- What the client says about itself. -/
def credential (connection : ConnectionString) : Credential where
  username := connection.username
  password := connection.password
  source := Pairs.get? "authsource" connection.options
  properties :=
    ((Pairs.get? "authmechanismproperties" connection.options).bind properties?).getD []

/-- Whether it is clear how the client shows who it is. Without a mechanism a user is needed only if
the text asks for one. -/
def isIdentified (connection : ConnectionString) : Bool :=
  match (Pairs.get? "authmechanism" connection.options).bind Mechanism.ofText? with
  | some mechanism => mechanism.admits connection.credential
  | none => connection.asksForUser → connection.username.isSome

/-- Whether the parts go together. -/
def isUsable (connection : ConnectionString) : Bool :=
  connection.isIdentified ∧ connection.options.agree connection.addresses.length

/-- Whether a text names servers in a way that can be used. -/
def namesServers (text : String) : Bool :=
  (read? text).any isUsable

end ConnectionString

end KeyedStore
