import KeyedStore.Pairs
import KeyedStore.Text.Basic
import KeyedStore.Text.Percent

/-!
# Credentials

How a client shows a server who it is: a mechanism, the name and the password of a user, the
database that knows the user, and properties that only some mechanisms have. `Mechanism.admits` says
which of these belong together.

## References

- SPEC_FULL.md, section 10.8, the connection string of the configuration; section 10.5:
  `connect` of the database, up to the server
-/

namespace KeyedStore.Server

open Text

/-- The ways to show who one is. -/
inductive Mechanism where
  /-- By an answer that only the password allows. -/
  | challenge
  /-- By a certificate. -/
  | certificate
  /-- By the password itself. -/
  | plain
  /-- By a token that somebody else has issued. -/
  | token

/-- The mechanism of a name. Names are exact, and only these can be used. -/
def Mechanism.ofText? : String → Option Mechanism
  | "SCRAM-SHA-1" | "SCRAM-SHA-256" => some .challenge
  | "MONGODB-X509" => some .certificate
  | "PLAIN" => some .plain
  | "MONGODB-OIDC" => some .token
  | _ => none

/-- What a client says about itself. -/
structure Credential where
  /-- The name of the user. -/
  username : Option String
  /-- The password of the user. -/
  password : Option String
  /-- The database that knows the user, if it is named. -/
  source : Option String
  /-- The properties of the mechanism. -/
  properties : List (String × String)

/-- Whether a text can stand where the name or the password of a user is wanted: delimiters must be
encoded, and a percent sign stands before two hexadecimal digits. -/
def isUserPart (chars : List Char) : Bool :=
  (chars.all fun c => c ∉ [':', '/', '?', '#', '[', ']', '@']) ∧
    ((splitOn '%' chars).drop 1).all fun part =>
      2 ≤ part.length ∧ (part.take 2).all fun c => (hexValue? c).isSome

/-- Read the name or the password of a user. -/
def userPart? (chars : List Char) : Option String :=
  if isUserPart chars then (percentDecoded? chars).map String.ofList else none

/-- Read a name with an optional password behind a colon. A password without a name counts for
nothing. -/
def readUser? (chars : List Char) : Option (Option String × Option String) :=
  match cut ':' chars with
  | ([], _) => some (none, none)
  | (name, none) => do return (some (← userPart? name), none)
  | (name, some password) => do return (some (← userPart? name), some (← userPart? password))

/-- Read one property: a name and a value with a colon between them. Some properties are set in
other ways only, and one has few values. -/
def property? (chars : List Char) : Option (String × String) :=
  match cut ':' chars with
  | (_, none) => none
  | (name, some value) =>
    let name := String.ofList name
    let value := String.ofList value
    if name = "" ∨ value = "" ∨
        name ∈ ["ALLOWED_HOSTS", "OIDC_CALLBACK", "OIDC_HUMAN_CALLBACK"] then
      none
    else if name = "CANONICALIZE_HOST_NAME" ∧ lowered value ∉ ["true", "false"] ∧
        value ∉ ["none", "forward", "forwardAndReverse"] then
      none
    else some (name, value)

/-- Read the properties of a mechanism, with commas between them. -/
def properties? (text : String) : Option (List (String × String)) :=
  (splitOn ',' text.toList).mapM property?

namespace Mechanism

/-- Whether the place that a token comes from fits the rest: some places make tokens for a named
resource, others for no user in particular. -/
def admitsPlace (credential : Credential) : Bool :=
  let hasResource := Pairs.contains "TOKEN_RESOURCE" credential.properties
  match Pairs.get? "ENVIRONMENT" credential.properties with
  | none => true
  | some "azure" | some "gcp" => hasResource
  | some "test" | some "k8s" => credential.username.isNone && !hasResource
  | some _ => false

/-- Whether the properties of a token are known and fit together. -/
def admitsToken (credential : Credential) : Bool :=
  admitsPlace credential ∧
    credential.properties.all fun (name, _) => name = "ENVIRONMENT" ∨ name = "TOKEN_RESOURCE"

/-- Whether a mechanism can work with a credential. -/
def admits (mechanism : Mechanism) (credential : Credential) : Bool :=
  let isExternal : Bool := credential.source.getD "$external" = "$external"
  match mechanism with
  | .challenge => credential.username.isSome
  | .certificate => credential.password.isNone ∧ isExternal
  | .plain => credential.username.isSome ∧ credential.password.isSome
  | .token => credential.password.isNone ∧ isExternal ∧ admitsToken credential

end Mechanism

end KeyedStore.Server
