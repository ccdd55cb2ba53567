import KeyedStore.Server.Credential
import KeyedStore.Text.Digits

/-!
# Options of a connection

The options behind the question mark of a connection string. Every option has a rule for its value,
and some options do not go together. Options of certificates and of compression that need a file or
a library beside the program are not known, and neither are those of a look-up of servers by name.

## References

- SPEC_FULL.md, section 10.8, the connection string of the configuration; section 10.5:
  `connect` of the database, up to the server
-/

namespace KeyedStore.Server

open Text

/-- The options of a connection: names in small letters with the values that they have. -/
abbrev Options := List (String × String)

/-- Whether a text is a truth value. -/
def isFlag (value : String) : Bool :=
  value = "true" ∨ value = "false"

/-- Whether a text is an unsigned number that is at least `least` and below `limit`. -/
def isNumberIn (least limit : Nat) (value : String) : Bool :=
  (unsigned? value.toList).any fun n => least ≤ n ∧ n < limit

/-- Whether a text is a time in milliseconds. -/
def isTime (value : String) : Bool :=
  isNumberIn 0 UInt64.size value

/-- Whether a text says how many servers must have confirmed an operation: a number that is not
negative, or any word. -/
def isConfirmation (value : String) : Bool :=
  match signed? value.toList with
  | some n => n < Int32.minValue.toInt ∨ 0 ≤ n
  | none => true

/-- The seconds that data may lag behind; minus one stands for no limit. -/
def staleness? (value : String) : Option Int := do
  let n ← signed? value.toList
  if -1 ≤ n ∧ n ≤ Int64.maxValue.toInt then some n else none

/-- Whether a text is a list of tags of servers, each with a name and a value. -/
def areTags (value : String) : Bool :=
  value = "" ∨ (splitOn ',' value.toList).all fun tag => ':' ∈ tag

/-- The rule that an option has for its value, if the option is known. -/
def optionRule? (name : String) : Option (String → Bool) :=
  match name with
  | "appname" | "readconcernlevel" | "replicaset" => some fun _ => true
  | "directconnection" | "enableoverloadretargeting" | "journal" | "loadbalanced" | "retryreads"
  | "retrywrites" | "ssl" | "tls" | "tlsallowinvalidcertificates" | "tlsinsecure" => some isFlag
  | "connecttimeoutms" | "localthresholdms" | "maxidletimems" | "serverselectiontimeoutms"
  | "wtimeoutms" => some isTime
  | "heartbeatfrequencyms" => some (isNumberIn 500 UInt64.size)
  | "maxadaptiveretries" | "minpoolsize" => some (isNumberIn 0 UInt32.size)
  | "maxconnecting" | "maxpoolsize" => some (isNumberIn 1 UInt32.size)
  | "maxstalenessseconds" => some fun value => (staleness? value).isSome
  | "readpreference" => some fun value => lowered value ∈
      ["primary", "primarypreferred", "secondary", "secondarypreferred", "nearest"]
  | "readpreferencetags" => some areTags
  | "servermonitoringmode" => some fun value => lowered value ∈ ["stream", "poll", "auto"]
  | "uuidrepresentation" => some fun value =>
      lowered value ∈ ["csharplegacy", "javalegacy", "pythonlegacy"]
  | "w" => some isConfirmation
  | "authmechanism" => some fun value => (Mechanism.ofText? value).isSome
  | "authmechanismproperties" => some fun value => (properties? value).isSome
  | "authsource" => some (· ≠ "")
  | _ => none

/-- Read one option: a name and a value with an equals sign between them. -/
def option? (chars : List Char) : Option (String × String) :=
  match cut '=' chars with
  | (name, some value) =>
    some (String.ofList (lower name), String.ofList (percentDecoded value))
  | (_, none) => none

/-- Read the options of a connection. -/
def options? (chars : List Char) : Option Options :=
  if chars = [] then some [] else (splitOn '&' chars).mapM option?

namespace Options

/-- Whether a flag is set. -/
def isSet (name : String) (options : Options) : Bool :=
  Pairs.get? name options = some "true"

/-- Whether every option is known and has a value of its own kind, and none but the tags is
repeated. -/
def areKnown (options : Options) : Bool :=
  options.all (fun (name, value) => (optionRule? name).any (· value)) ∧
    ((Pairs.names options).filter (· ≠ "readpreferencetags")).Nodup

/-- Whether the options about encryption agree. It has two names, which must say the same, and what
is said about certificates asks for it. Of the two options about certificates that are not valid one
must say the opposite of the other. -/
def encryptionAgrees (options : Options) : Bool :=
  let switches := ["tls", "ssl"].filterMap (Pairs.get? · options)
  match Pairs.get? "tlsinsecure" options, Pairs.get? "tlsallowinvalidcertificates" options with
  | none, none => switches.all (· = "true") ∨ switches.all (· = "false")
  | some insecure, some allowed => switches.all (· = "true") ∧ insecure ≠ allowed
  | _, _ => switches.all (· = "true")

/-- The seconds that data may lag behind, if they are limited. -/
def staleness (options : Options) : Option Int :=
  ((Pairs.get? "maxstalenessseconds" options).bind staleness?).filter (0 ≤ ·)

/-- The milliseconds between two looks at a server, usually ten thousand. -/
def heartbeat (options : Options) : Nat :=
  ((Pairs.get? "heartbeatfrequencyms" options).bind (unsigned? ·.toList)).getD 10000

/-- Whether a limit for the lag can be kept: it is zero, which is no limit, or at least ninety
seconds and ten seconds more than servers go unwatched. -/
def stalenessFits (options : Options) : Bool :=
  match options.staleness with
  | none | some 0 => true
  | some seconds => 90 ≤ seconds ∧ options.heartbeat + 10000 ≤ 1000 * seconds

/-- Whether the options about the choice of a server agree. Tags and a limit for the lag choose
among servers that are not the first, which must be asked for. -/
def choiceAgrees (options : Options) : Bool :=
  let isNarrowed := Pairs.contains "readpreferencetags" options ∨ options.staleness.isSome
  (isNarrowed → ((Pairs.get? "readpreference" options).any (lowered · ≠ "primary")) = true) ∧
    options.stalenessFits

/-- Whether the options about confirmation agree: without confirmation nothing can be in a journal
first. -/
def confirmationAgrees (options : Options) : Bool :=
  ¬ (options.isSet "journal" ∧
    ((Pairs.get? "w" options).bind (signed? ·.toList)) = some 0)

/-- Whether the options fit so many servers. A direct connection, and one to a balancer of loads,
goes to a single server, and the latter to no set of servers. -/
def fitServers (count : Nat) (options : Options) : Bool :=
  let isDirect := options.isSet "directconnection"
  let isBalanced := options.isSet "loadbalanced"
  (isDirect ∨ isBalanced → count = 1) ∧
    (isBalanced → ¬ isDirect ∧ ¬ Pairs.contains "replicaset" options)

/-- Whether options can be used together for so many servers. -/
def agree (count : Nat) (options : Options) : Bool :=
  options.areKnown ∧ options.encryptionAgrees ∧ options.choiceAgrees ∧
    options.confirmationAgrees ∧ options.fitServers count

end Options

end KeyedStore.Server
