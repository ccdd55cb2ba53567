import KeyedStore.Log
import KeyedStore.Pattern.Basic
import KeyedStore.Settings.Basic
import KeyedStore.Text.Basic

/-!
# The filter of the log

Which entries are written. A specification is a list of directives between commas: a level, or a
source with a level, or a source alone, which shows all its entries. A directive is about every
source that begins with its own; of several the one with the longest source decides. Behind a slash
a pattern may follow that the message of an entry must match somewhere.

## References

- SPEC_FULL.md, section 10.8, Logging: the filter that `init_logging` reads
-/

namespace KeyedStore

/-- How much of some sources is shown. -/
structure LogDirective where
  /-- How the sources begin, if not all are meant. -/
  source : Option String
  /-- The greatest verbosity that is shown; zero shows nothing. -/
  verbosity : Nat

/-- Which entries are written. -/
structure LogFilter where
  /-- The directives, no two of them about the same sources. -/
  directives : List LogDirective
  /-- The pattern that a message must match, if there is one. -/
  pattern : Option Pattern

namespace LogFilter

open Text

/-- The verbosity that a word names, in letters of any case. -/
def verbosity? (word : String) : Option Nat :=
  match lowered word with
  | "off" => some 0
  | "error" => some 1
  | "warn" => some 2
  | "info" => some 3
  | "debug" => some 4
  | "trace" => some 5
  | _ => none

/-- Read one directive, or tell the part that cannot be read. -/
def readDirective (chars : List Char) : Except String LogDirective :=
  match splitOn '=' chars with
  | [word] =>
    -- A single word is a level for all sources or else a source.
    match verbosity? (String.ofList word) with
    | some verbosity => .ok ⟨none, verbosity⟩
    | none => .ok ⟨some (String.ofList word), 5⟩
  | [source, word] =>
    let level := String.ofList (trim word)
    if level = "" then .ok ⟨some (String.ofList source), 5⟩
    else
      match verbosity? level with
      | some verbosity => .ok ⟨some (String.ofList source), verbosity⟩
      | none => .error level
  | _ => .error (String.ofList chars)

/-- Add a directive, in place of one about the same sources. -/
def addDirective (added : LogDirective) : List LogDirective → List LogDirective
  | [] => [added]
  | directive :: rest =>
    if directive.source = added.source then added :: rest
    else directive :: addDirective added rest

/-- The words about a part of a specification that cannot be read. -/
def complaint (part : String) : String :=
  "warning: invalid logging spec '" ++ part ++ "', ignoring it"

/-- Read directives in turn; those that cannot be read are complained about. -/
def readDirectives (known : List LogDirective) :
    List (List Char) → List LogDirective × List String
  | [] => (known, [])
  | part :: rest =>
    match trim part with
    | [] => readDirectives known rest
    | chars =>
      match readDirective chars with
      | .ok directive => readDirectives (addDirective directive known) rest
      | .error found =>
        let (directives, complaints) := readDirectives known rest
        (directives, complaint found :: complaints)

/-- Read a pattern, or complain about it. -/
def readPattern (text : String) : Option Pattern × List String :=
  match Pattern.ofText text with
  | .ok pattern => (some pattern, [])
  | .error refusal =>
    (none, ["warning: invalid regex filter - " ++ refusal.message ++ ", ignoring it"])

/-- Read a specification. Without any directive only errors are shown. -/
def ofText (text : String) : LogFilter × List String :=
  let (first, others) := cut '/' text.toList
  let others := others.map (cut '/')
  match others with
  | some (_, some _) =>
    (⟨[⟨none, 1⟩], none⟩,
      ["warning: invalid logging spec '" ++ text ++ "' (too many '/'s), ignoring it"])
  | _ =>
    let (found, complaints) := readDirectives [] (splitOn ',' first)
    let (pattern, more) := match others with
      | some (chars, _) => readPattern (String.ofList chars)
      | none => (none, [])
    (⟨if found.isEmpty then [⟨none, 1⟩] else found, pattern⟩, complaints ++ more)

/-- The directive that decides about a source. -/
def decisive? (filter : LogFilter) (source : String) : Option LogDirective :=
  let matching := filter.directives.filter fun directive =>
    (directive.source.getD "").toList.isPrefixOf source.toList
  matching.foldl (fun best directive =>
    match best with
    | none => some directive
    | some other =>
      -- Of two sources of one length the later one decides.
      if (other.source.getD "").length ≤ (directive.source.getD "").length then some directive
      else some other) none

/-- Whether an entry is written. -/
def shows (filter : LogFilter) (entry : LogEntry) : Bool :=
  (match filter.decisive? entry.source with
    | some directive => entry.level.verbosity ≤ directive.verbosity
    | none => false) &&
  filter.pattern.all (·.occursIn entry.message)

/-- The filter that an environment asks for. -/
def ofEnvironment (environment : Environment) : LogFilter × List String :=
  ofText ((environment.get? "RUST_LOG").getD "info")

end LogFilter

end KeyedStore
