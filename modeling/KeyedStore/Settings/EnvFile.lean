import KeyedStore.Settings.Basic
import KeyedStore.Text.Alphanumeric
import KeyedStore.Text.Basic

/-!
# Files of variables

A file of lines `NAME=value`. The word `export` may stand before the name and blanks around the
equals sign. Values may be quoted; a dollar sign asks for the value of another variable, from the
environment or else from an earlier line. What follows a number sign after a blank is a comment.

A variable that is set already keeps its value. The first line that is malformed ends the file.

## References

- SPEC_FULL.md, section 10.8, Configuration: the files that `load_env_file` reads
-/

namespace KeyedStore.EnvFile

open Text

/-- What a value is inside of while it is read. -/
inductive Span where
  /-- Nothing, or quotes. -/
  | plain
  /-- Behind a backslash. -/
  | escaped
  /-- The name of a variable behind a dollar sign. -/
  | name
  /-- The name of a variable between braces. -/
  | bracedName
  /-- The end of the value; only blanks and a comment may follow. -/
  | ended
deriving DecidableEq

/-- How far a value has been read. -/
structure Progress where
  /-- The quote that the value is inside of. -/
  quote : Option Char
  /-- What else the value is inside of. -/
  span : Span
  /-- The name of the variable that is asked for, as far as it has been read. -/
  asked : List Char
  /-- The value so far. -/
  value : List Char

/-- The beginning of a value. -/
def Progress.start : Progress :=
  ⟨none, .plain, [], []⟩

namespace Progress

/-- One more character of the value. -/
def push (progress : Progress) (c : Char) : Progress :=
  { progress with value := progress.value ++ [c] }

/-- The value with the variable that is asked for. -/
def substitute (lookUp : String → String) (progress : Progress) : Progress :=
  { progress with
    value := progress.value ++ (lookUp (String.ofList progress.asked)).toList, asked := [],
    span := .plain }

/-- Read a character behind a backslash. -/
def escape? (progress : Progress) (c : Char) : Option Progress :=
  let progress := { progress with span := .plain }
  if c = '\\' ∨ c = '\'' ∨ c = '"' ∨ c = '$' ∨ c = ' ' then some (progress.push c)
  else if c = 'n' then some (progress.push '\n')
  else none

/-- Read a character of the name of a variable, or the one behind it. A name without braces consists
of the letters and numerals of any script. -/
def nameStep (lookUp : String → String) (progress : Progress) (c : Char) : Progress :=
  if isAlphanumeric c then { progress with asked := progress.asked ++ [c] }
  else if c = '\x7b' ∧ progress.asked = [] then { progress with span := .bracedName }
  else
    let progress := progress.substitute lookUp
    -- The character that ends the name belongs to the value, unless it asks again.
    if c = '$' then { progress with span := .name } else progress.push c

/-- Read a character of the name of a variable between braces. -/
def bracedStep (lookUp : String → String) (progress : Progress) (c : Char) : Progress :=
  if c = '\x7d' then progress.substitute lookUp
  else { progress with asked := progress.asked ++ [c] }

/-- Read a character outside of names and escapes. -/
def plainStep (progress : Progress) (c : Char) : Progress :=
  if progress.quote = some '\'' then
    if c = '\'' then { progress with quote := none } else progress.push c
  else if c = '$' then { progress with span := .name }
  else if c = '\\' then { progress with span := .escaped }
  else if progress.quote = some '"' then
    if c = '"' then { progress with quote := none } else progress.push c
  else if c = '\'' ∨ c = '"' then { progress with quote := some c }
  else if c = ' ' ∨ c = '\t' then { progress with span := .ended }
  else progress.push c

end Progress

/-- Read the rest of a value. -/
def readValue (lookUp : String → String) (progress : Progress) : List Char → Option (List Char)
  | [] =>
    -- A plain name may be open at the end of the line; a brace or a quote may not.
    if progress.span = .bracedName ∨ progress.quote.isSome then none
    else some (progress.substitute lookUp).value
  | c :: rest =>
    match progress.span with
    | .ended =>
      if c = ' ' ∨ c = '\t' then readValue lookUp progress rest
      else if c = '#' then readValue lookUp progress []
      else none
    | .escaped =>
      match progress.escape? c with
      | some progress => readValue lookUp progress rest
      | none => none
    | .name => readValue lookUp (progress.nameStep lookUp c) rest
    | .bracedName => readValue lookUp (progress.bracedStep lookUp c) rest
    | .plain => readValue lookUp (progress.plainStep c) rest

/-- Whether a character can begin the name of a variable. -/
def startsName (c : Char) : Bool :=
  c.isAlpha || c = '_'

/-- Whether a character can stand in the name of a variable. -/
def inName (c : Char) : Bool :=
  c.isAlphanum || c = '_' || c = '.'

/-- Read the name of a variable. -/
def readName (chars : List Char) : Option (List Char × List Char) :=
  match chars with
  | c :: _ => if startsName c then some (chars.takeWhile inName, chars.dropWhile inName) else none
  | [] => none

/-- Read an equals sign with blanks before it. -/
def readEquals (chars : List Char) : Option (List Char) :=
  match trimStart chars with
  | '=' :: rest => some rest
  | _ => none

/-- Read the name of a variable, with the word before it if there is one, and the equals sign. -/
def readHead (chars : List Char) : Option (List Char × List Char) := do
  let (name, rest) ← readName chars
  match readEquals rest with
  | some rest => return (name, rest)
  | none =>
    -- The word before the name is itself a name when an equals sign follows it.
    if name ≠ "export".toList then none
    let (name, rest) ← readName (trimStart rest)
    return (name, ← readEquals rest)

/-- What a line says. -/
inductive Line where
  /-- Nothing. -/
  | blank
  /-- The value of a variable. -/
  | assignment (name value : String)

/-- Whether a text is empty or a comment. -/
def saysNothing (chars : List Char) : Bool :=
  chars.head? = none ∨ chars.head? = some '#'

/-- Read a line. -/
def readLine (lookUp : String → String) (line : List Char) : Option Line :=
  let content := trimStart (trimEnd line)
  if saysNothing content then some .blank
  else do
    let (name, rest) ← readHead content
    let rest := trimStart rest
    let value ← if saysNothing rest then some [] else readValue lookUp .start rest
    return .assignment (String.ofList name) (String.ofList value)

/-- Read lines in turn. `earlier` holds the values of the lines before. -/
def loadLines (environment earlier : Environment) : List (List Char) → Environment
  | [] => environment
  | line :: rest =>
    -- The environment comes before the lines of the file.
    let lookUp name := ((environment.get? name).or (earlier.get? name)).getD ""
    match readLine lookUp line with
    | none => environment
    | some .blank => loadLines environment earlier rest
    | some (.assignment name value) =>
      let environment := match environment.get? name with
        | some _ => environment
        | none => environment.insert name value
      loadLines environment (earlier.insert name value) rest

/-- The environment after reading a file. -/
def load (environment : Environment) (text : String) : Environment :=
  loadLines environment .empty (splitOn '\n' text.toList)

/-- The name of the file that an environment asks for. -/
def nameFor (environment : Environment) : String :=
  match (environment.get? "PROFILE").getD "dev" with
  | "prod" => ".env.prod"
  | "dev" => ".env.dev"
  | _ => ".env"

/-- The text of the nearest file of a name: in a folder, or in the closest folder above it that has
one. The folder is given by its path, innermost name first. -/
def nearest? (files : List (String × String)) (name : String) : List String → Option String
  | [] => Pairs.get? name files
  | inner :: above =>
    let path := String.intercalate "/" ((inner :: above).reverse ++ [name])
    (Pairs.get? path files).or (nearest? files name above)

end KeyedStore.EnvFile
