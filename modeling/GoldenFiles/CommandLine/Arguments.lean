import GoldenFiles.Config

/-!
# Command-line arguments

Arguments are read from the left. Options take a value, attached with an equals sign or as the next
argument; flags take none; everything else names a test, and so does everything behind a double
dash. A value that follows as an argument of its own is checked when the next option, flag or test
has been recognised, or at the end. The first problem ends the reading, and so do requests for help
and for the version.

## Main definitions

* `Setting` — the options that take a value
* `ArgumentStop` — what ends the reading without a configuration
* `Draft` — what has been read
* `parseArguments` — the configuration that arguments ask for
-/

namespace GoldenFiles.CommandLine

/-! ### Options and problems -/

/-- The options that take a value. -/
inductive Setting | root | extension | colour
  deriving DecidableEq, Repr

/-- The way an option is shown. -/
def Setting.usage : Setting → Text
  | .root => "--root <DIR>".toList
  | .extension => "--extension <EXT>".toList
  | .colour => "--color <COLOR>".toList

/-- The flags that take no value. -/
inductive Flag | create | help | version
  deriving DecidableEq, Repr

/-- The way a flag is shown. -/
def Flag.usage : Flag → Text
  | .create => "--create".toList
  | .help => "--help".toList
  | .version => "--version".toList

/-- What ends the reading of arguments without a configuration. -/
inductive ArgumentStop
  | unknown (argument : Text)
  | missingValue (setting : Setting)
  | invalidValue (setting : Setting) (value : Text)
  | unexpectedValue (flag : Flag) (value : Text)
  | repeated (usage : Text)
  /-- Help is asked for, in full or in short. -/
  | help (full : Bool)
  | version
  deriving DecidableEq, Repr

/-! ### Reading -/

/-- What has been read. -/
structure Draft where
  tests : List Text := []
  create : Bool := false
  root : Option Text := none
  extension : Option Text := none
  colour : Option ColourMode := none
  /-- An option whose value has not been checked, with the value if it has come. -/
  pending : Option (Setting × Option Text) := none
  deriving DecidableEq, Repr

/-- The colour modes by name. -/
def colourMode? (name : Text) : Option ColourMode :=
  if name = "auto".toList then some .auto
  else if name = "always".toList then some .always
  else if name = "never".toList then some .never
  else none

namespace Draft

/-- Whether an option has been given already. -/
def has (draft : Draft) : Setting → Bool
  | .root => draft.root.isSome
  | .extension => draft.extension.isSome
  | .colour => draft.colour.isSome

/-- Checks the value of an option and takes it. -/
def assign (draft : Draft) (setting : Setting) (value : Text) : Except ArgumentStop Draft :=
  if draft.has setting then
    .error (.repeated setting.usage)
  else
    match setting with
    | .root =>
      if value = [] then .error (.missingValue .root) else .ok { draft with root := some value }
    | .extension => .ok { draft with extension := some value }
    | .colour =>
      if value = [] then
        .error (.missingValue .colour)
      else
        match colourMode? value with
        | some mode => .ok { draft with colour := some mode }
        | none => .error (.invalidValue .colour value)

/-- Checks the value that has not been checked, if there is one. -/
def settle (draft : Draft) : Except ArgumentStop Draft :=
  match draft.pending with
  | none => .ok draft
  | some (setting, none) => .error (.missingValue setting)
  | some (setting, some value) => { draft with pending := none }.assign setting value

/-- Takes a flag. -/
def flag (draft : Draft) (flag : Flag) (full : Bool) : Except ArgumentStop Draft := do
  let draft ← draft.settle
  match flag with
  | .create =>
    if draft.create then .error (.repeated Flag.create.usage)
    else .ok { draft with create := true }
  | .help => .error (.help full)
  | .version => .error .version

/-- Takes an option with its value, if that is attached. -/
def setting (draft : Draft) (setting : Setting) (value : Option Text) :
    Except ArgumentStop Draft := do
  let draft ← draft.settle
  match value with
  | some value => draft.assign setting value
  | none => .ok { draft with pending := some (setting, none) }

/-- Takes the name of a test, or a value that has been waited for. -/
def word (draft : Draft) (text : Text) : Except ArgumentStop Draft :=
  match draft.pending with
  | some (setting, none) => .ok { draft with pending := some (setting, some text) }
  | _ => do
    let draft ← draft.settle
    return { draft with tests := draft.tests ++ [text] }

/-- Takes the names of tests behind a double dash. -/
def rest (draft : Draft) (texts : List Text) : Except ArgumentStop Draft := do
  let draft ← draft.settle
  return { draft with tests := draft.tests ++ texts }

end Draft

/-- An option or a flag. -/
inductive Switch
  | setting (setting : Setting)
  | flag (flag : Flag)

/-- The options and flags by name, without the dashes. -/
def switch? (name : Text) : Option Switch :=
  if name = "root".toList then some (.setting .root)
  else if name = "extension".toList then some (.setting .extension)
  else if name = "color".toList then some (.setting .colour)
  else if name = "create".toList then some (.flag .create)
  else if name = "help".toList then some (.flag .help)
  else if name = "version".toList then some (.flag .version)
  else none

/-- What follows the first equals sign, if there is one. -/
def attached? (text : Text) : Option Text :=
  match text.dropWhile (· ≠ '=') with
  | [] => none
  | _ :: value => some value

/-- An argument that begins with two dashes, given without them. -/
def longArgument (draft : Draft) (text : Text) : Except ArgumentStop Draft :=
  let name := text.takeWhile (· ≠ '=')
  match switch? name, attached? text with
  | some (.setting setting), value => draft.setting setting value
  | some (.flag flag), some value => .error (.unexpectedValue flag value)
  | some (.flag flag), none => draft.flag flag true
  | none, _ => .error (.unknown ("--".toList ++ name))

/-- An argument that begins with one dash and then the given character. -/
def shortArgument (draft : Draft) (letter : Char) : Except ArgumentStop Draft :=
  if letter = 'h' then draft.flag .help false
  else if letter = 'V' then draft.flag .version false
  else .error (.unknown ['-', letter])

/-- An argument that is no double dash. -/
def argument (draft : Draft) (text : Text) : Except ArgumentStop Draft :=
  match text with
  | '-' :: '-' :: name => longArgument draft name
  | '-' :: letter :: _ => shortArgument draft letter
  | _ => draft.word text

/-- Reads arguments after those already read. -/
def readArguments (draft : Draft) : List Text → Except ArgumentStop Draft
  | [] => draft.settle
  | text :: others =>
    if text = "--".toList then
      draft.rest others
    else
      match argument draft text with
      | .error stop => .error stop
      | .ok next => readArguments next others

/-- The configuration that has been read, with the defaults for what has not been given. -/
def Draft.config (draft : Draft) : Config :=
  let defaults : Config := {}
  { root := (draft.root.map Path.ofText).getD defaults.root
    extension := draft.extension.getD defaults.extension
    mode := if draft.create then .create else .verify
    selection := draft.tests
    colour := draft.colour.getD .auto }

/-- The configuration that arguments ask for. -/
def parseArguments (arguments : List Text) : Except ArgumentStop Config :=
  (readArguments {} arguments).map Draft.config

end GoldenFiles.CommandLine
