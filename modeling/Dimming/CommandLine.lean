import Dimming.Editor

/-!
# The command line

Reads the arguments, opens one file with the overlay on or off, and prints a line for each span: its
row and column, its style and its text in quotes. Wrong arguments end with code 2 and everything else
that fails with code 1.
-/

set_option autoImplicit false

namespace Dimming

namespace CommandLine

/-- What the arguments ask for. -/
structure Options where
  /-- The file to highlight. -/
  file : Option String
  /-- The configuration file, in place of the user's. -/
  config : Option String
  /-- The language, in place of the one that the file's extension tells. -/
  language : Option Language
  /-- Leave the overlay off. -/
  noOverlay : Bool
  /-- The highlight level, in place of the configured one. -/
  level : Option Nat
  /-- How much to tell about the run. -/
  verbose : Nat
  deriving DecidableEq, Repr

namespace Options

/-- No argument has been read. -/
def none : Options := ⟨.none, .none, .none, false, .none, 0⟩

end Options

/-- The outcome of reading one argument or all of them. -/
inductive Reading (α : Type) where
  /-- Reading goes on. -/
  | accepted (value : α)
  /-- The arguments ask for help. -/
  | help
  /-- The arguments ask for the version. -/
  | version
  /-- The arguments are wrong. -/
  | refused
  deriving DecidableEq, Repr

/-- The largest number of 64 bits. -/
def largestNumber : Nat := 18446744073709551615

/-- A number of at most 64 bits, perhaps behind a plus sign. -/
def number? (text : String) : Option Nat :=
  let digits := match text.toList with
    | '+' :: rest => rest
    | chars => chars
  if digits.isEmpty || !digits.all Char.isDigit then none
  else
    let value := digits.foldl (fun value c => 10 * value + (c.toNat - '0'.toNat)) 0
    if value ≤ largestNumber then some value else none

/-- An option that takes a value. -/
inductive Valued where
  | config
  | language
  | level
  deriving DecidableEq, Repr

/-- Sets an option; none can be set twice, and no path is empty. -/
def setValue (options : Options) (option : Valued) (value : String) : Reading Options :=
  match option with
  | .config =>
    if value.isEmpty || options.config.isSome then .refused
    else .accepted { options with config := some value }
  | .language =>
    match Language.ofName? value with
    | some language =>
      if options.language.isSome then .refused
      else .accepted { options with language := some language }
    | none => .refused
  | .level =>
    match number? value with
    | some level =>
      if options.level.isSome then .refused else .accepted { options with level := some level }
    | none => .refused

/-- Takes the file to highlight. -/
def setFile (options : Options) (value : String) : Reading Options :=
  if value.isEmpty || options.file.isSome then .refused
  else .accepted { options with file := some value }

/-- Switches the overlay off; this too can be said only once. -/
def setNoOverlay (options : Options) : Reading Options :=
  if options.noOverlay then .refused else .accepted { options with noOverlay := true }

/-- An argument starts like an option; a lone hyphen does not. -/
def looksLikeOption (argument : String) : Bool :=
  match argument.toList with
  | '-' :: _ :: _ => true
  | _ => false

/-- What has been read of an option, and whether the next argument is used up by it. -/
def Reading.usingNext (reading : Reading Options) (used : Bool) : Reading (Options × Bool) :=
  match reading with
  | .accepted options => .accepted (options, used)
  | .help => .help
  | .version => .version
  | .refused => .refused

/-- Sets an option to the next argument, which must not look like an option. -/
def takeNext (options : Options) (option : Valued) (next : Option String) :
    Reading (Options × Bool) :=
  match next with
  | none => .refused
  | some value =>
    if looksLikeOption value then .refused else (setValue options option value).usingNext true

/-- Sets an option to what follows its letter, or else to the next argument. -/
def takeRest (next : Option String) (options : Options) (option : Valued) :
    List Char → Reading (Options × Bool)
  | [] => takeNext options option next
  | '=' :: value => (setValue options option (String.ofList value)).usingNext false
  | value => (setValue options option (String.ofList value)).usingNext false

/-- Reads one-letter options that stand together behind one hyphen. What follows the letter of an
option with a value is that value. -/
def readLetters (next : Option String) : Options → List Char → Reading (Options × Bool)
  | options, [] => .accepted (options, false)
  | options, letter :: rest =>
    match letter with
    | 'c' => takeRest next options .config rest
    | 'L' => takeRest next options .language rest
    | 'l' => takeRest next options .level rest
    | 'v' => readLetters next { options with verbose := options.verbose + 1 } rest
    | 'h' => .help
    | 'V' => .version
    | _ => .refused

/-- Splits a long option at its first equals sign. -/
def splitValue (name : List Char) : String × Option String :=
  let before := name.takeWhile (· != '=')
  match name.dropWhile (· != '=') with
  | [] => (String.ofList before, none)
  | _ :: value => (String.ofList before, some (String.ofList value))

/-- Sets an option to what follows its equals sign, or else to the next argument. -/
def takeValue (next : Option String) (options : Options) (option : Valued) :
    Option String → Reading (Options × Bool)
  | none => takeNext options option next
  | some value => (setValue options option value).usingNext false

/-- Reads an option that is written out. -/
def readLong (next : Option String) (options : Options) (name : List Char) :
    Reading (Options × Bool) :=
  match splitValue name with
  | ("config", value) => takeValue next options .config value
  | ("language", value) => takeValue next options .language value
  | ("level", value) => takeValue next options .level value
  | ("no-overlay", none) => (setNoOverlay options).usingNext false
  | ("verbose", none) => .accepted ({ options with verbose := options.verbose + 1 }, false)
  | ("help", none) => .help
  | ("version", none) => .version
  | _ => .refused

/-- Reads arguments behind a double hyphen: each is a file. -/
def readFiles : Options → List String → Reading Options
  | options, [] => .accepted options
  | options, argument :: rest =>
    match setFile options argument with
    | .accepted options => readFiles options rest
    | other => other

/-- Reads one argument that looks like an option, with the one that follows it. -/
def readOption (options : Options) (argument : String) (next : Option String) :
    Reading (Options × Bool) :=
  match argument.toList with
  | '-' :: '-' :: name => readLong next options name
  | _ :: letters => readLetters next options letters
  | [] => .refused

/-- Reads arguments in order. -/
def readArguments : Options → List String → Reading Options
  | options, [] => .accepted options
  | options, [argument] =>
    if argument = "--" then .accepted options
    else if looksLikeOption argument then
      match readOption options argument none with
      | .accepted (options, _) => .accepted options
      | .help => .help
      | .version => .version
      | .refused => .refused
    else setFile options argument
  | options, argument :: next :: rest =>
    if argument = "--" then readFiles options (next :: rest)
    else if looksLikeOption argument then
      match readOption options argument (some next) with
      | .accepted (options, true) => readArguments options rest
      | .accepted (options, false) => readArguments options (next :: rest)
      | .help => .help
      | .version => .version
      | .refused => .refused
    else match setFile options argument with
      | .accepted options => readArguments options (next :: rest)
      | other => other

/-- Reads all arguments. -/
def read (arguments : List String) : Reading Options :=
  readArguments Options.none arguments

/-- The text that tells how to use the program. -/
def helpText : String :=
  "De-emphasis highlighting overlay for tree-sitter buffers\n\n"
    ++ "Usage: recede [OPTIONS] <FILE>\n\n"
    ++ "Arguments:\n"
    ++ "  <FILE>  File to highlight\n\n"
    ++ "Options:\n"
    ++ "  -c, --config <PATH>    Config file (defaults to the user config directory)\n"
    ++ "  -L, --language <NAME>  "
    ++ "Language override (rust, javascript, typescript, tsx, python, json)\n"
    ++ "      --no-overlay       Leave the overlay off\n"
    ++ "  -l, --level <LEVEL>    Highlight level (number of feature tiers enabled)\n"
    ++ "  -v, --verbose...       Verbose logging\n"
    ++ "  -h, --help             Print help\n"
    ++ "  -V, --version          Print version\n"

/-- The name and the version. -/
def versionText : String := "recede 0.1.0\n"

/-- How a run ends. -/
structure Result where
  /-- The exit code. -/
  code : Nat
  /-- What is printed. -/
  output : String
  /-- Why the run failed. -/
  failure : Option String
  deriving DecidableEq, Repr

/-- A run that fails. -/
def Result.failed (reason : String) : Result := ⟨1, "", some reason⟩

/-- The line of a span. -/
def spanLine (document : Document) (span : Span) : Except BufferError String :=
  match document.buffer.point span.start, document.textBetween span.start span.stop with
  | .ok point, .ok text =>
    .ok (toString (point.row + 1) ++ ":" ++ toString (point.column + 1) ++ "\t" ++ span.style.name
      ++ "\t" ++ Text.quoted text ++ "\n")
  | .error cause, _ => .error cause
  | _, .error cause => .error cause

/-- Prints the spans up to the first one that cannot be shown. -/
def printSpans (document : Document) : String → List Span → Result
  | output, [] => ⟨0, output, none⟩
  | output, span :: rest =>
    match spanLine document span with
    | .error cause => ⟨1, output, some cause.message⟩
    | .ok line => printSpans document (output ++ line) rest

/-- The settings that a run finds: those of the file that is asked for, or else the user's. -/
def loaded (options : Options) (disk : Disk) (home : String) : Except ConfigError Config :=
  match options.config with
  | some path => Config.loadFrom disk path
  | none => .ok (Config.load disk home)

/-- The settings of a run. The overlay is switched by the arguments alone. -/
def settings (options : Options) (disk : Disk) (home : String) : Except ConfigError Config :=
  (loaded options disk home).map fun config =>
    { config with level := options.level.getD config.level, enableByDefault := false }

/-- Opens the file of a run, as a plain text when the language is given. -/
def openFile [ParseEngine] (options : Options) (disk : Disk) (editor : Editor) (file : String) :
    Except String (DocumentId × Editor) :=
  let answer (outcome : Editor.Outcome DocumentId) : Except String (DocumentId × Editor) :=
    match outcome with
    | (.ok id, editor) => .ok (id, editor)
    | (.error cause, _) => .error cause.message
  match options.language with
  | none => answer (editor.openFile disk file)
  | some language =>
    match disk.read file with
    | .error cause => .error cause.message
    | .ok text => answer (editor.openText text (some language))

/-- Shows the spans of a document. -/
def present (editor : Editor) (id : DocumentId) (file : String) : Result :=
  match editor.document id with
  | .error cause => .failed cause.message
  | .ok document =>
    if document.language.isNone then .failed ("No grammar for " ++ file)
    else printSpans document "" document.spans

/-- Highlights a file. -/
def highlight [ParseEngine] (options : Options) (disk : Disk) (home file : String) : Result :=
  match settings options disk home with
  | .error cause => .failed cause.message
  | .ok config =>
    match Editor.ofConfig config compilePattern .initial with
    | .error cause => .failed cause.message
    | .ok editor =>
      match openFile options disk editor file with
      | .error reason => .failed reason
      | .ok (id, editor) =>
        if options.noOverlay then present editor id file
        else match editor.setOverlay id true with
          | (.error cause, _) => .failed cause.message
          | (.ok _, editor) => present editor id file

/-- Runs the program with some arguments; `home` is the directory of all configurations. -/
def run [ParseEngine] (arguments : List String) (disk : Disk) (home : String) : Result :=
  match read arguments with
  | .help => ⟨0, helpText, none⟩
  | .version => ⟨0, versionText, none⟩
  | .refused => ⟨2, "", none⟩
  | .accepted options =>
    match options.file with
    | none => ⟨2, "", none⟩
    | some file => highlight options disk home file

/-- The files that a run may read. -/
def wanted (arguments : List String) (home : String) : List String :=
  match read arguments with
  | .accepted options =>
    options.config.getD (Config.defaultPath home) :: options.file.toList
  | _ => []

end CommandLine

end Dimming
