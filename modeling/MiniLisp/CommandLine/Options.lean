import MiniLisp.Text.Numeral
import MiniLisp.Text.Quoted

/-!
# Command line options

```text
cella [-h] [-i] [--log-level LOG_LEVEL] [files ...]
```

Each argument is sorted first (`Item.ofArguments`), before any of them has an effect: `--` and all
after it are plain, as are the empty text, a lone dash and negative numbers; an argument that starts
with a dash is an option, under its full name, a name cut short that fits one option only, or a
letter. What a `=` attaches to a long name is the option's value. What is attached to a letter, with
or without a `=`, are more letters, each an option of its own.

Then the items are taken in order (`Parse.run`). The first run of plain arguments is the list of
files; plain arguments in any later place and options of unknown names are left over and refused at
the end. `-h` and faulty options end it at once.
-/

namespace MiniLisp.CommandLine

/-- The options. -/
inductive Flag
  | help
  | interactive
  | logLevel
deriving DecidableEq, Repr

namespace Flag

/-- The names of the options, in the order in which they are tried. -/
def names : List (String × Flag) :=
  [("-h", help), ("--help", help), ("-i", interactive), ("--interactive", interactive),
    ("--log-level", logLevel)]

/-- The option takes a value. -/
def takesValue : Flag → Bool
  | logLevel => true
  | _ => false

/-- The option as messages name it. -/
def title : Flag → String
  | help => "-h/--help"
  | interactive => "-i/--interactive"
  | logLevel => "--log-level"

end Flag

/-- Why a command line is refused. -/
inductive UsageError
  | ambiguous (argument : String) (candidates : List String)
  | valueMissing (flag : Flag)
  | valueIgnored (flag : Flag) (value : String)
  | unrecognized (arguments : List String)
deriving DecidableEq

/-- The wording of a refusal. -/
def UsageError.message : UsageError → String
  | ambiguous argument candidates =>
    "ambiguous option: " ++ argument ++ " could match " ++ ", ".intercalate candidates
  | valueMissing flag => "argument " ++ flag.title ++ ": expected one argument"
  | valueIgnored flag value =>
    "argument " ++ flag.title ++ ": ignored explicit argument " ++ Text.quoted value
  | unrecognized arguments => "unrecognized arguments: " ++ " ".intercalate arguments

/-- What is attached to an option in one argument. -/
inductive Attachment
  /-- Nothing is attached. -/
  | nothing
  /-- A value, which may be empty, follows a `=`. -/
  | value (text : String)
  /-- Further letters follow the letter of the option. -/
  | letters (first : Char) (more : List Char)
deriving DecidableEq

/-- An argument after sorting. -/
inductive Item
  | plain (argument : String)
  | separator
  | option (flag : Flag) (attachment : Attachment)
  | unknown (argument : String)
deriving DecidableEq

namespace Item

/-- The argument is a negative number: a dash and digits, of which some but not all may stand
before a point. A newline may end it. -/
def isNegativeNumber (argument : String) : Bool :=
  match argument.toList with
  | '-' :: cs =>
    let body := if cs.getLast? == some '\n' then cs.dropLast else cs
    let isDigit c := (Text.digitValue? c).isSome
    let whole := body.takeWhile isDigit
    match body.dropWhile isDigit with
    | [] => !whole.isEmpty
    | '.' :: fraction => !fraction.isEmpty && fraction.all isDigit
    | _ => false
  | _ => false

/-- The name before the first `=` and the value after it. -/
def splitValue (argument : String) : String × Option String :=
  let cs := argument.toList
  match cs.dropWhile (· != '=') with
  | [] => (argument, none)
  | _ :: value => (String.ofList (cs.takeWhile (· != '=')), some (String.ofList value))

/-- The attachment of a value that may follow a `=`. -/
def valueAttachment : Option String → Attachment
  | none => .nothing
  | some value => .value value

/-- The attachment of a text that follows a letter. An empty text, which only a `=` can lead to, is
a value. -/
def letterAttachment : List Char → Attachment
  | [] => .value ""
  | first :: more => .letters first more

/-- The options whose name starts with the given text. -/
def candidates (start : String) : List (String × Flag) :=
  Flag.names.filter fun (name, _) => start.toList.isPrefixOf name.toList

/-- Sorts an argument that starts with a dash and names no option. -/
def unmatched (argument : String) : Item :=
  if isNegativeNumber argument || argument.toList.contains ' ' then .plain argument
  else .unknown argument

/-- Sorts an argument that stands before any separator. -/
def ofArgument (argument : String) : Except UsageError Item :=
  match argument.toList with
  | [] => .ok (.plain argument)
  | first :: rest =>
    if first != '-' then .ok (.plain argument)
    else match Flag.names.lookup argument with
      | some flag => .ok (.option flag .nothing)
      | none =>
        let (name, value) := splitValue argument
        match value, Flag.names.lookup name, rest with
        | _, _, [] => .ok (.plain argument)
        | some value, some flag, '-' :: _ => .ok (.option flag (.value value))
        | some value, some flag, _ => .ok (.option flag (letterAttachment value.toList))
        | _, _, '-' :: _ =>
          match candidates name with
          | [(_, flag)] => .ok (.option flag (valueAttachment value))
          | [] => .ok (unmatched argument)
          | several => .error (.ambiguous argument (several.map (·.1)))
        | _, _, letter :: more =>
          match Flag.names.lookup (String.ofList ['-', letter]) with
          | some flag => .ok (.option flag (letterAttachment more))
          | none => .ok (unmatched argument)

/-- Sorts all arguments. After a separator everything is plain. -/
def ofArguments : List String → Except UsageError (List Item)
  | [] => .ok []
  | argument :: rest =>
    if argument == "--" then .ok (.separator :: rest.map .plain)
    else do
      let item ← ofArgument argument
      let items ← ofArguments rest
      return item :: items

end Item

/-- Which level of diagnostics a command line asks for. -/
inductive LevelChoice
  /-- None, so the settings decide. -/
  | unset
  /-- The level of this name. -/
  | named (level : String)
  /-- A separator is attached in the place of a level. It is dropped, which leaves no level. -/
  | dropped
deriving DecidableEq, Inhabited

/-- The level that a value of the option stands for. -/
def LevelChoice.ofValue (value : String) : LevelChoice :=
  if value == "--" then .dropped else .named value

/-- What a command line asks for. -/
structure Options where
  files : List String
  interactive : Bool
  logLevel : LevelChoice
deriving DecidableEq, Inhabited

/-- What became of a command line. -/
inductive Request
  | run (options : Options)
  | help
  | refused (error : UsageError)
deriving DecidableEq

/-- Whether the run of plain arguments that lists the files is still to come, is being taken, or is
over. -/
inductive FileRun
  | before
  | during
  | over
deriving DecidableEq

/-- The command line as far as it was taken: the options, the run of files, and the arguments that
are left over. -/
structure Parse where
  options : Options
  fileRun : FileRun
  leftOver : List String

namespace Parse

/-- Nothing was taken yet. -/
def initial : Parse := ⟨⟨[], false, .unset⟩, .before, []⟩

/-- Takes a plain argument: a file, or left over once the run of files is over. -/
def takePlain (p : Parse) (argument : String) : Parse :=
  if p.fileRun = .over then { p with leftOver := p.leftOver ++ [argument] }
  else { p with
    options := { p.options with files := p.options.files ++ [argument] }
    fileRun := .during }

/-- Takes the separator, which belongs to the run of files but is none. -/
def takeSeparator (p : Parse) : Parse :=
  if p.fileRun = .over then { p with leftOver := p.leftOver ++ ["--"] }
  else { p with fileRun := .during }

/-- Any argument that is not plain ends the run of files, if it has begun. -/
def endFileRun (p : Parse) : Parse :=
  if p.fileRun = .during then { p with fileRun := .over } else p

/-- Notes arguments that are left over. -/
def leave (p : Parse) (arguments : List String) : Parse :=
  { p with leftOver := p.leftOver ++ arguments }

/-- The options of a group of letters, given the first option and the letters after it. The options
of one letter take no value, so each letter has to be an option of its own. A letter that is none is
refused as a value of the option before it, together with all that follow. -/
def letterGroup (flag : Flag) : List Char → Except UsageError (List Flag)
  | [] => .ok [flag]
  | letter :: more =>
    match Flag.names.lookup (String.ofList ['-', letter]) with
    | none => .error (.valueIgnored flag (String.ofList (letter :: more)))
    | some next => do
      let flags ← letterGroup next more
      return flag :: flags

/-- Takes an option with its value. The result is `none` if it asks for help. -/
def takeFlag (p : Parse) (flag : Flag) (value : Option String) : Option Parse :=
  match flag with
  | .help => none
  | .interactive => some { p with options := { p.options with interactive := true } }
  | .logLevel =>
    let level := (value.map LevelChoice.ofValue).getD .unset
    some { p with options := { p.options with logLevel := level } }

/-- Takes options without values, in order. -/
def takeFlags (p : Parse) (flags : List Flag) : Option Parse :=
  flags.foldlM (fun p flag => takeFlag p flag none) p

/-- Takes the items in order. -/
def run (p : Parse) : List Item → Request
  | [] => if p.leftOver.isEmpty then .run p.options else .refused (.unrecognized p.leftOver)
  | .plain argument :: rest => run (p.takePlain argument) rest
  | .separator :: rest => run p.takeSeparator rest
  | .unknown argument :: rest => run (p.endFileRun.leave [argument]) rest
  | .option flag .nothing :: rest =>
    if flag.takesValue then
      match rest with
      | .plain value :: rest =>
        match p.endFileRun.takeFlag flag (some value) with
        | some p => run p rest
        | none => .help
      | _ => .refused (.valueMissing flag)
    else match p.endFileRun.takeFlag flag none with
      | some p => run p rest
      | none => .help
  | .option flag (.value value) :: rest =>
    if flag.takesValue then
      match p.endFileRun.takeFlag flag (some value) with
      | some p => run p rest
      | none => .help
    else .refused (.valueIgnored flag value)
  | .option flag (.letters first more) :: rest =>
    match letterGroup flag (first :: more) with
    | .error e => .refused e
    | .ok flags =>
      match p.endFileRun.takeFlags flags with
      | some p => run p rest
      | none => .help

end Parse

/-- What the arguments of a command line ask for. -/
def request (arguments : List String) : Request :=
  match Item.ofArguments arguments with
  | .error e => .refused e
  | .ok items => Parse.initial.run items

end MiniLisp.CommandLine
