/-!
# Command-line arguments

Arguments are read from left to right, and the first thing that settles the outcome does: a question
for help or the version, or an argument that does not fit. An option's value follows it, or is attached
by an equals sign; a value that begins with a dash has to be attached. After two dashes everything is a
source. Only `--ignore` may be repeated.
-/

namespace KubeSchema

/-- What to make of a schema. -/
inductive Task
  /-- The manifest of its models. -/
  | compile (ignored : List String) (stockIgnores : Bool) (ext : String)
  /-- The table of its bound operations. -/
  | bindings
  deriving DecidableEq, Repr

/-- A complete command. -/
structure Command where
  task : Task
  source : String
  /-- The file that the result goes to, if not to standard output. -/
  output : Option String
  isPretty : Bool
  deriving DecidableEq, Repr

/-- Why arguments do not fit. -/
inductive UsageFault
  | noCommand
  | unknown (argument : String)
  | repeated (name : String)
  | missingValue (option : String)
  | emptyPath (option : String)
  | unexpectedValue (flag : String)
  | missingSource
  deriving DecidableEq, Repr

/-- What settles the outcome before all arguments are read. -/
inductive Stop
  | help
  | version
  | usage (fault : UsageFault)
  deriving DecidableEq, Repr

namespace Arguments

/-- The commands. -/
inductive Verb
  | compile | bindings
  deriving DecidableEq, Repr

/-- Arguments without a value. -/
inductive Flag
  | verbose | help | version | pretty | noDefaultIgnores
  deriving DecidableEq, Repr

/-- Arguments with a value. -/
inductive Setting
  | ignore | ext | output
  deriving DecidableEq, Repr

/-- The command of a name. -/
def verb? : String → Option Verb
  | "compile" => some .compile
  | "bindings" => some .bindings
  | _ => none

/-- The flag of a long name; without a command only some can be given. -/
def longFlag? (verb : Option Verb) (name : String) : Option Flag :=
  match name, verb with
  | "verbose", _ => some .verbose
  | "help", _ => some .help
  | "version", none => some .version
  | "pretty", some _ => some .pretty
  | "no-default-ignores", some .compile => some .noDefaultIgnores
  | _, _ => none

/-- The flag of a letter. -/
def shortFlag? (verb : Option Verb) (letter : Char) : Option Flag :=
  match letter, verb with
  | 'v', _ => some .verbose
  | 'h', _ => some .help
  | 'V', none => some .version
  | _, _ => none

/-- The setting of a long name. -/
def setting? (verb : Option Verb) (name : String) : Option Setting :=
  match name, verb with
  | "ignore", some .compile => some .ignore
  | "ext", some .compile => some .ext
  | "output", some _ => some .output
  | _, _ => none

/-- What has been given so far. -/
structure Given where
  flags : List Flag := []
  source : Option String := none
  ignored : List String := []
  ext : Option String := none
  output : Option String := none

/-- The form of an argument. -/
inductive Form
  /-- Two dashes alone: everything behind is a source. -/
  | separator
  /-- A name behind two dashes, with an attached value perhaps. -/
  | long (name : String) (value : Option String)
  /-- Letters behind one dash. -/
  | short (letters : List Char)
  | plain

/-- The form of an argument; a dash alone is plain. -/
def form (argument : String) : Form :=
  match argument.toList with
  | ['-', '-'] => .separator
  | '-' :: '-' :: rest =>
    let name := String.ofList (rest.takeWhile (· != '='))
    match rest.dropWhile (· != '=') with
    | [] => .long name none
    | _ :: value => .long name (some (String.ofList value))
  | '-' :: first :: rest => .short (first :: rest)
  | _ => .plain

/-- Sets a flag. -/
def setFlag (given : Given) (flag : Flag) (name : String) : Except Stop Given :=
  match flag with
  | .help => .error .help
  | .version => .error .version
  | flag =>
    if given.flags.contains flag then .error (.usage (.repeated name))
    else .ok { given with flags := flag :: given.flags }

/-- Gives a setting its value. -/
def setSetting (given : Given) (setting : Setting) (value : String) : Except Stop Given :=
  match setting with
  | .ignore => .ok { given with ignored := given.ignored ++ [value] }
  | .ext =>
    if given.ext.isSome then .error (.usage (.repeated "--ext"))
    else .ok { given with ext := some value }
  | .output =>
    if given.output.isSome then .error (.usage (.repeated "--output"))
    else if value.isEmpty then .error (.usage (.emptyPath "--output"))
    else .ok { given with output := some value }

/-- Gives the source. -/
def setSource (given : Given) (source : String) : Except Stop Given :=
  if given.source.isSome then .error (.usage (.unknown source))
  else .ok { given with source := some source }

/-- Sets the flags of some letters. -/
def setLetters (verb : Option Verb) (given : Given) (letters : List Char) : Except Stop Given :=
  letters.foldlM (fun given letter =>
    match shortFlag? verb letter with
    | some flag => setFlag given flag (String.ofList ['-', letter])
    | none => .error (.usage (.unknown (String.ofList ['-', letter])))) given

/-- Reads the arguments behind a command. -/
def readGiven (verb : Verb) (given : Given) : List String → Except Stop Given
  | [] => .ok given
  | argument :: rest =>
    match form argument with
    | .separator => rest.foldlM setSource given
    | .plain => do readGiven verb (← setSource given argument) rest
    | .short letters => do readGiven verb (← setLetters (some verb) given letters) rest
    | .long name value =>
      match longFlag? (some verb) name, setting? (some verb) name, value, rest with
      | some flag, _, none, rest => do readGiven verb (← setFlag given flag argument) rest
      | some _, _, some _, _ => .error (.usage (.unexpectedValue argument))
      | none, some setting, some value, rest => do
        readGiven verb (← setSetting given setting value) rest
      | none, some setting, none, value :: rest =>
        match form value with
        | .plain => do readGiven verb (← setSetting given setting value) rest
        | _ => .error (.usage (.missingValue argument))
      | none, some _, none, [] => .error (.usage (.missingValue argument))
      | none, none, _, _ => .error (.usage (.unknown argument))

/-- The command that has been given. -/
def Given.command (given : Given) (verb : Verb) : Except Stop Command :=
  match given.source with
  | none => .error (.usage .missingSource)
  | some source =>
    let task := match verb with
      | .compile =>
        .compile given.ignored (!given.flags.contains .noDefaultIgnores) (given.ext.getD "cs")
      | .bindings => .bindings
    .ok ⟨task, source, given.output, given.flags.contains .pretty⟩

/-- Whether the word asks for help on a command, or on asking for help. -/
def isTopic (word : String) : Bool :=
  (verb? word).isSome || word == "help"

/-- Reads the arguments up to the command and behind it. -/
def readFrom (given : Given) : List String → Except Stop Command
  | [] => .error (.usage .noCommand)
  | argument :: rest =>
    match form argument with
    | .separator => .error (.usage .noCommand)
    | .short letters => do readFrom (← setLetters none given letters) rest
    | .long name value =>
      match longFlag? none name, value with
      | some flag, none => do readFrom (← setFlag given flag argument) rest
      | some _, some _ => .error (.usage (.unexpectedValue argument))
      | none, _ => .error (.usage (.unknown argument))
    | .plain =>
      match verb? argument with
      | some verb => do (← readGiven verb {} rest).command verb
      | none =>
        if argument == "help" && rest.length ≤ 1 && rest.all isTopic then .error .help
        else .error (.usage (.unknown argument))

/-- The command that the arguments give. -/
def read (arguments : List String) : Except Stop Command :=
  readFrom {} arguments

end Arguments

end KubeSchema
