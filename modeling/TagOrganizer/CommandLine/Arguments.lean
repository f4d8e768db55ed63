import TagOrganizer.Options

/-!
# Arguments of the command line

Arguments are switches and options with a value. Short switches can be written together, and a value
can be attached to its option or follow it. A switch or an option with a single value may be given
only once. What is wrong with the value of an option is found out when the next argument is used.
-/

namespace TagOrganizer

namespace CommandLine

/-- What a command line asks for. -/
structure Request where
  /-- The options file that is named. -/
  config : Option Path
  options : Options

/-- The request of an empty command line. -/
def Request.none : Request := ⟨Option.none, Options.none⟩

/-- The folders that may hold an options file, output folders first. -/
def Request.searchFolders (request : Request) : List Path :=
  request.options.outputFolders ++ request.options.inputFolders

/-- Why a command line does not lead to a run. -/
inductive Refusal where
  /-- There is no such argument. -/
  | unknownArgument
  /-- A value is missing or empty. -/
  | invalidValue
  /-- Something is given twice that may be given only once. -/
  | argumentConflict
  /-- A switch is given a value. -/
  | tooManyValues
  /-- Help is asked for. -/
  | help
  /-- The version is asked for. -/
  | version
  deriving DecidableEq

/-- What an argument does. -/
inductive Action where
  | switch (set : Options → Options)
  /-- Sets something to the value of the option. -/
  | single (set : Path → Request → Request)
  /-- Adds the value of the option to a list. -/
  | append (add : Path → Options → Options)
  | help
  | version

/-- An argument: its long name, its letter and what it does. -/
structure Argument where
  long : String
  letter : Option Char
  action : Action

/-- Whether an argument takes a value. -/
def Argument.takesValue (argument : Argument) : Bool :=
  match argument.action with
  | .single _ => true
  | .append _ => true
  | _ => false

/-- The arguments of the program. -/
def arguments : List Argument :=
  [ ⟨"config", some 'C', .single fun path request => { request with config := some path }⟩,
    ⟨"hidden", some 'H', .switch fun options => { options with hidden := true }⟩,
    ⟨"input", some 'i', .append fun path options =>
      { options with inputFolders := options.inputFolders ++ [path] }⟩,
    ⟨"ignore", some 'I', .append fun path options =>
      { options with ignoreFiles := options.ignoreFiles ++ [path] }⟩,
    ⟨"recursive", some 'R', .switch fun options => { options with recursive := true }⟩,
    ⟨"output", some 'o', .append fun path options =>
      { options with outputFolders := options.outputFolders ++ [path] }⟩,
    ⟨"organize", some 'O', .switch fun options => { options with organize := true }⟩,
    ⟨"groups", some 'g', .append fun path options =>
      { options with groupFiles := options.groupFiles ++ [path] }⟩,
    ⟨"schema", some 's', .append fun path options =>
      { options with ruleFiles := options.ruleFiles ++ [path] }⟩,
    ⟨"all-match-root", some 'A', .switch fun options => { options with allMatchRoot := true }⟩,
    ⟨"clean-in", none, .switch fun options => { options with cleanInput := true }⟩,
    ⟨"clean-out", none, .switch fun options => { options with cleanOutput := true }⟩,
    ⟨"clean", some 'c', .switch fun options => { options with clean := true }⟩,
    ⟨"fail-forced-rename", some 'F', .switch fun options =>
      { options with failForcedRename := true }⟩,
    ⟨"keep", some 'k', .switch fun options => { options with keep := true }⟩,
    ⟨"move-only", some 'm', .switch fun options => { options with moveOnly := true }⟩,
    ⟨"move-all", some 'M', .switch fun options => { options with moveAll := true }⟩,
    ⟨"rename-only", some 'n', .switch fun options => { options with renameOnly := true }⟩,
    ⟨"rename-manual", some 'N', .switch fun options => { options with renameManual := true }⟩,
    ⟨"trial", some 't', .switch fun options => { options with trial := true }⟩,
    ⟨"debug", none, .switch fun options => { options with debug := true }⟩,
    ⟨"log", some 'l', .single fun path request =>
      { request with options := { request.options with logFile := some path } }⟩,
    ⟨"overwrite-log", some 'L', .switch fun options => { options with overwriteLog := true }⟩,
    ⟨"posix", some 'P', .switch fun options => { options with posix := true }⟩,
    ⟨"quiet", some 'q', .switch fun options => { options with quiet := true }⟩,
    ⟨"verbose", some 'v', .switch fun options => { options with verbose := true }⟩,
    ⟨"force", none, .switch fun options => { options with force := true }⟩,
    ⟨"help", some 'h', .help⟩,
    ⟨"version", some 'V', .version⟩ ]

/-- What has been read of a command line. -/
structure Reading where
  request : Request
  /-- The long names of the arguments that may not be given again. -/
  given : List String
  /-- An option that has not been used yet, and its value if that has been read. -/
  pending : Option (Argument × Option String)

namespace Reading

/-- Nothing has been read. -/
def start : Reading := ⟨Request.none, [], none⟩

/-- Changes the options. -/
def setOptions (reading : Reading) (change : Options → Options) : Reading :=
  { reading with
    request := { reading.request with options := change reading.request.options } }

/-- Notes that an argument is given, which may be given only once. -/
def once (reading : Reading) (argument : Argument) : Except Refusal Reading :=
  if reading.given.contains argument.long then .error .argumentConflict
  else .ok { reading with given := argument.long :: reading.given }

/-- The path that the value of an option stands for. -/
def pathOf (value : String) : Except Refusal Path :=
  if value.isEmpty then .error .invalidValue else .ok ⟨value⟩

/-- Uses an argument with its value. -/
def act (reading : Reading) (argument : Argument) (value : Option String) :
    Except Refusal Reading := do
  match argument.action, value with
  | .switch set, _ =>
      let reading ← reading.once argument
      return reading.setOptions set
  | .single _, none => throw .invalidValue
  | .single set, some value =>
      let reading ← reading.once argument
      let path ← pathOf value
      return { reading with request := set path reading.request }
  | .append _, none => throw .invalidValue
  | .append add, some value =>
      let path ← pathOf value
      return reading.setOptions (add path)
  | .help, _ => throw .help
  | .version, _ => throw .version

/-- Uses the option that waits. -/
def settle (reading : Reading) : Except Refusal Reading :=
  match reading.pending with
  | none => .ok reading
  | some (argument, value) => act { reading with pending := none } argument value

/-- Uses an argument, after the option that waits. -/
def use (reading : Reading) (argument : Argument) (value : Option String) :
    Except Refusal Reading := do
  (← reading.settle).act argument value

/-- Takes up an option whose value may be attached or follow. -/
def takeUp (reading : Reading) (argument : Argument) (attached : Option String) :
    Except Refusal Reading := do
  match attached with
  | some value => reading.use argument (some value)
  | none =>
      let reading ← reading.settle
      return { reading with pending := some (argument, none) }

/-- Reads an argument that is written by its long name, without the dashes. -/
def readLong (reading : Reading) (written : List Char) : Except Refusal Reading :=
  let name := String.ofList (written.takeWhile (· != '='))
  let attached : Option String :=
    match written.dropWhile (· != '=') with
    | [] => none
    | _ :: value => some (String.ofList value)
  match arguments.find? fun argument => argument.long == name with
  | none => .error .unknownArgument
  | some argument =>
      if argument.takesValue then reading.takeUp argument attached
      else if attached.isSome then .error .tooManyValues
      else reading.use argument none

/-- Reads arguments that are written by their letters, without the dash. -/
def readLetters (reading : Reading) : List Char → Except Refusal Reading
  | [] => .ok reading
  | letter :: rest =>
      match arguments.find? fun argument => argument.letter == some letter with
      | none => .error .unknownArgument
      | some argument =>
          if argument.takesValue then
            match rest with
            | [] => reading.takeUp argument none
            | '=' :: value => reading.takeUp argument (some (String.ofList value))
            | value => reading.takeUp argument (some (String.ofList value))
          else do
            let reading ← reading.use argument none
            readLetters reading rest

/-- Reads an argument that does not begin with a dash: the value of the option that waits. -/
def readValue (reading : Reading) (value : String) : Except Refusal Reading :=
  match reading.pending with
  | some (argument, none) => .ok { reading with pending := some (argument, some value) }
  | _ => .error .unknownArgument

/-- Reads the arguments one after the other. Nothing may follow two dashes. -/
def readAll (reading : Reading) : List String → Except Refusal Reading
  | [] => reading.settle
  | argument :: rest =>
      match argument.toList with
      | ['-', '-'] => if rest.isEmpty then reading.settle else .error .unknownArgument
      | '-' :: '-' :: written => do readAll (← reading.readLong written) rest
      | '-' :: letter :: letters => do readAll (← reading.readLetters (letter :: letters)) rest
      | _ => do readAll (← reading.readValue argument) rest

end Reading

/-- What a command line asks for. -/
def parse (arguments : List String) : Except Refusal Request :=
  (Reading.start.readAll arguments).map Reading.request

end CommandLine

end TagOrganizer
