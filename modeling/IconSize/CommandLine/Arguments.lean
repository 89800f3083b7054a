import IconSize.Batch.Run
import IconSize.Json.Options

/-!
The arguments of the command line. An argument with two dashes names an option, one with a single
dash names options by their letters, and everything else is a path. After two dashes alone all
arguments are paths. The arguments are read from left to right; the first one that is wrong, or that
asks for help or for the version, ends the reading.
-/

namespace IconSize.CommandLine
open Files

/-- An option that is either given or not. -/
inductive Switch where
  | dryRun
  | print
  | json
  | keepModule
  | noTrailingComma
  | verbose
deriving DecidableEq, Repr, Inhabited

/-- An option that has a value. -/
inductive Setting where
  | extensions
  | ignorePattern
  | targetModule
  | newModule
  | defaultSize
  | quote
deriving DecidableEq, Repr, Inhabited

inductive Meaning where
  | switch (switch : Switch)
  | setting (setting : Setting)
  | help
  | version
deriving DecidableEq, Repr, Inhabited

def Meaning.ofName? : String → Option Meaning
  | "dry-run" => some (.switch .dryRun)
  | "print" => some (.switch .print)
  | "json" => some (.switch .json)
  | "extensions" => some (.setting .extensions)
  | "ignore-pattern" => some (.setting .ignorePattern)
  | "target-module" => some (.setting .targetModule)
  | "rewrite-module-to" => some (.setting .newModule)
  | "no-rewrite-source" => some (.switch .keepModule)
  | "default-size" => some (.setting .defaultSize)
  | "quote" => some (.setting .quote)
  | "no-trailing-comma" => some (.switch .noTrailingComma)
  | "verbose" => some (.switch .verbose)
  | "help" => some .help
  | "version" => some .version
  | _ => none

/-- The option with a letter. Only options without a value have letters. -/
def Meaning.ofLetter? : Char → Option Meaning
  | 'd' => some (.switch .dryRun)
  | 'p' => some (.switch .print)
  | 'v' => some (.switch .verbose)
  | 'h' => some .help
  | 'V' => some .version
  | _ => none

/-- What is wrong with a command line. -/
inductive UsageFault where
  | unknown (argument : String)
  /-- An option that may be given once is given again. -/
  | repeated (argument : String)
  | missingValue (argument : String)
  /-- An option that has no value is given one. -/
  | needlessValue (argument : String)
  | invalidValue (argument : String) (value : String)
  | missingPaths
deriving DecidableEq, Repr, Inhabited

def UsageFault.message : UsageFault → String
  | unknown argument => "unexpected argument '" ++ argument ++ "' found"
  | repeated argument => "the argument '" ++ argument ++ "' cannot be used multiple times"
  | missingValue argument => "a value is required for '" ++ argument ++ "' but none was supplied"
  | needlessValue argument => "a value was given to '" ++ argument ++ "', which takes none"
  | invalidValue argument value => "invalid value '" ++ value ++ "' for '" ++ argument ++ "'"
  | missingPaths => "the following required arguments were not provided: <PATHS>..."

structure Arguments where
  paths : List Path
  switches : List Switch
  /-- Every list of extensions that was given, one after the other. -/
  extensions : List String
  ignorePatterns : List String
  targetModule : Option String
  newModule : Option String
  defaultSize : Option UInt32
  quote : Option QuoteStyle
deriving DecidableEq, Repr, Inhabited

namespace Arguments

def none : Arguments := ⟨[], [], [], [], .none, .none, .none, .none⟩

def addPath (arguments : Arguments) (spelling : String) : Except UsageFault Arguments :=
  if spelling.isEmpty then .error (.missingValue "<PATHS>...")
  else .ok { arguments with paths := arguments.paths ++ [⟨spelling⟩] }

/-- Turn a switch on, which can be done once. -/
def turnOn (arguments : Arguments) (argument : String) (switch : Switch) :
    Except UsageFault Arguments :=
  if arguments.switches.contains switch then .error (.repeated argument)
  else .ok { arguments with switches := arguments.switches ++ [switch] }

/-- A size in decimal digits, after a sign if there is one. -/
def size? (value : String) : Option UInt32 :=
  let unsigned (digits : List Char) : Option Nat :=
    if digits.isEmpty || !digits.all Char.isDigit then .none
    else some (digits.foldl (fun number digit => 10 * number + (digit.toNat - '0'.toNat)) 0)
  let number := match value.toList with
    | '+' :: digits => unsigned digits
    | '-' :: digits => (unsigned digits).filter (· == 0)
    | digits => unsigned digits
  number.bind fun number => if number < UInt32.size then some (UInt32.ofNat number) else .none

/-- Give a value to a setting that can be given once. -/
def setOnce (argument value : String) (earlier : Option α) (read : String → Option α) :
    Except UsageFault (Option α) :=
  match earlier, read value with
  | some _, _ => .error (.repeated argument)
  | .none, .none => .error (.invalidValue argument value)
  | .none, found => .ok found

/-- Give a value to a setting. -/
def set (arguments : Arguments) (argument : String) (setting : Setting) (value : String) :
    Except UsageFault Arguments :=
  match setting with
  | .extensions =>
    .ok { arguments with extensions := arguments.extensions ++ value.splitOn "," }
  | .ignorePattern =>
    .ok { arguments with ignorePatterns := arguments.ignorePatterns ++ [value] }
  | .targetModule => do
    let module ← setOnce argument value arguments.targetModule some
    pure { arguments with targetModule := module }
  | .newModule => do
    let module ← setOnce argument value arguments.newModule some
    pure { arguments with newModule := module }
  | .defaultSize => do
    let size ← setOnce argument value arguments.defaultSize size?
    pure { arguments with defaultSize := size }
  | .quote => do
    let quote ← setOnce argument value arguments.quote QuoteStyle.ofName?
    pure { arguments with quote := quote }

def isOn (arguments : Arguments) (switch : Switch) : Bool := arguments.switches.contains switch

/-- The options of the transform that the arguments ask for. -/
def options (arguments : Arguments) : Options :=
  let standard := Options.standard
  { targetModule := arguments.targetModule.getD standard.targetModule
    newModule :=
      if arguments.isOn .keepModule then .none
      else arguments.newModule.or standard.newModule
    defaultSize := arguments.defaultSize.getD standard.defaultSize
    collisionSuffix := standard.collisionSuffix
    printOptions := {
      quote := arguments.quote.getD standard.printOptions.quote
      trailingComma := !arguments.isOn .noTrailingComma } }

/-- The configuration that the arguments ask for. What is given for a list takes the place of its
standard value. -/
def config (arguments : Arguments) : BatchConfig :=
  let given (values standard : List String) := if values.isEmpty then standard else values
  { selection := {
      extensions := given arguments.extensions Selection.standard.extensions
      ignorePatterns := given arguments.ignorePatterns Selection.standard.ignorePatterns }
    dryRun := arguments.isOn .dryRun
    options := arguments.options }

end Arguments

/-- What a command line asks for. -/
inductive Request where
  | transform (arguments : Arguments)
  | showHelp
  | showVersion
deriving DecidableEq, Repr, Inhabited

/-- Does an argument begin as an option does? A dash alone is a path. -/
def looksLikeOption (argument : String) : Bool :=
  match argument.toList with
  | '-' :: _ :: _ => true
  | _ => false

/-- Read the arguments that follow two dashes. -/
def readPaths (arguments : Arguments) : List String → Except UsageFault Request
  | [] => if arguments.paths.isEmpty then .error .missingPaths else .ok (.transform arguments)
  | spelling :: rest =>
    match arguments.addPath spelling with
    | .error fault => .error fault
    | .ok arguments => readPaths arguments rest

/-- Read the letters of one argument. They end the reading with an answer or give more arguments. -/
def readLetters (arguments : Arguments) : List Char → Except UsageFault (Request ⊕ Arguments)
  | [] => .ok (.inr arguments)
  | letter :: rest =>
    let argument := String.ofList ['-', letter]
    match Meaning.ofLetter? letter with
    | some (.switch switch) =>
      match arguments.turnOn argument switch with
      | .error fault => .error fault
      | .ok arguments => readLetters arguments rest
    | some .help => .ok (.inl .showHelp)
    | some .version => .ok (.inl .showVersion)
    | some (.setting _) | none => .error (.unknown argument)

/-- Divide an option at its equals sign into the name and the value. -/
def divideOption (option : List Char) : String × Option String :=
  match option.span (· != '=') with
  | (name, []) => (String.ofList name, none)
  | (name, _ :: value) => (String.ofList name, some (String.ofList value))

def read (arguments : Arguments) : List String → Except UsageFault Request
  | [] => readPaths arguments []
  | argument :: rest =>
    match argument.toList with
    | ['-', '-'] => readPaths arguments rest
    | '-' :: '-' :: option =>
      let (name, value) := divideOption option
      match Meaning.ofName? name, value with
      | none, _ => .error (.unknown argument)
      | some (.setting setting), some value =>
        match arguments.set ("--" ++ name) setting value with
        | .error fault => .error fault
        | .ok arguments => read arguments rest
      | some (.setting setting), none =>
        match rest with
        | [] => .error (.missingValue argument)
        | value :: rest =>
          if looksLikeOption value then .error (.missingValue argument)
          else
            match arguments.set argument setting value with
            | .error fault => .error fault
            | .ok arguments => read arguments rest
      | some _, some _ => .error (.needlessValue argument)
      | some (.switch switch), none =>
        match arguments.turnOn argument switch with
        | .error fault => .error fault
        | .ok arguments => read arguments rest
      | some .help, none => .ok .showHelp
      | some .version, none => .ok .showVersion
    | '-' :: letter :: letters =>
      match readLetters arguments (letter :: letters) with
      | .error fault => .error fault
      | .ok (.inl request) => .ok request
      | .ok (.inr arguments) => read arguments rest
    | _ =>
      match arguments.addPath argument with
      | .error fault => .error fault
      | .ok arguments => read arguments rest

def Request.ofArguments (arguments : List String) : Except UsageFault Request :=
  read .none arguments

end IconSize.CommandLine
