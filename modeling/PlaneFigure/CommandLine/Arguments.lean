/-!
# Arguments of the command line

The command line names one goal file and any options. An option with a value has it behind
an equals sign or as the next argument; the next argument must not look like an option
itself. Flags have no value. Only the option that hides a hypothesis may be repeated. After
two hyphens every argument is a file, and a single hyphen is one anywhere.
-/

namespace PlaneFigure.CommandLine

/-- Why a command line cannot be understood. -/
inductive UsageError where
  | unknownOption (argument : String)
  | missingValue (option : String)
  | unexpectedValue (option : String)
  | repeated (option : String)
  | noNumber (text : String)
  | missingGoal
  | surplusArgument (argument : String)

/-- The account of a command line that cannot be understood. How a command line is used is not
explained. -/
def UsageError.message : UsageError → String
  | unknownOption argument => "unknown option: " ++ argument
  | missingValue option => "missing value of option: " ++ option
  | unexpectedValue option => "option takes no value: " ++ option
  | repeated option => "repeated option: " ++ option
  | noNumber text => "no number of steps: " ++ text
  | missingGoal => "missing goal file"
  | surplusArgument argument => "surplus argument: " ++ argument

/-- The options of the command line. -/
structure Options where
  /-- The hypotheses to leave out. -/
  hidden : List String := []
  /-- Print the answer as JSON. -/
  json : Bool := false
  verbose : Bool := false
  settings : Option String := none
  maxOptSteps : Option UInt32 := none
  styleSheet : Option String := none
  domainSchema : Option String := none
  component : Option String := none

/-- A whole command line: the goal file and the options. -/
structure Arguments where
  goal : String
  options : Options

/-- The number that is written with a sign or without, in digits of ASCII. -/
def integer? (text : String) : Option Int :=
  match text.toList with
  | '-' :: digits => (natural? digits).map fun value => -(value : Int)
  | '+' :: digits => (natural? digits).map fun value => (value : Int)
  | digits => (natural? digits).map fun value => (value : Int)
where
  natural? (digits : List Char) : Option Nat :=
    if digits.isEmpty || !digits.all Char.isDigit then none
    else some (digits.foldl (fun value digit => value * 10 + (digit.toNat - '0'.toNat)) 0)

/-- The number of steps that a text names. -/
def steps (text : String) : Except UsageError UInt32 :=
  match integer? text with
  | none => .error (.noNumber text)
  | some value =>
    if 0 ≤ value ∧ value < UInt32.size then .ok (.ofNat value.toNat) else .error (.noNumber text)

/-- Give an option that has no value yet its value. -/
def once {α : Type} (name : String) (present : Option α) (value : α) :
    Except UsageError (Option α) :=
  match present with
  | none => .ok (some value)
  | some _ => .error (.repeated name)

namespace Options

/-- Set a flag, or nothing if there is no flag with the name. -/
def setFlag? (options : Options) (name : String) : Option (Except UsageError Options) :=
  match name with
  | "json" =>
    some (if options.json then .error (.repeated name) else .ok { options with json := true })
  | "verbose" =>
    some (if options.verbose then .error (.repeated name)
      else .ok { options with verbose := true })
  | _ => none

/-- Set an option to a value, or nothing if there is no option with the name. -/
def set? (options : Options) (name : String) : Option (String → Except UsageError Options) :=
  match name with
  | "hide" => some fun value => .ok { options with hidden := options.hidden ++ [value] }
  | "config" => some fun value =>
    (fun settings => { options with settings }) <$> once name options.settings value
  | "max-opt-steps" => some fun value => do
    let count ← steps value
    (fun maxOptSteps => { options with maxOptSteps }) <$> once name options.maxOptSteps count
  | "style" => some fun value =>
    (fun styleSheet => { options with styleSheet }) <$> once name options.styleSheet value
  | "domain" => some fun value =>
    (fun domainSchema => { options with domainSchema }) <$> once name options.domainSchema value
  | "component" => some fun value =>
    (fun component => { options with component }) <$> once name options.component value
  | _ => none

end Options

/-- The form of an argument. -/
inductive Form where
  /-- An option by its name, with what follows an equals sign. -/
  | option (name : String) (value : Option String)
  /-- An option by its letter. -/
  | letter (letters : List Char)
  /-- Two hyphens alone. -/
  | endOfOptions
  | file

/-- The form of an argument. -/
def formOf (argument : String) : Form :=
  match argument.toList with
  | ['-', '-'] => .endOfOptions
  | '-' :: '-' :: rest =>
    let name := rest.takeWhile (· != '=')
    .option (String.ofList name)
      (if name.length < rest.length then some (String.ofList (rest.drop (name.length + 1)))
        else none)
  | '-' :: letter :: rest => .letter (letter :: rest)
  | _ => .file

/-- Understand arguments, given the files and the options before them. -/
def understand (files : List String) (options : Options) :
    List String → Except UsageError (List String × Options)
  | [] => .ok (files, options)
  | argument :: rest =>
    match formOf argument with
    | .endOfOptions => .ok (files ++ rest, options)
    | .file => understand (files ++ [argument]) options rest
    | .letter ['v'] =>
      match options.setFlag? "verbose" with
      | some (.ok options) => understand files options rest
      | some (.error fault) => .error fault
      | none => .error (.unknownOption argument)
    | .letter _ => .error (.unknownOption argument)
    | .option name value =>
      match options.setFlag? name with
      | some flagged =>
        match value, flagged with
        | some _, _ => .error (.unexpectedValue name)
        | none, .error fault => .error fault
        | none, .ok options => understand files options rest
      | none =>
        match options.set? name with
        | none => .error (.unknownOption argument)
        | some set =>
          match value with
          | some value =>
            match set value with
            | .error fault => .error fault
            | .ok options => understand files options rest
          | none =>
            match rest with
            | [] => .error (.missingValue name)
            | value :: rest =>
              match formOf value with
              | .file =>
                match set value with
                | .error fault => .error fault
                | .ok options => understand files options rest
              | _ => .error (.missingValue name)

/-- Understand a command line. -/
def Arguments.ofList (arguments : List String) : Except UsageError Arguments :=
  match understand [] {} arguments with
  | .error fault => .error fault
  | .ok ([], _) => .error .missingGoal
  | .ok ([goal], options) => .ok ⟨goal, options⟩
  | .ok (_ :: surplus :: _, _) => .error (.surplusArgument surplus)

end PlaneFigure.CommandLine
