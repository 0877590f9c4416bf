/-!
# Options on a command line

The words after a command, sorted into options. An option is spelled `--name value` or
`--name=value`, and in short `-n value`, `-nvalue` or `-n=value`. A value that stands alone must not
look like an option. Words that are neither options nor values are refused. A word may ask for help
instead; help is given if what stands before that word is in order.
-/

namespace TableScan.CommandLine

structure OptionForm where
  name : String
  /-- The letter that is the option in short. -/
  letter : Option Char := none
  takesValue : Bool := true
  deriving DecidableEq, Repr

structure Given where
  name : String
  value : String
  deriving DecidableEq, Repr

/-- Why words on a command line are not taken as a command. -/
inductive Refusal where
  /-- They ask for help. -/
  | help
  | usage
  deriving DecidableEq, Repr

/-- Whether a word is taken for an option where a value may stand. -/
def looksLikeOption (word : String) : Bool :=
  match word.toList with
  | '-' :: _ :: _ => true
  | _ => false

def cutLong (s : List Char) : List Char × Option (List Char) :=
  match s with
  | [] => ([], none)
  | '=' :: value => ([], some value)
  | c :: rest =>
    let (name, value) := cutLong rest
    (c :: name, value)

def attached? (s : List Char) : Option (List Char) :=
  match s with
  | [] => none
  | '=' :: value => some value
  | value => some value

/-- What a word that looks like an option is. -/
inductive Mark where
  /-- An option, with the value attached to it. -/
  | option (form : OptionForm) (attached : Option (List Char))
  /-- `--help`, or `-h` with anything attached to it. -/
  | help
  deriving DecidableEq, Repr

def markOf (forms : List OptionForm) (word : String) : Except Refusal Mark :=
  match word.toList with
  | '-' :: '-' :: rest =>
    let (name, value) := cutLong rest
    match forms.find? fun f => f.name.toList = name with
    | some form => .ok (.option form value)
    | none => if rest = "help".toList then .ok .help else .error .usage
  | '-' :: letter :: rest =>
    match forms.find? fun f => f.letter = some letter with
    | some form => .ok (.option form (attached? rest))
    | none => if letter = 'h' then .ok .help else .error .usage
  | _ => .error .usage

structure Choice where
  /-- The options in order, up to a word that asks for help. -/
  options : List Given := []
  asksHelp : Bool := false
  deriving DecidableEq, Repr

def Choice.with (c : Choice) (name value : String) : Choice :=
  { c with options := { name, value } :: c.options }

/-- The options that words give. Nothing is read behind a word that asks for help. -/
def given (forms : List OptionForm) : List String → Except Refusal Choice
  | [] => .ok {}
  | ["--"] => .ok {}
  | word :: words => do
    match ← markOf forms word with
    | .help => return { asksHelp := true }
    | .option form attached =>
      match form.takesValue, attached with
      | false, none => return (← given forms words).with form.name ""
      | false, some _ => throw .usage
      | true, some value => return (← given forms words).with form.name (String.ofList value)
      | true, none =>
        match words with
        | [] => throw .usage
        | value :: words =>
          if looksLikeOption value then throw .usage
          else return (← given forms words).with form.name value

def Choice.valuesOf (c : Choice) (name : String) : List String :=
  (c.options.filter (·.name = name)).map (·.value)

def Choice.once (c : Choice) (name : String) : Except Refusal (Option String) :=
  match c.valuesOf name with
  | [] => .ok none
  | [value] => .ok (some value)
  | _ => .error .usage

end TableScan.CommandLine
