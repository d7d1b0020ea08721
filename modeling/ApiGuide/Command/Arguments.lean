import ApiGuide.Text.Basic

/-!
The arguments of the command.

Arguments are taken from the left, and the first that decides the matter wins: one that is refused,
or one that asks for help or for the version.
-/

namespace ApiGuide.Command

open Text

/-- What the command is asked to do. -/
structure Arguments where
  root : Option Text := none
  config : Option Text := none
  format : Option Text := none
  output : Option Text := none
  strict : Bool := false
  promoted : List Text := []
  verbose : Bool := false
  deriving DecidableEq

/-- What a list of arguments comes to. -/
inductive Request
  | run (arguments : Arguments)
  | help
  | version
  | refused
  deriving DecidableEq

/-- An option that takes a value. -/
inductive ValueOption
  | config
  | format
  | output
  | promoted
  deriving DecidableEq

/-- An option that takes none. -/
inductive FlagOption
  | strict
  | verbose
  | help
  | version
  deriving DecidableEq

/-- Any option. -/
inductive AnyOption
  | value (option : ValueOption)
  | flag (option : FlagOption)
  deriving DecidableEq

/-- The option of a long name. -/
def longOption? (name : Text) : Option AnyOption :=
  [("config".toList, AnyOption.value .config), ("format".toList, .value .format),
    ("output".toList, .value .output), ("promoted".toList, .value .promoted),
    ("strict".toList, .flag .strict), ("verbose".toList, .flag .verbose),
    ("help".toList, .flag .help), ("version".toList, .flag .version)].lookup name

/-- The option of a letter. -/
def shortOption? (letter : Char) : Option AnyOption :=
  [('c', AnyOption.value .config), ('f', .value .format), ('o', .value .output),
    ('v', .flag .verbose), ('h', .flag .help), ('V', .flag .version)].lookup letter

namespace Arguments

/-- Takes the root, which is given at most once and is not empty. -/
def setRoot? (a : Arguments) (root : Text) : Option Arguments :=
  if a.root.isSome ∨ root = [] then none else some { a with root := some root }

/-- Takes the value of an option. Only promoted classes may be given more than once, and paths are
    not empty. -/
def setValue? (a : Arguments) (value : Text) : ValueOption → Option Arguments
  | .config => if a.config.isSome ∨ value = [] then none else some { a with config := some value }
  | .format => if a.format.isSome then none else some { a with format := some value }
  | .output => if a.output.isSome ∨ value = [] then none else some { a with output := some value }
  | .promoted => some { a with promoted := a.promoted ++ [value] }

/-- Takes a flag, which is given at most once; or what the flag asks for instead. -/
def setFlag (a : Arguments) : FlagOption → Except Request Arguments
  | .strict => if a.strict then .error .refused else .ok { a with strict := true }
  | .verbose => if a.verbose then .error .refused else .ok { a with verbose := true }
  | .help => .error .help
  | .version => .error .version

end Arguments

/-- The arguments so far, and the option whose value is the next argument. -/
abbrev Progress := Arguments × Option ValueOption

/-- Refuses where there is nothing. -/
def orRefused (found : Option Arguments) : Except Request Progress :=
  match found with
  | some a => .ok (a, none)
  | none => .error .refused

/-- A long option after its two hyphens. A value may follow an equals sign. -/
def takeLong (a : Arguments) (t : Text) : Except Request Progress :=
  match splitAt? '=' t with
  | some (name, value) =>
    match longOption? name with
    | some (.value option) => orRefused (a.setValue? value option)
    | _ => .error .refused
  | none =>
    match longOption? t with
    | some (.value option) => .ok (a, some option)
    | some (.flag option) => (a.setFlag option).map fun a => (a, none)
    | none => .error .refused

/-- Letters after a single hyphen. Those after a letter that takes a value are its value, with or
    without an equals sign between them. -/
def takeShort (a : Arguments) : Text → Except Request Progress
  | [] => .ok (a, none)
  | letter :: rest =>
    match shortOption? letter with
    | none => .error .refused
    | some (.flag option) =>
      match a.setFlag option with
      | .error request => .error request
      | .ok a => takeShort a rest
    | some (.value option) =>
      match rest with
      | [] => .ok (a, some option)
      | c :: value => orRefused (a.setValue? (if c = '=' then value else rest) option)

/-- The argument is an option or the mark that ends options, and no value. A single hyphen is a
    value. -/
def isOption : Text → Bool
  | '-' :: _ :: _ => true
  | _ => false

/-- Takes one argument before the mark that ends options. -/
def take (progress : Progress) (arg : Text) : Except Request Progress :=
  match progress with
  | (a, some option) => if isOption arg then .error .refused else orRefused (a.setValue? arg option)
  | (a, none) =>
    match arg with
    | '-' :: '-' :: name => takeLong a name
    | '-' :: c :: letters => takeShort a (c :: letters)
    | _ => orRefused (a.setRoot? arg)

/-- Takes arguments that are no options. -/
def takeRoots (a : Arguments) : List Text → Request
  | [] => .run a
  | arg :: rest =>
    match a.setRoot? arg with
    | some a => takeRoots a rest
    | none => .refused

/-- Takes arguments one after the other. Two hyphens alone end the options. -/
def takeAll (progress : Progress) : List Text → Request
  | [] => if progress.2.isSome then .refused else .run progress.1
  | arg :: rest =>
    if progress.2.isNone ∧ arg = "--".toList then takeRoots progress.1 rest
    else
      match take progress arg with
      | .error request => request
      | .ok progress => takeAll progress rest

/-- What a list of arguments asks for. -/
def parse (args : List Text) : Request :=
  takeAll ({}, none) args

end ApiGuide.Command
