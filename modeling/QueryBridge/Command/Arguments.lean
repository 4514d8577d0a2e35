set_option autoImplicit false

namespace QueryBridge.Command

inductive UsageError where
  | unknownOption (argument : String)
  | missingValue (option : String)
  | invalidValue (option value : String)
  | unwantedValue (option value : String)
  | repeated (option : String)
  | unexpected (argument : String)
  | missing (argument : String)
  | unknownCommand (name : String)
  deriving DecidableEq, Repr

def UsageError.message : UsageError → String
  | unknownOption argument => s!"unexpected argument '{argument}' found"
  | missingValue option => s!"a value is required for '--{option}' but none was supplied"
  | invalidValue option value => s!"invalid value '{value}' for '--{option}'"
  | unwantedValue option value => s!"unexpected value '{value}' for '--{option}' found"
  | repeated option => s!"the argument '--{option}' cannot be used multiple times"
  | unexpected argument => s!"unexpected argument '{argument}' found"
  | missing argument => s!"a value for '{argument}' was not provided"
  | unknownCommand name => s!"unrecognized subcommand '{name}'"

inductive OptionKind where
  | switch
  | valued (accepts : String → Bool)
  | final

structure OptionSpec where
  long : String
  short : Option Char
  kind : OptionKind

structure Arguments where
  options : List (String × String)
  others : List String
  deriving DecidableEq, Repr

inductive Interruption where
  | usage (e : UsageError)
  | final (option : String)
  deriving DecidableEq, Repr

namespace Arguments

def empty : Arguments := ⟨[], []⟩

def value? (a : Arguments) (option : String) : Option String := a.options.lookup option

def isGiven (a : Arguments) (option : String) : Bool := (a.value? option).isSome

def addOther (a : Arguments) (argument : String) : Arguments := { a with others := a.others ++ [argument] }

/-- An option may be given once. -/
def addOption (a : Arguments) (option value : String) : Except Interruption Arguments :=
  if a.isGiven option then .error (.usage (.repeated option))
  else .ok { a with options := a.options ++ [(option, value)] }

def addValued (a : Arguments) (option : String) (accepts : String → Bool) (value : String) :
    Except Interruption Arguments :=
  if accepts value then a.addOption option value else .error (.usage (.invalidValue option value))

end Arguments

/-- A dash alone is no option. -/
def looksLikeOption (argument : String) : Bool :=
  match argument.toList with
  | '-' :: _ :: _ => true
  | _ => false

def optionOf (specs : List OptionSpec) (argument : String) : Option (OptionSpec × Option String) :=
  match argument.toList with
  | '-' :: '-' :: body =>
    let name := String.ofList (body.takeWhile (· != '='))
    let attached := match body.dropWhile (· != '=') with
      | _ :: value => some (String.ofList value)
      | [] => none
    (specs.find? (·.long == name)).map (·, attached)
  | '-' :: letter :: body =>
    let attached := match body with
      | [] => none
      | '=' :: value => some (String.ofList value)
      | value => some (String.ofList value)
    (specs.find? (·.short == some letter)).map (·, attached)
  | _ => none

/-- Reads arguments. If `stops`, the first that is no option ends them, and it and what follows is returned. -/
def readArguments (specs : List OptionSpec) (stops : Bool) (a : Arguments) :
    List String → Except Interruption (Arguments × List String)
  | [] => .ok (a, [])
  | argument :: rest =>
    if argument = "--" then
      if stops then .ok (a, argument :: rest) else .ok ({ a with others := a.others ++ rest }, [])
    else if !looksLikeOption argument then
      if stops then .ok (a, argument :: rest) else readArguments specs stops (a.addOther argument) rest
    else
      match optionOf specs argument with
      | none => .error (.usage (.unknownOption argument))
      | some (⟨name, _, .final⟩, _) => .error (.final name)
      | some (⟨name, _, .switch⟩, some value) => .error (.usage (.unwantedValue name value))
      | some (⟨name, _, .switch⟩, none) => do readArguments specs stops (← a.addOption name "") rest
      | some (⟨name, _, .valued accepts⟩, some value) => do
        readArguments specs stops (← a.addValued name accepts value) rest
      | some (⟨name, _, .valued accepts⟩, none) =>
        match rest with
        | value :: rest =>
          if looksLikeOption value then .error (.usage (.missingValue name))
          else do readArguments specs stops (← a.addValued name accepts value) rest
        | [] => .error (.usage (.missingValue name))

end QueryBridge.Command
