/-!
# The command line

Options before the command belong to the operator, options behind it to the command; the options
for logging and for the namespace may stand on either side. A side may name each of them once.
Words are read from left to right, and the first one that makes no sense or asks for help or for
the version settles the outcome.

What the command line leaves open comes from the environment, and has to make sense there for each
side that leaves it open.
-/

namespace FleetOperator

/-- What the operator is to do. -/
inductive Mode where
  | gateways
  | sweeps (root : String)
deriving DecidableEq, Repr, Inhabited

/-- A command line that makes sense. -/
structure Invocation where
  /-- Whether only the manifest of the fleet resource is asked for. -/
  manifest : Bool
  logJson : Bool
  ns : Option String
  mode : Mode
deriving DecidableEq, Repr, Inhabited

/-- Why a command line leads to no invocation. -/
inductive Stop where
  | help
  | version
  | usage
deriving DecidableEq, Repr, Inhabited

namespace Command

/-- The names of the environment's part in the command line. -/
def logJsonVariable : String := "MERIDIAN_LOG_JSON"

def namespaceVariable : String := "MERIDIAN_NAMESPACE"

def rootVariable : String := "MERIDIAN_CSI_ROOT_DIR"

/-- The root directory of a sweep where nothing else is said. -/
def defaultRoot : String := "/data"

/-- Where on the command line a word stands. -/
inductive Side where
  /-- Before the command. -/
  | operator
  | gateways
  | sweeps
deriving DecidableEq, Repr, Inhabited

/-- The options of one side. -/
structure Options where
  manifest : Bool
  logJson : Bool
  ns : Option String
  root : Option String
deriving DecidableEq, Repr, Inhabited

namespace Options

/-- No options. -/
def none : Options := ⟨false, false, .none, .none⟩

/-- The options with a flag; it must not be there already, and the side has to know it. -/
def setFlag (side : Side) (options : Options) (name : String) : Except Stop Options :=
  if name = "log-json" ∧ !options.logJson then .ok { options with logJson := true }
  else if name = "crd" ∧ side = .operator ∧ !options.manifest then
    .ok { options with manifest := true }
  else .error .usage

/-- Whether a side knows an option that takes a value. -/
def takesValue (side : Side) (name : String) : Bool :=
  name = "namespace" ∨ (name = "root-dir" ∧ side = .sweeps)

/-- The options with a value; there must be none already. A directory has to have a name. -/
def setValue (options : Options) (name value : String) : Except Stop Options :=
  if name = "namespace" then
    if options.ns.isNone then .ok { options with ns := some value } else .error .usage
  else
    if options.root.isNone ∧ !value.isEmpty then .ok { options with root := some value }
    else .error .usage

end Options

/-- Whether a word cannot be the value of the option before it. -/
def isOption (word : String) : Bool := word.startsWith "-" && word ≠ "-"

/-- What a word in front of which there are one or two dashes asks for right away. -/
def request? (side : Side) (word : String) : Option Stop :=
  if word = "--help" ∨ (word.startsWith "-h" ∧ !word.startsWith "--") then some .help
  else if side = .operator ∧ (word = "--version" ∨ (word.startsWith "-V")) then some .version
  else none

/-- The name in a word, and the value behind an equals sign. -/
def splitOption (word : String) : String × Option String :=
  let cs := word.toList.drop 2
  let name := cs.takeWhile (· ≠ '=')
  (String.ofList name, match cs.drop name.length with
    | _ :: value => some (String.ofList value)
    | [] => none)

/-- The options on one side, with the words from the first one on that is no option. -/
def readOptions (side : Side) : List String → Options → Except Stop (Options × List String)
  | [], options => .ok (options, [])
  | "--" :: rest, options => if rest.isEmpty then .ok (options, []) else .error .usage
  | word :: rest, options =>
    if !isOption word then .ok (options, word :: rest)
    else match request? side word with
      | some stop => .error stop
      | none =>
        if !word.startsWith "--" then .error .usage
        else
          let (name, value?) := splitOption word
          if Options.takesValue side name then
            match value?, rest with
            | some value, rest => do readOptions side rest (← options.setValue name value)
            | none, value :: rest =>
              if isOption value then .error .usage
              else do readOptions side rest (← options.setValue name value)
            | none, [] => .error .usage
          else match value? with
            | some _ => .error .usage
            | none => do readOptions side rest (← options.setFlag side name)
termination_by words => words.length

/-- The commands, as they are written. -/
def command? (word : String) : Option Side :=
  if word = "controller" then some .gateways
  else if word = "csi-gc" then some .sweeps
  else none

/-- What the word `help` and those behind it lead to. -/
def helpFor : List String → Stop
  | [] => .help
  | [word] => if word = "help" ∨ (command? word).isSome then .help else .usage
  | _ => .usage

/-- The options before the command, and the command with its own. -/
def readWords (words : List String) : Except Stop (Options × Option (Side × Options)) := do
  match ← readOptions .operator words .none with
  | (options, []) => return (options, none)
  | (options, word :: rest) =>
    if word = "help" then throw (helpFor rest)
    match command? word with
    | none => throw .usage
    | some side =>
      match ← readOptions side rest .none with
      | (own, []) => return (options, some (side, own))
      | _ => throw .usage

/-- Whether logs are JSON, as far as the environment goes. -/
def logJsonFrom (env : String → Option String) : Except Stop Bool :=
  match env logJsonVariable with
  | none => .ok false
  | some "true" => .ok true
  | some "false" => .ok false
  | some _ => .error .usage

/-- The root directory of a sweep. -/
def rootFrom (env : String → Option String) (own : Options) : Except Stop String :=
  match own.root with
  | some root => .ok root
  | none =>
    match env rootVariable with
    | none => .ok defaultRoot
    | some root => if root.isEmpty then .error .usage else .ok root

/-- What a command line and an environment ask for. -/
def parse (words : List String) (env : String → Option String) : Except Stop Invocation := do
  let (options, command) ← readWords words
  let (side, own) := command.getD (.operator, options)
  let fromEnv ← if options.logJson ∧ own.logJson then pure false else logJsonFrom env
  let mode ← match side with
    | .sweeps => do pure (Mode.sweeps (← rootFrom env own))
    | _ => pure Mode.gateways
  return {
    manifest := options.manifest
    logJson := options.logJson || own.logJson || fromEnv
    ns := own.ns.or (options.ns.or (env namespaceVariable))
    mode := mode }

end Command

end FleetOperator
