import FleetOperator.Json.Printer
import FleetOperator.Text.Visible

/-!
# Logs

An event has a severity, a target, a message and fields. It is written as one line of text or as
one JSON object, without the time, which is not its own.
-/

namespace FleetOperator.Log

/-- How important an event is; `off` is the bound that none reaches. -/
inductive Severity where
  | off
  | error
  | warn
  | info
  | debug
  | trace
deriving DecidableEq, Repr, Inhabited

namespace Severity

def rank : Severity → Nat
  | .off => 0
  | .error => 1
  | .warn => 2
  | .info => 3
  | .debug => 4
  | .trace => 5

def name : Severity → String
  | .off => "OFF"
  | .error => "ERROR"
  | .warn => "WARN"
  | .info => "INFO"
  | .debug => "DEBUG"
  | .trace => "TRACE"

def all : List Severity := [.off, .error, .warn, .info, .debug, .trace]

/-- The severity that a word or a number stands for. -/
def ofText? (s : String) : Option Severity :=
  let digits := if s.startsWith "+" then (s.drop 1).toString else s
  let isNumber := !digits.isEmpty && digits.toList.all Char.isDigit
  all.find? fun severity =>
    severity.name = s.toUpper ∨ (isNumber ∧ digits.toNat? = some severity.rank)

end Severity

/-! ## Events -/

/-- A value of a field. -/
inductive Value where
  | flag (b : Bool)
  | text (s : String)
deriving DecidableEq, Repr, Inhabited

structure Event where
  severity : Severity
  target : String
  message : String
  fields : List (String × Value)
deriving DecidableEq, Repr, Inhabited

namespace Value

def line : Value → String
  | .flag b => if b then "true" else "false"
  | .text s => s

def encode : Value → Json
  | .flag b => .bool b
  | .text s => .str s

end Value

namespace Event

/-- The event as a line of text. -/
def line (event : Event) : String :=
  let fields := event.fields.map fun (name, value) => " " ++ name ++ "=" ++ value.line
  event.severity.name ++ " " ++ event.target ++ ": " ++ event.message ++ String.join fields

/-- The lines that the text of an event makes where it is read by lines. A line ends with a line
feed, and a carriage return before that is part of the end. -/
def lines (event : Event) : List String :=
  (event.line.splitOn "\n").map fun line =>
    if line.endsWith "\r" then String.ofList line.toList.dropLast else line

/-- The names of what an event says. -/
def names (event : Event) : List String := "message" :: event.fields.map Prod.fst

/-- The event as a JSON object. -/
def encode (event : Event) : Json := .obj [
  ("level", .str event.severity.name),
  ("fields", .obj (("message", .str event.message) ::
    event.fields.map fun (name, value) => (name, value.encode))),
  ("target", .str event.target)]

end Event

/-! ## Quoted values -/

/-- A character inside quotes. -/
def escape (c : Char) : List Char :=
  if c = '"' then ['\\', '"']
  else if c = '\\' then ['\\', '\\']
  else if c = '\n' then ['\\', 'n']
  else if c = '\r' then ['\\', 'r']
  else if c = '\t' then ['\\', 't']
  else if c = '\x00' then ['\\', '0']
  else if Text.extendsPrevious c || !Text.isVisible c then
    ['\\', 'u', '\x7b'] ++ Nat.toDigits 16 c.toNat ++ ['\x7d']
  else [c]

/-- A text that may be missing, told apart from one that is not. -/
def quoted : Option String → String
  | none => "None"
  | some s => "Some(\"" ++ String.ofList (s.toList.flatMap escape) ++ "\")"

end FleetOperator.Log
