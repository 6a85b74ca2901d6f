import FleetOperator.Command.Log
import FleetOperator.Command.Log.Pattern
import FleetOperator.Text.Alphanumeric
import FleetOperator.Text.Blank
import FleetOperator.Text.Utf8

/-!
# Filters of a log

A filter is a list of directives between commas. A directive is a bound on severities, with a
target in front, or a span of work between brackets, or both: `target[span{field=value}]=bound`.
What is left out of it holds for everything, and without a bound all severities pass.

The operator has no spans of work, so a directive with the name of a span never counts, nor does
one with a value, which only spans are asked for. The others are about events: those whose target
starts with a text, and that have a field of a name. Of the directives about an event the most
special one counts, and an event that none is about is not written.
-/

namespace FleetOperator.Log

/-- A bound on the severity of some events. -/
structure Directive where
  /-- What their target starts with; none for all targets. -/
  target : Option String
  /-- The name of the span of work that they are part of. -/
  span : Option String
  /-- The name of a field that they have. -/
  field : Option String
  /-- The pattern of the field's value. -/
  value : Option String
  bound : Severity
deriving DecidableEq, Repr, Inhabited

/-! ## Reading directives -/

/-- The part of a directive that is being read, with the byte at which it starts. -/
inductive Stage where
  | start
  /-- A target or a bound, which only the end tells apart. -/
  | head (start : Nat)
  | span (start : Nat)
  | field (start : Nat)
  /-- Behind the field. -/
  | fieldEnd
  /-- Behind the brackets. -/
  | spanEnd
  | bound (start : Nat)
deriving DecidableEq, Repr, Inhabited

/-- A directive that is being read. -/
structure Draft where
  stage : Stage
  target : Option String
  span : Option String
  field : Option String
deriving DecidableEq, Repr, Inhabited

namespace Draft

/-- Reads the character at a byte; `cut` gives what is between two bytes. -/
def step (cut : Nat → Nat → Option String) (draft : Draft) (place : Nat) (c : Char) :
    Option Draft :=
  match draft.stage, c with
  | .start, '[' => some { draft with stage := .span (place + 1) }
  | .start, c =>
    if ['-', ':', '_'].contains c || Text.isAlphanumeric c then
      some { draft with stage := .head place }
    else none
  | .head start, '=' => do
    return { draft with target := some (← cut start place), stage := .bound (place + 1) }
  | .head start, '[' => do
    return { draft with target := some (← cut start place), stage := .span (place + 1) }
  | .head _, _ => some draft
  | .span start, ']' => do return { draft with span := some (← cut start place), stage := .spanEnd }
  | .span start, '\x7b' => do
    let name ← cut start place
    let span := if name.isEmpty then none else some name
    return { draft with span, stage := .field (place + 1) }
  | .span _, _ => some draft
  | .field start, '\x7d' => do
    let field ← cut start place
    if field.isEmpty then none else some { draft with field := some field, stage := .fieldEnd }
  | .field _, _ => some draft
  | .fieldEnd, ']' => some { draft with stage := .spanEnd }
  | .spanEnd, '=' => some { draft with stage := .bound (place + 1) }
  | .bound _, _ => some draft
  | _, _ => none

/-- Reads the characters from a byte on. -/
def read (cut : Nat → Nat → Option String) (draft : Draft) (place : Nat) :
    List Char → Option Draft
  | [] => some draft
  | c :: rest => do read cut (← draft.step cut place c) (place + c.utf8Size) rest

/-- The name of a field and the pattern of its value. -/
def splitField (field : String) : String × Option String :=
  match field.splitOn "=" with
  | name :: value :: _ => (name, some value)
  | _ => (field, none)

/-- The directive that is read when the text ends; `cut` gives what is left from a byte on. -/
def finish (cut : Nat → Option String) (draft : Draft) : Option Directive := do
  let parts := draft.field.map splitField
  if (parts.bind Prod.snd).any (!Pattern.isValue ·) then none
  else
    let directive (target : Option String) (bound : Severity) : Directive :=
      ⟨target, draft.span, parts.map Prod.fst, parts.bind Prod.snd, bound⟩
    match draft.stage with
    | .head start =>
      let text ← cut start
      match Severity.ofText? text with
      | some bound => some (directive none bound)
      | none => some (directive (some text) .trace)
    | .bound start =>
      let text ← cut start
      if text.isEmpty then some (directive draft.target .trace)
      else (Severity.ofText? text).map (directive draft.target)
    | .spanEnd => some (directive draft.target .trace)
    | _ => none

end Draft

namespace Directive

/-- The directive that a text spells. Its parts are looked for without the blanks around the text,
and then taken from the text itself, at the same bytes. -/
def parse? (text : String) : Option Directive := do
  let all := Text.bytes text
  let cut (start stop : Nat) : Option String := Text.ofBytes? ((all.take stop).drop start)
  let draft ← Draft.read cut ⟨.start, none, none, none⟩ 0 (Text.trimBlanks text).toList
  draft.finish (cut · all.length)

/-- Whether a directive is about events. -/
def isAboutEvents (directive : Directive) : Bool :=
  directive.span.isNone && directive.value.isNone

/-- Whether a directive is about an event. -/
def covers (directive : Directive) (event : Event) : Bool :=
  directive.isAboutEvents && directive.target.all (event.target.startsWith ·) &&
    directive.field.all (event.names.contains ·)

/-- The length of the target, and less than that of any for none. -/
def weight (directive : Directive) : Nat :=
  match directive.target with
  | none => 0
  | some target => target.utf8ByteSize + 1

/-- Whether of two directives about an event the second is at least as special: its target is
longer, or with the same target its field comes later, where none comes before all. -/
def yields (first second : Directive) : Bool :=
  first.weight < second.weight ||
    (first.weight == second.weight && match first.field, second.field with
      | none, _ => true
      | some _, none => false
      | some a, some b => a ≤ b)

end Directive

/-! ## Filters -/

/-- Which events are written. -/
abbrev Filter := List Directive

namespace Filter

/-- A bound on all events. -/
def everything (bound : Severity) : Directive := ⟨none, none, none, none, bound⟩

/-- A bound on the events whose target starts with a text. -/
def targets (start : String) (bound : Severity) : Directive :=
  ⟨some start, none, none, none, bound⟩

/-- The filter of a text with directives between commas; with none errors pass. -/
def parse? (s : String) : Option Filter :=
  (((s.splitOn ",").filter (!·.isEmpty)).mapM Directive.parse?).map fun directives =>
    if directives.isEmpty then [everything .error] else directives

/-- The filter where nothing else is said. -/
def usual : Filter := [everything .info, targets "meridian" .debug, targets "kube" .info,
  targets "tower" .warn, targets "hyper" .warn]

/-- The filter that an environment asks for. -/
def ofVariable (value : Option String) : Filter := (value.bind parse?).getD usual

/-- The directive that counts for an event: the most special one, and of equals the last. -/
def directive? (filter : Filter) (event : Event) : Option Directive :=
  (filter.filter (·.covers event)).foldl (fun best next => match best with
    | none => some next
    | some found => if found.yields next then some next else some found) none

/-- Whether an event is written. -/
def allows (filter : Filter) (event : Event) : Bool :=
  match directive? filter event with
  | some directive => event.severity.rank ≤ directive.bound.rank
  | none => false

end Filter

end FleetOperator.Log
