import FleetOperator.Text.Blank

/-!
# Timestamps

A date, a `T` or a blank, a time of day with or without a fraction, and an offset from universal
time. The reading is lenient: blanks may stand before each number and each mark, a number may
leave out leading zeros, and the offset may be `Z`, `UTC` or hours and minutes with or without a
colon. The date has to be in the calendar and the time on the clock; second 60 is a leap second.
Days are counted between two dates, here and in universal time.
-/

namespace FleetOperator.Timestamp

open Text (isBlank)

def skipBlanks (cs : List Char) : List Char := cs.dropWhile isBlank

/-- The number that digits spell. -/
def digitsValue (ds : List Char) : Nat :=
  ds.foldl (fun n d => n * 10 + (d.toNat - '0'.toNat)) 0

/-- A number of one to `width` digits. -/
def number? (width : Nat) (cs : List Char) : Option (Nat × List Char) :=
  let ds := (cs.take width).takeWhile Char.isDigit
  if ds.isEmpty then none else some (digitsValue ds, cs.drop ds.length)

/-- A number with blanks before it. -/
def field? (width : Nat) (cs : List Char) : Option (Nat × List Char) :=
  number? width (skipBlanks cs)

/-- A year; with a sign it may have any number of digits. -/
def year? (cs : List Char) : Option (Int × List Char) :=
  match skipBlanks cs with
  | '-' :: rest => (number? rest.length rest).map fun (n, left) => (-(n : Int), left)
  | '+' :: rest => (number? rest.length rest).map fun (n, left) => ((n : Int), left)
  | rest => (number? 4 rest).map fun (n, left) => ((n : Int), left)

/-- A mark with blanks before it. -/
def mark? (c : Char) (cs : List Char) : Option (List Char) :=
  match skipBlanks cs with
  | d :: rest => if c = d then some rest else none
  | [] => none

def isLeapYear (year : Int) : Bool := year % 4 == 0 && (year % 100 != 0 || year % 400 == 0)

def daysIn (year : Int) (month : Nat) : Nat :=
  if month = 2 then if isLeapYear year then 29 else 28
  else if month = 4 ∨ month = 6 ∨ month = 9 ∨ month = 11 then 30
  else 31

/-- A day of the calendar. -/
structure Date where
  year : Int
  month : Nat
  day : Nat
deriving DecidableEq, Repr, Inhabited

/-- The first day that is counted. -/
def firstDate : Date := ⟨-262143, 1, 1⟩

/-- The last day that is counted. -/
def lastDate : Date := ⟨262142, 12, 31⟩

/-- A date of the calendar. -/
def date? (cs : List Char) : Option (Date × List Char) := do
  let (year, cs) ← year? cs
  let cs ← mark? '-' cs
  let (month, cs) ← field? 2 cs
  let cs ← mark? '-' cs
  let (day, cs) ← field? 2 cs
  if firstDate.year ≤ year ∧ year ≤ lastDate.year ∧ 1 ≤ month ∧ month ≤ 12 ∧ 1 ≤ day ∧
      day ≤ daysIn year month
  then some (⟨year, month, day⟩, cs) else none

/-- A time of day, as seconds since midnight; a leap second counts as the one before it. -/
def time? (cs : List Char) : Option (Nat × List Char) := do
  let (hour, cs) ← field? 2 cs
  let cs ← mark? ':' cs
  let (minute, cs) ← field? 2 cs
  let cs ← mark? ':' cs
  let (second, cs) ← field? 2 cs
  let cs ← match cs with
    | '.' :: rest =>
      if (rest.takeWhile Char.isDigit).isEmpty then none else some (rest.dropWhile Char.isDigit)
    | _ => some cs
  if hour ≤ 23 ∧ minute ≤ 59 ∧ second ≤ 60 then
    some ((hour * 60 + minute) * 60 + min second 59, skipBlanks cs)
  else none

/-- Hours and minutes behind a sign, as seconds that a clock is ahead of universal time. -/
def offset? (cs : List Char) : Option (Int × List Char) :=
  match cs with
  | 'Z' :: rest => some (0, rest)
  | 'z' :: rest => some (0, rest)
  | a :: b :: c :: rest =>
    if a.toUpper = 'U' ∧ b.toUpper = 'T' ∧ c.toUpper = 'C' then some (0, rest)
    else if (a = '+' ∨ a = '-' ∨ a = '\u2212') ∧ b.isDigit ∧ c.isDigit then
      match rest.dropWhile fun c => c = ':' ∨ isBlank c with
      | d :: e :: left =>
        let seconds := (digitsValue [b, c] * 60 + digitsValue [d, e]) * 60
        if '0' ≤ d ∧ d ≤ '5' ∧ e.isDigit ∧ digitsValue [b, c] < 24 then
          some (if a = '+' then seconds else -(seconds : Int), left)
        else none
      | _ => none
    else none
  | _ => none

/-- Seconds of a day. -/
def daySeconds : Int := 86400

/-- Whether a time of a day lies on a day that is counted in universal time too. -/
def isCounted (date : Date) (seconds offset : Int) : Bool :=
  (date ≠ firstDate || 0 ≤ seconds - offset) && (date ≠ lastDate || seconds - offset < daySeconds)

/-- Whether a text is a timestamp. -/
def isValid (s : String) : Bool :=
  let left? := do
    match ← date? s.toList with
    | (date, c :: rest) =>
      if c = 'T' ∨ c = 't' ∨ c = ' ' then
        let (seconds, left) ← time? rest
        let (offset, left) ← offset? left
        if isCounted date seconds offset then some left else none
      else none
    | (_, []) => none
  match left? with
  | some left => (skipBlanks left).isEmpty
  | none => false

end FleetOperator.Timestamp
