import TableForge.Text.Search

/-!
# Dates and times

A TOML date-time is a date, a time of day, or both, the last with an optional offset from UTC.
`ofText?` reads one and checks it against the calendar and the clock; `text` writes it with `T`
between date and time, with seconds, and without the zeros at the end of a fraction of a second.
-/
namespace TableForge.Toml

structure Date where
  year : Nat
  month : Nat
  day : Nat
deriving DecidableEq, Repr

/-- A time of day. -/
structure Time where
  hour : Nat
  minute : Nat
  second : Nat
  nanosecond : Nat
deriving DecidableEq, Repr

inductive Offset where
  | utc
  | minutes (count : Int)
deriving DecidableEq, Repr

inductive Datetime where
  | date (date : Date)
  | time (time : Time)
  | moment (date : Date) (time : Time) (offset : Option Offset)
deriving DecidableEq, Repr

/-- `n` in decimal with zeros in front up to `width` digits. -/
def padded (width n : Nat) : String :=
  let digits := Nat.toDigits 10 n
  String.ofList (List.replicate (width - digits.length) '0' ++ digits)

def Date.text (d : Date) : String :=
  padded 4 d.year ++ "-" ++ padded 2 d.month ++ "-" ++ padded 2 d.day

/-- The point and the digits behind it; a fraction of zero is not written. -/
def fractionText (nanosecond : Nat) : String :=
  match Text.trimRight (· = '0') (padded 9 nanosecond).toList with
  | [] => ""
  | digits => "." ++ String.ofList digits

def Time.text (t : Time) : String :=
  padded 2 t.hour ++ ":" ++ padded 2 t.minute ++ ":" ++ padded 2 t.second
    ++ fractionText t.nanosecond

def Offset.text : Offset → String
  | utc => "Z"
  | minutes count =>
    let sign := if count < 0 then "-" else "+"
    sign ++ padded 2 (count.natAbs / 60) ++ ":" ++ padded 2 (count.natAbs % 60)

def Datetime.text : Datetime → String
  | date d => d.text
  | time t => t.text
  | moment d t offset => d.text ++ "T" ++ t.text ++ offset.elim "" Offset.text

/-- The number of days of a month in the proleptic Gregorian calendar. -/
def daysInMonth (year month : Nat) : Nat :=
  if month = 2 then
    if year % 4 = 0 ∧ (year % 100 ≠ 0 ∨ year % 400 = 0) then 29 else 28
  else if month ∈ [4, 6, 9, 11] then 30
  else 31

def Date.isValid (d : Date) : Bool :=
  1 ≤ d.month && d.month ≤ 12 && 1 ≤ d.day && d.day ≤ daysInMonth d.year d.month

/-- Second 60 is a leap second. -/
def Time.isValid (t : Time) : Bool :=
  t.hour ≤ 23 && t.minute ≤ 59 && t.second ≤ 60

/-- Exactly `count` decimal digits as a number, and the rest. -/
def takeNumber? (count : Nat) (text : List Char) : Option (Nat × List Char) :=
  let digits := text.take count
  if digits.length = count ∧ digits.all Char.isDigit then
    some (digits.foldl (fun n c => 10 * n + (c.toNat - '0'.toNat)) 0, text.drop count)
  else none

/-- The given character and what follows it. -/
def takeChar? (expected : Char) : List Char → Option (List Char)
  | c :: rest => if c = expected then some rest else none
  | [] => none

def takeDate? (text : List Char) : Option (Date × List Char) := do
  let (year, text) ← takeNumber? 4 text
  let text ← takeChar? '-' text
  let (month, text) ← takeNumber? 2 text
  let text ← takeChar? '-' text
  let (day, text) ← takeNumber? 2 text
  let date : Date := { year, month, day }
  if date.isValid then some (date, text) else none

/-- A point and at least one digit as nanoseconds; digits beyond the ninth are dropped, and no point
counts as zero. -/
def takeFraction? : List Char → Option (Nat × List Char)
  | '.' :: text => do
    let (digits, rest) := text.span Char.isDigit
    guard (digits ≠ [])
    let (nanosecond, _) ← takeNumber? 9 (digits ++ List.replicate 9 '0')
    some (nanosecond, rest)
  | text => some (0, text)

/-- A colon, seconds and their fraction; both count as zero where they are left out. -/
def takeSeconds? : List Char → Option (Nat × Nat × List Char)
  | ':' :: text => do
    let (second, text) ← takeNumber? 2 text
    let (nanosecond, text) ← takeFraction? text
    some (second, nanosecond, text)
  | text => some (0, 0, text)

def takeTime? (text : List Char) : Option (Time × List Char) := do
  let (hour, text) ← takeNumber? 2 text
  let text ← takeChar? ':' text
  let (minute, text) ← takeNumber? 2 text
  let (second, nanosecond, text) ← takeSeconds? text
  let time : Time := { hour, minute, second, nanosecond }
  if time.isValid then some (time, text) else none

/-- Reads an offset that takes up the whole text; no text is no offset. -/
def readOffset? : List Char → Option (Option Offset)
  | [] => some none
  | c :: text =>
    if c = 'Z' ∨ c = 'z' then if text = [] then some (some .utc) else none
    else if c = '+' ∨ c = '-' then do
      let (hours, text) ← takeNumber? 2 text
      let text ← takeChar? ':' text
      let (minutes, text) ← takeNumber? 2 text
      guard (text = [] ∧ hours ≤ 23 ∧ minutes ≤ 59)
      let count : Int := hours * 60 + minutes
      some (some (.minutes (if c = '-' then -count else count)))
    else none

/-- Reads a date-time that takes up the whole text. -/
def Datetime.ofText? (text : List Char) : Option Datetime :=
  match takeDate? text with
  | some (d, []) => some (date d)
  | some (d, c :: rest) =>
    if c ∈ ['T', 't', ' '] then do
      let (t, rest) ← takeTime? rest
      let offset ← readOffset? rest
      some (moment d t offset)
    else none
  | none => do
    let (t, rest) ← takeTime? text
    guard (rest = [])
    some (time t)

end TableForge.Toml
