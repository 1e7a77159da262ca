import ControlPlane.Decimal.Word
import ControlPlane.Text.Blank

/-!
# Points in time

A point in time is held as its date and time of day in UTC. It is read from a text that gives date, time and offset, with
some freedom: blanks between the parts, numbers of one digit, years with a sign, any number of decimals. It is written in
one form only.
-/

namespace ControlPlane

/-! ## Dates -/

/-- Whether a year has 366 days. -/
def isLeapYear (year : Int) : Bool := year % 4 = 0 && (year % 100 ≠ 0 || year % 400 = 0)

/-- The number of days in a month. -/
def daysInMonth (year : Int) (month : Nat) : Nat :=
  match month with
  | 2 => if isLeapYear year then 29 else 28
  | 4 | 6 | 9 | 11 => 30
  | _ => 31

/-- A day of the calendar. -/
structure Date where
  year : Int
  month : Nat
  day : Nat
deriving DecidableEq, Repr

namespace Date

/-- The first and the last year of the calendar. -/
def years : Int × Int := (-262143, 262142)

/-- Whether there is such a day. -/
def isValid (d : Date) : Bool :=
  years.1 ≤ d.year && d.year ≤ years.2 && 1 ≤ d.month && d.month ≤ 12 && 1 ≤ d.day && d.day ≤ daysInMonth d.year d.month

/-- The day after. -/
def next (d : Date) : Date :=
  if d.day < daysInMonth d.year d.month then { d with day := d.day + 1 }
  else if d.month < 12 then ⟨d.year, d.month + 1, 1⟩
  else ⟨d.year + 1, 1, 1⟩

/-- The day before. -/
def previous (d : Date) : Date :=
  if 1 < d.day then { d with day := d.day - 1 }
  else if 1 < d.month then ⟨d.year, d.month - 1, daysInMonth d.year (d.month - 1)⟩
  else ⟨d.year - 1, 12, 31⟩

end Date

/-! ## Points in time -/

/-- A point in time in UTC. The second 60 is a leap second. -/
structure Timestamp where
  date : Date
  hour : Nat
  minute : Nat
  second : Nat
  nanos : Nat
deriving DecidableEq, Repr

namespace Timestamp

/-- Why a text is no point in time. -/
inductive Fault where
  | outOfRange | impossible | invalid | tooShort | tooLong
deriving DecidableEq, Repr

/-- The words for a fault. -/
def Fault.text : Fault → String
  | outOfRange => "input is out of range"
  | impossible => "no possible date and time matching input"
  | invalid => "input contains invalid characters"
  | tooShort => "premature end of input"
  | tooLong => "trailing input"

/-- The point in time that a clock shows when its offset from UTC is a number of minutes. -/
def atOffset (t : Timestamp) (minutes : Int) : Except Fault Timestamp :=
  let ofDay := (t.hour * 60 + t.minute : Int) - minutes
  let date :=
    if ofDay < 0 then t.date.previous
    else if 24 * 60 ≤ ofDay then t.date.next
    else t.date
  let rest := (ofDay % (24 * 60)).toNat
  if date.isValid then .ok { t with date, hour := rest / 60, minute := rest % 60 } else .error .impossible

/-! ## Reading

Each part of a text is read together with what follows it. -/

/-- The greatest number that is read. -/
def numberLimit : Nat := 0x7fffffffffffffff

/-- At least one digit and at most so many, behind blanks. -/
def number (width : Nat) (s : List Char) : Except Fault (Nat × List Char) :=
  let ds := (s.take width).takeWhile Char.isDigit
  match ds, s with
  | [], [] => .error .tooShort
  | [], _ :: _ => .error .invalid
  | _ :: _, _ => if Decimal.ofDigits ds ≤ numberLimit then .ok (Decimal.ofDigits ds, s.drop ds.length) else .error .outOfRange

/-- A number in a range, behind blanks. -/
def bounded (width low high : Nat) (s : List Char) : Except Fault (Nat × List Char) := do
  let (n, rest) ← number width (Text.trimStart s)
  if low ≤ n ∧ n ≤ high then .ok (n, rest) else .error .outOfRange

/-- A year: four digits at most, or a sign and any number of digits. -/
def year (s : List Char) : Except Fault (Int × List Char) := do
  let (y, rest) ← match Text.trimStart s with
    | '-' :: rest => do
      let (n, rest) ← number rest.length rest
      pure (-(n : Int), rest)
    | '+' :: rest => do
      let (n, rest) ← number rest.length rest
      pure ((n : Int), rest)
    | s => do
      let (n, rest) ← number 4 s
      pure ((n : Int), rest)
  if -0x80000000 ≤ y ∧ y < 0x80000000 then .ok (y, rest) else .error .outOfRange

/-- A mark between two parts, behind blanks. -/
def mark (c : Char) (s : List Char) : Except Fault (List Char) :=
  match Text.trimStart s with
  | [] => .error .tooShort
  | d :: rest => if d = c then .ok rest else .error .invalid

/-- The decimals of a second in nanoseconds, if there are any. Those after the ninth do not count. -/
def decimals (s : List Char) : Except Fault (Nat × List Char) :=
  match s with
  | '.' :: rest => do
    let (n, after) ← number 9 rest
    .ok (n * Nat.pow 10 (9 - (rest.length - after.length)), after.dropWhile Char.isDigit)
  | s => .ok (0, s)

/-- Two digits, of which the first is less than a bound; a first digit beyond it is out of range. -/
def twoDigits (tens : Nat) (s : List Char) : Except Fault (Nat × List Char) :=
  match s with
  | a :: b :: rest =>
    if a.isDigit && b.isDigit then
      if a.toNat - 48 < tens then .ok (Decimal.ofDigits [a, b], rest) else .error .outOfRange
    else .error .invalid
  | _ => .error .tooShort

/-- Two digits where at least two octets are left. -/
def twoDigitsOf (tens : Nat) (s : List Char) : Except Fault (Nat × List Char) :=
  match s with
  | [c] => if 2 ≤ c.utf8Size then .error .invalid else .error .tooShort
  | s => twoDigits tens s

/-- An offset from UTC in minutes: a letter, or a sign with hours and minutes. -/
def offset (s : List Char) : Except Fault (Int × List Char) :=
  match Text.trimStart s with
  | [] => .error .tooShort
  | c :: rest =>
    match (c :: rest).take 3 |>.map Char.toLower with
    | ['u', 't', 'c'] => .ok (0, rest.drop 2)
    | _ =>
      if c = 'Z' ∨ c = 'z' then .ok (0, rest)
      else if c = '+' ∨ c = '-' ∨ c = '\u2212' then do
        let (hours, rest) ← twoDigitsOf 10 rest
        let (minutes, rest) ← twoDigitsOf 6 (rest.dropWhile fun d => d = ':' || Text.isBlank d)
        let size : Int := (hours * 60 + minutes : Nat)
        .ok (if c = '+' then size else -size, rest)
      else .error .invalid

/-- The point in time that a text gives. -/
def ofChars (s : List Char) : Except Fault Timestamp := do
  let (year, s) ← year s
  let s ← mark '-' s
  let (month, s) ← bounded 2 1 12 s
  let s ← mark '-' s
  let (day, s) ← bounded 2 1 31 s
  let s ← match s with
    | [] => .error .tooShort
    | c :: rest => if c = 'T' ∨ c = 't' ∨ c = ' ' then .ok rest else .error .invalid
  let (hour, s) ← bounded 2 0 23 s
  let s ← mark ':' s
  let (minute, s) ← bounded 2 0 59 s
  let s ← mark ':' s
  let (second, s) ← bounded 2 0 60 s
  let (nanos, s) ← decimals s
  let (minutes, s) ← offset s
  if Text.trimStart s ≠ [] then .error .tooLong
  else
    let t : Timestamp := { date := ⟨year, month, day⟩, hour, minute, second, nanos }
    if !t.date.isValid || 24 * 60 ≤ minutes.natAbs then .error .outOfRange else t.atOffset minutes

/-- The point in time that a text gives. -/
def ofString (s : String) : Except Fault Timestamp := ofChars s.toList

/-! ## Writing -/

/-- A number with zeros before it. -/
def padded (width n : Nat) : String :=
  let ds := Nat.toDigits 10 n
  String.ofList (List.replicate (width - ds.length) '0' ++ ds)

/-- A year of four digits, or one with a sign. -/
def yearText (y : Int) : String :=
  if 0 ≤ y ∧ y ≤ 9999 then padded 4 y.toNat
  else (if y < 0 then "-" else "+") ++ padded 4 y.natAbs

/-- The decimals of a second: none, or as many groups of three as are needed. -/
def decimalsText (nanos : Nat) : String :=
  if nanos = 0 then ""
  else if nanos % 1000000 = 0 then "." ++ padded 3 (nanos / 1000000)
  else if nanos % 1000 = 0 then "." ++ padded 6 (nanos / 1000)
  else "." ++ padded 9 nanos

/-- The date. -/
def dateText (t : Timestamp) : String :=
  yearText t.date.year ++ "-" ++ padded 2 t.date.month ++ "-" ++ padded 2 t.date.day

/-- The time of day in whole seconds. -/
def timeText (t : Timestamp) : String := padded 2 t.hour ++ ":" ++ padded 2 t.minute ++ ":" ++ padded 2 t.second

/-- The text that is exchanged. -/
def text (t : Timestamp) : String := t.dateText ++ "T" ++ t.timeText ++ decimalsText t.nanos ++ "Z"

/-- The text that is shown. -/
def shown (t : Timestamp) : String := t.dateText ++ " " ++ t.timeText ++ " UTC"

end Timestamp

end ControlPlane
