import ClusterConf.Text.Blank
set_option autoImplicit false

/-!
Points in time, and their texts: a date and a time of day with an offset, such as
`2001-02-03T04:05:06.5Z`.
-/
namespace ClusterConf

/-- Seconds since the start of 1970 and nanoseconds into the second. The nanoseconds of a leap
second go on past a thousand million. -/
structure Timestamp where
  seconds : Int
  nanos : Nat
  deriving DecidableEq, Inhabited

namespace Timestamp

def before (a b : Timestamp) : Bool :=
  a.seconds < b.seconds || (a.seconds == b.seconds && a.nanos < b.nanos)

def plusSeconds (t : Timestamp) (n : Int) : Timestamp := { t with seconds := t.seconds + n }

/-- A day of the Gregorian calendar, which is taken to hold for all years. -/
structure Date where
  year : Int
  month : Nat
  day : Nat
  deriving DecidableEq

/-- The days from the start of 1970 to a date. Years are counted from March, so that a leap day is
the last of its year. -/
def Date.toDays (d : Date) : Int :=
  let y := if d.month ≤ 2 then d.year - 1 else d.year
  let era := y.fdiv 400
  let yoe := y - era * 400
  let fromMarch : Int := (d.month + 9) % 12
  let doy := (153 * fromMarch + 2) / 5 + d.day - 1
  era * 146097 + yoe * 365 + yoe / 4 - yoe / 100 + doy - 719468

def Date.ofDays (days : Int) : Date :=
  let z := days + 719468
  let era := z.fdiv 146097
  let doe := z - era * 146097
  let yoe := (doe - doe / 1460 + doe / 36524 - doe / 146096) / 365
  let doy := doe - (365 * yoe + yoe / 4 - yoe / 100)
  let fromMarch := (5 * doy + 2) / 153
  let day := doy - (153 * fromMarch + 2) / 5 + 1
  let month := if fromMarch < 10 then fromMarch + 3 else fromMarch - 9
  let year := yoe + era * 400 + if month ≤ 2 then 1 else 0
  ⟨year, month.toNat, day.toNat⟩

def isLeapYear (y : Int) : Bool := y.emod 4 == 0 && (y.emod 100 != 0 || y.emod 400 == 0)

def daysInMonth (y : Int) (m : Nat) : Nat :=
  match m with
  | 2 => if isLeapYear y then 29 else 28
  | 4 | 6 | 9 | 11 => 30
  | _ => 31

/-- Whether the calendar goes as far as a year. -/
def isKnownYear (y : Int) : Bool := -262143 ≤ y && y ≤ 262142

/-- Whether there is such a day. -/
def Date.isValid (d : Date) : Bool :=
  isKnownYear d.year && 1 ≤ d.month && d.month ≤ 12 && 1 ≤ d.day &&
    d.day ≤ daysInMonth d.year d.month

def padded (width n : Nat) : String :=
  let digits := toString n
  "".pushn '0' (width - digits.length) ++ digits

/-- Years of four digits stand alone, others carry their sign. -/
def yearText (y : Int) : String :=
  if 0 ≤ y && y ≤ 9999 then padded 4 y.toNat
  else (if y < 0 then "-" else "+") ++ padded 4 y.natAbs

/-- The fraction of a second in as few groups of three digits as it takes. -/
def fractionText (nanos : Nat) : String :=
  if nanos = 0 then ""
  else if nanos % 1000000 = 0 then "." ++ padded 3 (nanos / 1000000)
  else if nanos % 1000 = 0 then "." ++ padded 6 (nanos / 1000)
  else "." ++ padded 9 nanos

/-- Date and time of day in UTC, without an offset. -/
def plainText (t : Timestamp) : String :=
  let day := t.seconds.fdiv 86400
  let second := (t.seconds - day * 86400).toNat
  let d := Date.ofDays day
  let leap := t.nanos / 1000000000
  yearText d.year ++ "-" ++ padded 2 d.month ++ "-" ++ padded 2 d.day ++ "T" ++
    padded 2 (second / 3600) ++ ":" ++ padded 2 (second / 60 % 60) ++ ":" ++
    padded 2 (second % 60 + leap) ++ fractionText (t.nanos % 1000000000)

/-- The text with a numeric offset. -/
def text (t : Timestamp) : String := t.plainText ++ "+00:00"

/-- The text with the letter for UTC. -/
def zuluText (t : Timestamp) : String := t.plainText ++ "Z"

/-- Blanks may stand in front of most parts. -/
def skipBlanks (cs : List Char) : List Char := cs.dropWhile Text.isBlank

def isDigit (c : Char) : Bool := '0' ≤ c && c ≤ '9'

def digitsValue (cs : List Char) : Nat := cs.foldl (fun n c => n * 10 + (c.toNat - '0'.toNat)) 0

/-- A number of at least one and at most `width` digits. -/
def number? (width : Nat) (cs : List Char) : Option (Nat × List Char) :=
  let digits := (cs.take width).takeWhile isDigit
  if digits.isEmpty then none else some (digitsValue digits, cs.drop digits.length)

/-- A year has at most four digits unless it has a sign. -/
def year? (cs : List Char) : Option (Int × List Char) :=
  match skipBlanks cs with
  | '-' :: rest => (number? rest.length rest).map fun (n, rest) => (-(n : Int), rest)
  | '+' :: rest => (number? rest.length rest).map fun (n, rest) => ((n : Int), rest)
  | cs => (number? 4 cs).map fun (n, rest) => ((n : Int), rest)

def twoDigits? (cs : List Char) : Option (Nat × List Char) := number? 2 (skipBlanks cs)

def mark? (c : Char) (cs : List Char) : Option (List Char) :=
  match skipBlanks cs with
  | d :: rest => if d = c then some rest else none
  | [] => none

/-- The fraction of a second: nine digits count, further ones are passed over. -/
def fraction? : List Char → Option (Nat × List Char)
  | '.' :: rest =>
    match number? 9 rest with
    | none => none
    | some (n, after) =>
      let taken := rest.length - after.length
      some (n * Nat.pow 10 (9 - taken), after.dropWhile isDigit)
  | cs => some (0, cs)

/-- The minutes of an offset: two digits after an optional colon. -/
def offsetMinutes? (cs : List Char) : Option (Nat × List Char) :=
  match cs.dropWhile fun c => c == ':' || Text.isBlank c with
  | a :: b :: rest =>
    if '0' ≤ a && a ≤ '5' && isDigit b then some (digitsValue [a, b], rest) else none
  | _ => none

/-- An offset from UTC in seconds: a letter, or a sign with hours and minutes. -/
def offset? (cs : List Char) : Option (Int × List Char) :=
  match cs with
  | 'Z' :: rest | 'z' :: rest => some (0, rest)
  | a :: b :: c :: rest =>
    if [a, b, c].map Char.toUpper == ['U', 'T', 'C'] then some (0, rest)
    else
      let sign? : Option Int :=
        if a = '+' then some 1 else if a = '-' || a = '−' then some (-1) else none
      match sign? with
      | none => none
      | some sign =>
        if isDigit b && isDigit c then
          match offsetMinutes? rest with
          | some (minutes, rest) =>
            let hours := digitsValue [b, c]
            if hours < 24 then some (sign * ((hours * 3600 + minutes * 60 : Nat) : Int), rest)
            else none
          | none => none
        else none
  | _ => none

/-- Reads a date, a `T` or blank, a time of day and an offset. Second 60 is the leap second. The
year has to be known both at the offset and in UTC. -/
def ofText? (text : String) : Option Timestamp := do
  let cs := text.toList
  let (year, cs) ← year? cs
  let cs ← mark? '-' cs
  let (month, cs) ← twoDigits? cs
  let cs ← mark? '-' cs
  let (day, cs) ← twoDigits? cs
  let cs ←
    match cs with
    | 'T' :: rest | 't' :: rest | ' ' :: rest => some rest
    | _ => none
  let (hour, cs) ← twoDigits? cs
  let cs ← mark? ':' cs
  let (minute, cs) ← twoDigits? cs
  let cs ← mark? ':' cs
  let (second, cs) ← twoDigits? cs
  let (nanos, cs) ← fraction? cs
  let (offset, cs) ← offset? (skipBlanks cs)
  let date : Date := ⟨year, month, day⟩
  if date.isValid && hour < 24 && minute < 60 && second ≤ 60 && (skipBlanks cs).isEmpty then
    let (second, nanos) := if second = 60 then (59, nanos + 1000000000) else (second, nanos)
    let ofDay : Nat := hour * 3600 + minute * 60 + second
    let seconds := date.toDays * 86400 + (ofDay : Int) - offset
    if isKnownYear (Date.ofDays (seconds.fdiv 86400)).year then return ⟨seconds, nanos⟩ else none
  else none

end Timestamp
end ClusterConf
