import PrinterRoster.Text.Fields
import PrinterRoster.Text.Numeral

/-! Moments of universal time, as they are written into stored files. Writing
gives a date, the letter `T`, a time with as much of a fraction as it needs, and
the letter `Z`. Reading also takes blanks between the parts, years and fractions
of any number of digits, and times of other zones, which it brings to universal
time. -/
namespace PrinterRoster
open Text

def isLeapYear (year : Int) : Bool := year % 4 == 0 && (year % 100 != 0 || year % 400 == 0)

def daysInMonth (year : Int) (month : Nat) : Nat :=
  if month = 2 then if isLeapYear year then 29 else 28
  else if month = 4 || month = 6 || month = 9 || month = 11 then 30
  else 31

def isCalendarDay (year : Int) (month day : Nat) : Bool :=
  -262143 ≤ year && year ≤ 262142 && 1 ≤ month && month ≤ 12 && 1 ≤ day && day ≤ daysInMonth year month

def isTimeOfDay (hour minute second nanos : Nat) : Bool :=
  hour < 24 && minute < 60 && second ≤ 60 && nanos < 1000000000

structure Stamp where
  year : Int
  month : Nat
  day : Nat
  hour : Nat
  minute : Nat
  second : Nat
  nanos : Nat
  isDay : isCalendarDay year month day = true
  isTime : isTimeOfDay hour minute second nanos = true
deriving DecidableEq

namespace Stamp

instance : Inhabited Stamp := ⟨⟨1970, 1, 1, 0, 0, 0, 0, by decide, by decide⟩⟩

def ofNumbers? (year : Int) (month day hour minute second nanos : Nat) : Option Stamp :=
  if isDay : isCalendarDay year month day = true then
    if isTime : isTimeOfDay hour minute second nanos = true then
      some ⟨year, month, day, hour, minute, second, nanos, isDay, isTime⟩
    else none
  else none

def shiftedDay (year : Int) (month day : Nat) (days : Int) : Int × Nat × Nat :=
  if days < 0 then
    if day > 1 then (year, month, day - 1)
    else if month > 1 then (year, month - 1, daysInMonth year (month - 1))
    else (year - 1, 12, 31)
  else if days > 0 then
    if day < daysInMonth year month then (year, month, day + 1)
    else if month < 12 then (year, month + 1, 1)
    else (year + 1, 1, 1)
  else (year, month, day)

/-- The moment at which clocks that run ahead by some minutes, less than a day of
them, show a stamp. -/
def aheadBy? (shown : Stamp) (minutes : Int) : Option Stamp :=
  let total := (shown.hour * 60 + shown.minute : Int) - minutes
  let (year, month, day) := shiftedDay shown.year shown.month shown.day (total / 1440)
  let rest := (total % 1440).toNat
  ofNumbers? year month day (rest / 60) (rest % 60) shown.second shown.nanos

def yearText (year : Int) : List Char :=
  if 0 ≤ year ∧ year ≤ 9999 then Decimal.padded 4 year.toNat
  else (if year < 0 then '-' else '+') :: Decimal.padded 4 year.natAbs

def fractionText (nanos : Nat) : List Char :=
  if nanos = 0 then []
  else if nanos % 1000000 = 0 then '.' :: Decimal.padded 3 (nanos / 1000000)
  else if nanos % 1000 = 0 then '.' :: Decimal.padded 6 (nanos / 1000)
  else '.' :: Decimal.padded 9 nanos

def chars (stamp : Stamp) : List Char :=
  yearText stamp.year ++ '-' :: Decimal.padded 2 stamp.month ++ '-' :: Decimal.padded 2 stamp.day ++
    'T' :: Decimal.padded 2 stamp.hour ++ ':' :: Decimal.padded 2 stamp.minute ++
      ':' :: Decimal.padded 2 stamp.second ++ fractionText stamp.nanos ++ ['Z']

def text (stamp : Stamp) : String := String.ofList stamp.chars

def readDigits? (limit : Nat) (text : List Char) : Option (Nat × List Char) :=
  let digits := (text.take limit).takeWhile Char.isDigit
  (Decimal.value? digits).map fun value => (value, text.drop digits.length)

def readPair? (text : List Char) : Option (Nat × List Char) := readDigits? 2 (trimLeft text)

def readYear? (text : List Char) : Option (Int × List Char) :=
  match trimLeft text with
  | '-' :: rest => (readDigits? rest.length rest).map fun (value, rest) => (-(value : Int), rest)
  | '+' :: rest => (readDigits? rest.length rest).map fun (value, rest) => ((value : Int), rest)
  | rest => (readDigits? 4 rest).map fun (value, rest) => ((value : Int), rest)

def afterMark? (mark : Char) (text : List Char) : Option (List Char) :=
  match trimLeft text with
  | c :: rest => if c = mark then some rest else none
  | [] => none

/-- Reads a fraction of a second if there is one. Digits after the ninth do not count. -/
def readFraction? : List Char → Option (Nat × List Char)
  | '.' :: rest =>
    let digits := (rest.takeWhile Char.isDigit).take 9
    (Decimal.value? digits).map fun value =>
      (value * Nat.pow 10 (9 - digits.length), rest.dropWhile Char.isDigit)
  | text => some (0, text)

def readTwoDigits? : List Char → Option (Nat × List Char)
  | tens :: units :: rest => (Decimal.value? [tens, units]).map (·, rest)
  | _ => none

def readHoursMinutes? (text : List Char) : Option (Nat × List Char) := do
  let (hours, rest) ← readTwoDigits? text
  let (minutes, rest) ← readTwoDigits? (rest.dropWhile fun c => c == ':' || isBlank c)
  if hours < 24 && minutes < 60 then return (hours * 60 + minutes, rest) else none

def readZone? (text : List Char) : Option (Int × List Char) :=
  if (text.take 3).map Char.toUpper = ['U', 'T', 'C'] then some (0, text.drop 3)
  else
    match text with
    | c :: rest =>
      if c = 'Z' || c = 'z' then some (0, rest)
      else if c = '+' then (readHoursMinutes? rest).map fun (minutes, rest) => ((minutes : Int), rest)
      else if c = '-' || c = '−' then
        (readHoursMinutes? rest).map fun (minutes, rest) => (-(minutes : Int), rest)
      else none
    | [] => none

def afterSeparator? : List Char → Option (List Char)
  | c :: rest => if c = 'T' || c = 't' || c = ' ' then some rest else none
  | [] => none

def ofChars? (text : List Char) : Option Stamp := do
  let (year, rest) ← readYear? text
  let (month, rest) ← readPair? (← afterMark? '-' rest)
  let (day, rest) ← readPair? (← afterMark? '-' rest)
  let (hour, rest) ← readPair? (← afterSeparator? rest)
  let (minute, rest) ← readPair? (← afterMark? ':' rest)
  let (second, rest) ← readPair? (← afterMark? ':' rest)
  let (nanos, rest) ← readFraction? rest
  let (ahead, rest) ← readZone? (trimLeft rest)
  let shown ← ofNumbers? year month day hour minute second nanos
  if (trimLeft rest).isEmpty then shown.aheadBy? ahead else none

def parse? (text : String) : Option Stamp := ofChars? text.toList

end Stamp

end PrinterRoster
