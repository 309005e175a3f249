import RestCatalog.Document.Value

/-!
# Dates and times of day

Dates of the Gregorian calendar from year 1 on, and the times of day that may follow
them, with a check of their ranges and their written form.
-/

namespace RestCatalog.Document

def isLeapYear (year : Nat) : Bool := year % 4 = 0 && (year % 100 != 0 || year % 400 = 0)

def daysInMonth (year month : Nat) : Nat :=
  if month = 2 then (if isLeapYear year then 29 else 28)
  else if month = 4 || month = 6 || month = 9 || month = 11 then 30
  else 31

/-- What is wrong with a date, if anything. -/
def dateFault? (year month day : Nat) : Option String :=
  if year = 0 then some "year 0 is out of range"
  else if month = 0 || 12 < month then some "month must be in 1..12"
  else if day = 0 || daysInMonth year month < day then some "day is out of range for month"
  else none

/-- A time of day with its distance from universal time in minutes, if that is given. -/
structure DayTime where
  hour : Nat
  minute : Nat
  second : Nat
  microsecond : Nat := 0
  offset : Option Int := none

/-- What is wrong with a time of day, if anything. -/
def DayTime.fault? (time : DayTime) : Option String :=
  if 23 < time.hour then some "hour must be in 0..23"
  else if 59 < time.minute then some "minute must be in 0..59"
  else if 59 < time.second then some "second must be in 0..59"
  else none

/-- A number with at least `width` digits. -/
def padded (width n : Nat) : String :=
  let digits := Nat.toDigits 10 n
  String.ofList (List.replicate (width - digits.length) '0' ++ digits)

def dateText (year month day : Nat) : String :=
  padded 4 year ++ "-" ++ padded 2 month ++ "-" ++ padded 2 day

def DayTime.text (time : DayTime) : String :=
  padded 2 time.hour ++ ":" ++ padded 2 time.minute ++ ":" ++ padded 2 time.second ++
    (if time.microsecond = 0 then "" else "." ++ padded 6 time.microsecond) ++
    match time.offset with
    | none => ""
    | some offset =>
      (if offset < 0 then "-" else "+") ++ padded 2 (offset.natAbs / 60) ++ ":" ++
        padded 2 (offset.natAbs % 60)

end RestCatalog.Document
