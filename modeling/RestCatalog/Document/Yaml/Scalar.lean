import RestCatalog.Document.Date
import RestCatalog.Document.Yaml.Source
import RestCatalog.Text.Quoted
import RestCatalog.Text.Words

/-!
# What scalars mean

A scalar without quotes and without a tag is read by its form: as nothing, a truth
value, a number, a date, the mark of a merged mapping or the mark of a default
value, and else as a text.  Digits may be grouped by underscores, and numbers to the
base 60 have colons between their digits.
-/

namespace RestCatalog.Document.Yaml

open Text (isAsciiDigit natOfDigits signed unsigned)

inductive ScalarKind where
  | null
  | bool
  | int
  | float
  | timestamp
  | merge
  | default
  | text
deriving DecidableEq, Repr

/-! ## Forms -/

def isGroupedDigit (c : Char) : Bool := isAsciiDigit c || c = '_'

/-- Whether a text is a non-empty run of a class. -/
def isRun (p : Char → Bool) (text : List Char) : Bool := !text.isEmpty && text.all p

/-- A digit and further ones that may be grouped. -/
def isGroupedRun : List Char → Bool
  | [] => false
  | c :: rest => isAsciiDigit c && rest.all isGroupedDigit

/-- Whether a part between colons is a number below 60 in one or two digits. -/
def isSixtieth : List Char → Bool
  | [c] => isAsciiDigit c
  | [c, d] => '0' ≤ c && c ≤ '5' && isAsciiDigit d
  | _ => false

def splitColons (text : List Char) : List (List Char) := Text.splitOn (· = ':') text

def looksLikeInt (text : List Char) : Bool :=
  let digits := (unsigned text).2
  match digits with
  | '0' :: 'b' :: rest => isRun (fun c => c = '0' || c = '1' || c = '_') rest
  | '0' :: 'x' :: rest => isRun (fun c => (Json.hexValue? c).isSome || c = '_') rest
  | '0' :: rest => rest.all fun c => ('0' ≤ c && c ≤ '7') || c = '_'
  | _ =>
    match splitColons digits with
    | whole :: parts => isGroupedRun whole && parts.all isSixtieth
    | [] => false

/-- An exponent with a sign, or nothing. -/
def isExponent : List Char → Bool
  | [] => true
  | c :: sign :: digits =>
    (c = 'e' || c = 'E') && (sign = '-' || sign = '+') && isRun isAsciiDigit digits
  | _ => false

/-- Decimals and an exponent. -/
def isFraction (text : List Char) : Bool := isExponent (text.dropWhile isGroupedDigit)

def infinityTexts : List String := [".inf", ".Inf", ".INF"]

def nanTexts : List String := [".nan", ".NaN", ".NAN"]

def looksLikeFloat (text : List Char) : Bool :=
  let number := (unsigned text).2
  let whole := number.takeWhile (· != '.')
  let behind := number.dropWhile (· != '.')
  match behind with
  | [] => false
  | _ :: fraction =>
    if infinityTexts.contains (String.ofList number) then true
    else if nanTexts.contains (String.ofList text) then true
    else if whole.isEmpty then
      number.length = text.length && (fraction.head?.any isAsciiDigit) && isFraction fraction
    else
      match splitColons whole with
      | [digits] => isGroupedRun digits && isFraction fraction
      | digits :: parts =>
        isGroupedRun digits && parts.all isSixtieth && fraction.all isGroupedDigit
      | [] => false

/-- A number of at least `least` and at most `most` digits, and what follows. -/
def digits? (least most : Nat) (text : List Char) : Option (Nat × List Char) :=
  let digits := (text.take most).takeWhile isAsciiDigit
  if digits.length < least then none else some (natOfDigits digits, text.drop digits.length)

/-- What follows a given character. -/
def expect? (c : Char) : List Char → Option (List Char)
  | [] => none
  | d :: rest => if c = d then some rest else none

/-- A date with one or two digits for month and day, and what follows. -/
def looseDate? (text : List Char) : Option ((Nat × Nat × Nat) × List Char) := do
  let (year, rest) ← digits? 4 4 text
  let (month, rest) ← digits? 1 2 (← expect? '-' rest)
  let (day, rest) ← digits? 1 2 (← expect? '-' rest)
  return ((year, month, day), rest)

def isSpaceOrTab (c : Char) : Bool := c = ' ' || c = '\t'

/-- The distance from universal time in minutes that ends a timestamp, or nothing. -/
def offset? (text : List Char) : Option (Option Int) :=
  match text.dropWhile isSpaceOrTab with
  | [] => if text.isEmpty then some none else none
  | ['Z'] => some (some 0)
  | sign :: rest => do
    if sign != '-' && sign != '+' then none
    let (hours, rest) ← digits? 1 2 rest
    let minutes ← match rest with
      | [] => some 0
      | ':' :: rest =>
        match digits? 2 2 rest with
        | some (minutes, []) => some minutes
        | _ => none
      | _ => none
    return some (signed (sign = '-') (60 * hours + minutes))

/-- The microseconds of a fraction of a second and what follows; later digits are dropped. -/
def microseconds (text : List Char) : Nat × List Char :=
  match text with
  | '.' :: rest =>
    let digits := (rest.takeWhile isAsciiDigit).take 6
    (natOfDigits (digits ++ List.replicate (6 - digits.length) '0'), rest.dropWhile isAsciiDigit)
  | _ => (0, text)

/-- The time of day behind a date. -/
def dayTime? (text : List Char) : Option DayTime := do
  let rest ← match text with
    | 'T' :: rest => some rest
    | 't' :: rest => some rest
    | c :: _ => if isSpaceOrTab c then some (text.dropWhile isSpaceOrTab) else none
    | [] => none
  let (hour, rest) ← digits? 1 2 rest
  let (minute, rest) ← digits? 2 2 (← expect? ':' rest)
  let (second, rest) ← digits? 2 2 (← expect? ':' rest)
  let (microsecond, rest) := microseconds rest
  let offset ← offset? rest
  return { hour, minute, second, microsecond, offset }

/-- A date, and the time of day behind it if there is one.  A date alone has two digits for
month and day unless `loose` allows fewer. -/
def timestamp? (loose : Bool) (text : List Char) :
    Option ((Nat × Nat × Nat) × Option DayTime) := do
  let (date, rest) ← looseDate? text
  if rest.isEmpty then
    if loose || text.length = 10 then return (date, none) else none
  else
    let time ← dayTime? rest
    return (date, some time)

def boolWords : List String :=
  ["yes", "Yes", "YES", "no", "No", "NO", "true", "True", "TRUE", "false", "False", "FALSE",
    "on", "On", "ON", "off", "Off", "OFF"]

def nullWords : List String := ["~", "null", "Null", "NULL", ""]

/-- What a scalar without quotes is read as. -/
def ScalarKind.ofText (text : String) : ScalarKind :=
  let chars := text.toList
  if nullWords.contains text then .null
  else if boolWords.contains text then .bool
  else if looksLikeFloat chars then .float
  else if looksLikeInt chars then .int
  else if text = "<<" then .merge
  else if text = "=" then .default
  else if (timestamp? false chars).isSome then .timestamp
  else .text

/-! ## Values -/

/-- The number that digits to a base write. -/
def intOfDigits (base : Nat) (digits : List Char) : Except Fault Nat :=
  let value? (c : Char) : Option Nat := (Json.hexValue? c).filter (· < base)
  if base = 10 && 4300 < digits.length then
    .error (.badScalar
      ("Exceeds the limit (4300 digits) for integer string conversion: value has " ++
      toString digits.length ++ " digits; use sys.set_int_max_str_digits() to increase the limit"))
  else
    match digits.foldlM (fun n c => (value? c).map (base * n + ·)) 0 with
    | some n =>
      if digits.isEmpty then .error (.badScalar (invalid base digits)) else .ok n
    | none => .error (.badScalar (invalid base digits))
where
  /-- The message for digits that are none. -/
  invalid (base : Nat) (digits : List Char) : String :=
    "invalid literal for int() with base " ++ toString base ++ ": " ++
      Text.quoted (String.ofList digits)

/-- The integer that a scalar writes. -/
def intValue (text : List Char) : Except Fault Int := do
  let (negative, digits) := unsigned (text.filter (· != '_'))
  let size ← match digits with
    | ['0'] => pure 0
    | '0' :: 'b' :: rest => intOfDigits 2 rest
    | '0' :: 'x' :: rest => intOfDigits 16 rest
    | '0' :: _ => intOfDigits 8 digits
    | _ =>
      if digits.contains ':' then do
        let parts ← (splitColons digits).mapM (intOfDigits 10)
        pure (parts.foldl (fun n part => 60 * n + part) 0)
      else intOfDigits 10 digits
  return signed negative size

/-- The number that a decimal numeral without sign writes. -/
def decimalValue (text : List Char) : Except Fault Binary64 :=
  let invalid : Except Fault Binary64 :=
    .error (.badScalar ("could not convert string to float: " ++ Text.quoted (String.ofList text)))
  let whole := text.takeWhile isAsciiDigit
  let rest := text.dropWhile isAsciiDigit
  let (decimals, rest) := match rest with
    | '.' :: behind => (behind.takeWhile isAsciiDigit, behind.dropWhile isAsciiDigit)
    | _ => ([], rest)
  let (power, rest) := Json.exponent? rest
  if (whole.isEmpty && decimals.isEmpty) || !rest.isEmpty then invalid
  else .ok (Binary64.ofDecimal false (natOfDigits (whole ++ decimals))
    (power.getD 0 - decimals.length))

/-- The sum of numbers to the base 60, the lowest first. -/
def sexagesimal : (base : Nat) → Binary64 → List Binary64 → Binary64
  | _, sum, [] => sum
  | base, sum, part :: rest =>
    sexagesimal (60 * base) (sum.add (part.mul (Binary64.ofInt base))) rest

/-- The floating-point number that a scalar writes. -/
def floatValue (text : List Char) : Except Fault Binary64 := do
  let lowered := (text.filter (· != '_')).flatMap Text.lowerChar
  let (negative, number) := unsigned lowered
  let size ←
    if number = ".inf".toList then pure (Binary64.infinite false)
    else if number = ".nan".toList then pure Binary64.nan
    else if number.contains ':' then do
      let parts ← (splitColons number).mapM decimalValue
      pure (sexagesimal 1 (Binary64.zero false) parts.reverse)
    else decimalValue number
  return if negative then size.neg else size

/-- What is wrong with a distance from universal time in minutes: it has to be less than a day.
The message gives it in days and seconds. -/
def offsetFault? (minutes : Int) : Option String :=
  if minutes.natAbs < 1440 then none
  else
    let seconds := minutes % 1440 * 60
    some ("offset must be a timedelta strictly between -timedelta(hours=24) and " ++
      "timedelta(hours=24), not datetime.timedelta(days=" ++ toString (minutes / 1440) ++
      (if seconds = 0 then "" else ", seconds=" ++ toString seconds) ++ ").")

/-- The date or moment that a scalar writes. -/
def timestampValue (text : List Char) : Except Fault Value :=
  match timestamp? true text with
  | none => .error .malformed
  | some ((year, month, day), none) =>
    match dateFault? year month day with
    | some message => .error (.badScalar message)
    | none => .ok (.date year month day)
  | some ((year, month, day), some time) =>
    match time.offset.bind offsetFault? <|> dateFault? year month day <|> time.fault? with
    | some message => .error (.badScalar message)
    | none => .ok (.moment (dateText year month day ++ "T" ++ time.text))

/-- Whether one of the words for true, in any letter case. -/
def isTrueWord (text : String) : Bool := ["yes", "true", "on"].contains (Text.lower text)

def isFalseWord (text : String) : Bool := ["no", "false", "off"].contains (Text.lower text)

/-- The value of a scalar that is read as a kind. -/
def ScalarKind.value (kind : ScalarKind) (text : String) : Except Fault Value :=
  match kind with
  | .null => .ok .null
  | .bool =>
    if isTrueWord text then .ok (.bool true)
    else if isFalseWord text then .ok (.bool false)
    else .error .malformed
  | .int => (intValue text.toList).map .int
  | .float => (floatValue text.toList).map .float
  | .timestamp => timestampValue text.toList
  | .text => .ok (.text text)
  | .merge => .error .malformed
  | .default => .error .malformed

end RestCatalog.Document.Yaml
