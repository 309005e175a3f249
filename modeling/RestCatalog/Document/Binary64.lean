/-!
# Binary floating-point numbers

Numbers with 53 significant bits, as documents hold them, in exact integer
arithmetic.  `ofRatio` rounds a fraction to the nearest such number, a tie to the
even one, and `ofDecimal` reads a decimal numeral through it.  `text` writes the
shortest numeral that reads back as the same number.
-/

namespace RestCatalog.Document

/-- A floating-point number.  A finite one is `mantissa · 2 ^ exponent` with at most 53 bits
and an exponent of at least `-1074`; it has 53 bits unless the exponent is the least. -/
inductive Binary64 where
  | finite (negative : Bool) (mantissa : Nat) (exponent : Int)
  | infinite (negative : Bool)
  | nan
deriving DecidableEq, Repr

namespace Binary64

def zero (negative : Bool) : Binary64 := .finite negative 0 (-1074)

def powerOfTwo (n : Nat) : Nat := Nat.pow 2 n

def powerOfTen (n : Nat) : Nat := Nat.pow 10 n

/-- The quotient rounded to the nearest integer, a tie to the even one. -/
def roundedQuotient (numerator denominator : Nat) : Nat :=
  let quotient := numerator / denominator
  let twice := 2 * (numerator % denominator)
  if denominator < twice || (denominator == twice && quotient % 2 == 1) then quotient + 1
  else quotient

/-- A fraction `numerator / denominator · 2 ^ (-exponent)`, rounded to an integer. -/
def scaledQuotient (numerator denominator : Nat) (exponent : Int) : Nat :=
  if exponent < 0 then roundedQuotient (numerator * powerOfTwo (-exponent).toNat) denominator
  else roundedQuotient numerator (denominator * powerOfTwo exponent.toNat)

/-- The exponent at which a positive fraction has 53 integral bits, or the least one. -/
def fittingExponent (numerator denominator : Nat) : Int :=
  let guess : Int := (Nat.log2 numerator : Int) - (Nat.log2 denominator : Int) - 52
  let fits (e : Int) : Bool :=
    if e < 0 then denominator * powerOfTwo 52 ≤ numerator * powerOfTwo (-e).toNat
    else denominator * powerOfTwo e.toNat * powerOfTwo 52 ≤ numerator
  let best := if fits guess then guess else guess - 1
  if best < -1074 then -1074 else best

/-- The number nearest to a fraction. -/
def ofRatio (negative : Bool) (numerator denominator : Nat) : Binary64 :=
  if numerator = 0 then zero negative
  else
    let exponent := fittingExponent numerator denominator
    let rounded := scaledQuotient numerator denominator exponent
    let (mantissa, exponent) :=
      if rounded = powerOfTwo 53 then (powerOfTwo 52, exponent + 1) else (rounded, exponent)
    if 971 < exponent then .infinite negative else .finite negative mantissa exponent

/-- How many decimal digits a number has. -/
def digitCount (n : Nat) : Nat := (Nat.toDigits 10 n).length

/-- The number nearest to `digits · 10 ^ exponent`.  Exponents far outside the range of the
numbers are settled without computing the power. -/
def ofDecimal (negative : Bool) (digits : Nat) (exponent : Int) : Binary64 :=
  if digits = 0 then zero negative
  else if 400 < exponent + digitCount digits then .infinite negative
  else if exponent + digitCount digits < -400 then zero negative
  else if exponent < 0 then ofRatio negative digits (powerOfTen (-exponent).toNat)
  else ofRatio negative (digits * powerOfTen exponent.toNat) 1

/-- The number nearest to an integer. -/
def ofInt (n : Int) : Binary64 := ofRatio (n < 0) n.natAbs 1

/-- The exact value of a finite number as sign, numerator and denominator. -/
def toRatio? : Binary64 → Option (Bool × Nat × Nat)
  | .finite negative mantissa exponent =>
    if exponent < 0 then some (negative, mantissa, powerOfTwo (-exponent).toNat)
    else some (negative, mantissa * powerOfTwo exponent.toNat, 1)
  | _ => none

/-- The integer that a number without fraction is. -/
def toInt? (x : Binary64) : Option Int :=
  match x.toRatio? with
  | some (negative, numerator, denominator) =>
    if numerator % denominator = 0 then
      let size : Int := (numerator / denominator : Nat)
      some (if negative then -size else size)
    else none
  | none => none

/-- The sum of two numbers that are not negative, rounded. -/
def add (a b : Binary64) : Binary64 :=
  match a.toRatio?, b.toRatio? with
  | some (_, m, d), some (_, n, e) => ofRatio false (m * e + n * d) (d * e)
  | _, _ => .infinite false

/-- The product of two numbers that are not negative, rounded. -/
def mul (a b : Binary64) : Binary64 :=
  match a.toRatio?, b.toRatio? with
  | some (_, m, d), some (_, n, e) => ofRatio false (m * n) (d * e)
  | _, _ => .infinite false

/-- The number with the opposite sign. -/
def neg : Binary64 → Binary64
  | .finite negative mantissa exponent => .finite (!negative) mantissa exponent
  | .infinite negative => .infinite (!negative)
  | .nan => .nan

def isFinite : Binary64 → Bool
  | .finite .. => true
  | _ => false

def isZero : Binary64 → Bool
  | .finite _ mantissa _ => mantissa = 0
  | _ => false

/-- Equality of numbers: the two zeros are equal and what is no number differs from itself. -/
def sameNumber (a b : Binary64) : Bool :=
  match a, b with
  | .nan, _ => false
  | a, b => a = b || (a.isZero && b.isZero)

/-! ## The shortest numeral -/

/-- The decimal exponent of the leading digit: `10 ^ k ≤ numerator / denominator < 10 ^ (k + 1)`
for a positive fraction. -/
def leadingExponent (numerator denominator : Nat) : Int :=
  let guess : Int := (digitCount numerator : Int) - (digitCount denominator : Int)
  let reaches : Bool :=
    if guess < 0 then denominator ≤ numerator * powerOfTen (-guess).toNat
    else denominator * powerOfTen guess.toNat ≤ numerator
  if reaches then guess else guess - 1

/-- The decimals of `count` digits next to a positive number, the nearer one first, as digits
and exponent. -/
def decimalNeighbours (numerator denominator count : Nat) : List (Nat × Int) :=
  let exponent := leadingExponent numerator denominator - ((count : Int) - 1)
  let (top, bottom) :=
    if exponent < 0 then (numerator * powerOfTen (-exponent).toNat, denominator)
    else (numerator, denominator * powerOfTen exponent.toNat)
  let below := top / bottom
  let nearest := roundedQuotient top bottom
  let other := if nearest = below then below + 1 else below
  [(nearest, exponent), (other, exponent)]

/-- The fewest digits that read back as the positive number `x`, trying up to `fuel` more
digits than `count`. -/
def shortestDigits (x : Binary64) (numerator denominator : Nat) : Nat → Nat → Nat × Int
  | 0, count => ((decimalNeighbours numerator denominator count).headD (0, 0))
  | fuel + 1, count =>
    match (decimalNeighbours numerator denominator count).find? fun decimal =>
        ofDecimal false decimal.1 decimal.2 = x with
    | some decimal => decimal
    | none => shortestDigits x numerator denominator fuel (count + 1)

/-- Writes `digits · 10 ^ exponent`: positional if the leading digit stands between `10 ^ -4`
and `10 ^ 15`, else with an exponent of at least two digits. -/
def decimalText (digits : Nat) (exponent : Int) : String :=
  let figures := Nat.toDigits 10 digits
  let count := figures.length
  let point : Int := exponent + count
  if -4 < point && point ≤ 16 then
    if point ≤ 0 then
      "0." ++ String.ofList (List.replicate (-point).toNat '0' ++ figures)
    else if (count : Int) ≤ point then
      String.ofList (figures ++ List.replicate (point.toNat - count) '0') ++ ".0"
    else
      String.ofList (figures.take point.toNat ++ '.' :: figures.drop point.toNat)
  else
    let power := point - 1
    let powerFigures := Nat.toDigits 10 power.natAbs
    let fraction := figures.drop 1
    String.ofList (figures.take 1 ++ (if fraction.isEmpty then [] else '.' :: fraction)) ++ "e" ++
      (if power < 0 then "-" else "+") ++
      String.ofList (List.replicate (2 - powerFigures.length) '0' ++ powerFigures)

/-- Drops trailing zeros of the digits, at most `fuel` of them. -/
def trimZeros : Nat → Nat → Int → Nat × Int
  | 0, digits, exponent => (digits, exponent)
  | fuel + 1, digits, exponent =>
    if digits % 10 = 0 && digits != 0 then trimZeros fuel (digits / 10) (exponent + 1)
    else (digits, exponent)

/-- The shortest numeral that reads back as the number. -/
def text (x : Binary64) : String :=
  match x with
  | .nan => "nan"
  | .infinite negative => if negative then "-inf" else "inf"
  | .finite negative mantissa exponent =>
    (if negative then "-" else "") ++
      if mantissa = 0 then "0.0"
      else
        match (Binary64.finite false mantissa exponent).toRatio? with
        | none => "0.0"
        | some (_, numerator, denominator) =>
          let (digits, exponent) :=
            shortestDigits (.finite false mantissa exponent) numerator denominator 16 1
          let (digits, exponent) := trimZeros 20 digits exponent
          decimalText digits exponent

end Binary64

end RestCatalog.Document
