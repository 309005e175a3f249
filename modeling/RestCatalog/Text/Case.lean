import RestCatalog.Text.CaseTable

/-!
# Lower and upper case

Case mapping of whole texts in every script.  Lowering looks at the
neighbourhood of a character in one case only: a capital sigma that ends a word
becomes the final form.  Two characters grow when they are lowered or
raised: `U+0130` becomes `i` and a combining dot, and some small letters have an
upper-case image of two or three characters.
-/

namespace RestCatalog.Text

/-- Whether a code point lies in one of the runs. -/
def inRuns (runs : List (Nat × Nat)) (c : Char) : Bool :=
  runs.any fun run => run.1 ≤ c.toNat && c.toNat ≤ run.2

/-- The image of a character under the first run that lists it. -/
def caseImage (runs : List CaseRun) (c : Char) : Char :=
  match runs.find? (·.lists c.toNat) with
  | some run => Char.ofNat (run.imageOf c.toNat)
  | none => c

def isAsciiUpper (c : Char) : Bool := 'A' ≤ c && c ≤ 'Z'

def isAsciiLower (c : Char) : Bool := 'a' ≤ c && c ≤ 'z'

def isAsciiDigit (c : Char) : Bool := '0' ≤ c && c ≤ '9'

/-- The lower-case form of a character apart from its neighbours. -/
def lowerChar (c : Char) : List Char :=
  if c.toNat < 128 then
    [if isAsciiUpper c then Char.ofNat (c.toNat + 32) else c]
  else if c = '\u0130' then ['i', '\u0307']
  else [caseImage lowerRuns c]

/-- Whether the nearest character that is not skipped is a letter with case. -/
def meetsLetter (neighbours : List Char) : Bool :=
  match neighbours.dropWhile (inRuns caseIgnorableRuns) with
  | c :: _ => inRuns casedRuns c
  | [] => false

/-- Lowers a text of which `before` has been read, nearest character first. -/
def lowerFrom (before : List Char) : List Char → List Char
  | [] => []
  | c :: rest =>
    (if c = '\u03a3' && meetsLetter before && !meetsLetter rest then ['\u03c2'] else lowerChar c) ++
      lowerFrom (c :: before) rest

/-- The lower-case form of a text. -/
def lower (text : String) : String :=
  String.ofList (lowerFrom [] text.toList)

/-- The upper-case form of a character. -/
def upperChar (c : Char) : List Char :=
  if c.toNat < 128 then
    [if isAsciiLower c then Char.ofNat (c.toNat - 32) else c]
  else
    match upperExpansions.find? (·.1 == c.toNat) with
    | some (_, image) => image.map Char.ofNat
    | none => [caseImage upperRuns c]

/-- The upper-case form of a text. -/
def upper (text : String) : String :=
  String.ofList (text.toList.flatMap upperChar)

end RestCatalog.Text
