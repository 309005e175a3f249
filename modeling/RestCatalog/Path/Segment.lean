import RestCatalog.Path.Token

/-!
# Segments

The literals between two parameters of a path form a segment: `/A/{a}/B/c/{b}` has
the segments `A` and `B@c`.  A segment is raw, made of the texts as they are
written, or flat, made of the lower-case words.
-/

namespace RestCatalog

namespace TokenMap

/-- The literals that belong to the flat segment of a token: those after the parameter before
it, up to the token, a literal itself included. -/
def inSegmentOf (target token : PathToken) : Bool :=
  !token.isParameter && (target.parameterBefore.all fun level => level < token.level) &&
    (token.level < target.level || (!target.isParameter && token.level = target.level))

/-- The flat segment of a token. -/
def flatSegment (tokens : TokenMap) (target : PathToken) : String :=
  segmentSeparator.intercalate
    ((tokens.values.filter (inSegmentOf target)).flatMap PathToken.flatKeys)

/-- The segment of a token, flat or raw. -/
def segmentOf (tokens : TokenMap) (target : PathToken) (flat : Bool) : String :=
  if flat then tokens.flatSegment target else target.segment

/-- The segment at a level; empty if the path has no tokens. -/
def segmentAt (tokens : TokenMap) (level : Nat) (flat : Bool) : String :=
  match tokens.at? level with
  | some token => tokens.segmentOf token flat
  | none => ""

/-- The levels that end a segment: those of the parameters, and the end of a path whose last
element is none. -/
def segmentLevels (tokens : TokenMap) (path : Path) : List Nat :=
  (List.range (path.levels + 1)).filter fun level =>
    (tokens.values.any fun token => token.isParameter && token.level = level) ||
      (!path.endsInParameter && level = path.levels)

/-- All segments of a path, left to right. -/
def segments (tokens : TokenMap) (path : Path) (flat : Bool) : List String :=
  if tokens.isEmpty then []
  else (tokens.segmentLevels path).map fun level => tokens.segmentAt level flat

end TokenMap

end RestCatalog
