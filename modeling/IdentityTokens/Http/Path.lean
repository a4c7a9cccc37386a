import IdentityTokens.Http.Percent

/-!
# Paths

The part of an address after the server: segments with a slash before each. Segments of one dot or
two stand for the place they are at or the one above. The first segment of a path to a file may name
a drive.

## Main definitions

* `Path.resolve`: segments without dots.
* `Path.ofText`: the written form of a path.
* `Path.ofFileText`: the same for a path to a file.
-/

namespace IdentityTokens.Path

/-! ## Segments -/

/-- A segment that stands for the place it is at. -/
def isDot (segment : List Char) : Bool :=
  [".", "%2e"].contains (String.ofList (segment.map Char.toLower))

/-- A segment that stands for the place above. -/
def isDoubleDot (segment : List Char) : Bool :=
  ["..", "%2e.", ".%2e", "%2e%2e"].contains (String.ofList (segment.map Char.toLower))

/-- Whether two characters name a drive. -/
def isDrive (letter mark : Char) : Bool := letter.isAlpha && (mark = ':' || mark = '|')

/-- Whether a segment names a drive, and nothing or a backslash follows. -/
def startsWithDrive : List Char → Bool
  | letter :: mark :: rest => isDrive letter mark && rest.head?.all (· = '\\')
  | _ => false

/-- The place above. A drive has none, and neither has the start. -/
def parent : List (List Char) → List (List Char)
  | [] => []
  | segment :: above => if startsWithDrive segment then segment :: above else above

/-- Segments of which those with dots are resolved. `above` holds the segments so far, the last one
first. Dots at the end leave an empty segment. -/
def resolve (above : List (List Char)) : List (List Char) → List (List Char)
  | [] => above.reverse
  | segment :: rest =>
    let dots := isDoubleDot segment || isDot segment
    let above :=
      if isDoubleDot segment then parent above
      else if isDot segment then above
      else segment :: above
    if rest.isEmpty && dots then ([] :: above).reverse else resolve above rest

/-- The characters of a path between its slashes, without the slash at its start. -/
def segments (isSlash : Char → Bool) (cs : List Char) : List (List Char) :=
  let cs := cs.map fun c => if isSlash c then '/' else c
  (match cs with
    | '/' :: rest => rest
    | cs => cs).splitOn '/'

/-- Segments with a slash before each. -/
def render (parts : List (List Char)) : String :=
  String.join (parts.map fun part => "/" ++ Percent.escape Percent.pathEscapes part)

/-- The written form of a path. -/
def ofText (isSlash : Char → Bool) (cs : List Char) : String :=
  render (resolve [] (segments isSlash cs))

/-! ## Files -/

/-- The first segment of a path that names a drive, with its mark a colon. More characters make a
segment of their own. -/
def splitDrive (letter mark : Char) (rest : List Char) : Option (List (List Char)) :=
  if !isDrive letter mark then none
  else if rest = [] then some [[letter, ':']]
  else if mark = ':' then some [[letter, ':'], rest]
  else none

/-- Segments of a path to a file with those of dots resolved, and whether the first one names a
drive and nothing else. -/
def resolveFile (above : List (List Char)) : List (List Char) → List (List Char) × Bool
  | [] => (above.reverse, false)
  | segment :: rest =>
    let dots := isDoubleDot segment || isDot segment
    let drive :=
      match above, segment with
      | [], letter :: mark :: more => splitDrive letter mark more
      | _, _ => none
    let above :=
      match drive with
      | some parts => parts.reverse
      | none =>
        if isDoubleDot segment then parent above
        else if isDot segment then above
        else segment :: above
    let (parts, named) :=
      if rest.isEmpty && dots then (([] :: above).reverse, false) else resolveFile above rest
    (parts, named || drive.any (·.length = 1))

/-- The written form of a path to a file, and whether it starts with a drive. Empty segments at the
start do not count. -/
def ofFileText (isSlash : Char → Bool) (cs : List Char) : String × Bool :=
  let (parts, named) := resolveFile [] (segments isSlash cs)
  let parts := parts.dropWhile (· = [])
  (if parts = [] then "/" else render parts, named)

end IdentityTokens.Path
