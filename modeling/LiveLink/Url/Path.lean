import LiveLink.Url.Pairs

/-!
# Paths

A path is a list of segments, each written behind a slash, or an opaque text.
Segments of one dot stand for nothing and segments of two dots take back the
segment before them; a dot may be percent encoded. A drive letter is never taken
back. In a file URL the path may start with a drive letter, which is kept with a
colon, and empty segments at the start do not count.
-/

namespace LiveLink.Url

/-- The path of a URL. -/
inductive Path where
  | segments (list : List String)
  | opaqueText (s : String)
  deriving DecidableEq

namespace Path

/-- A path as it is written. -/
def write : Path → String
  | segments l => String.join (l.map ("/" ++ ·))
  | opaqueText s => s

/-- Whether a segment stands for one dot. -/
def isDot (s : List Char) : Bool :=
  let s := s.map Char.toLower
  s = ['.'] || s = ['%', '2', 'e']

/-- Whether a segment stands for two dots. -/
def isDoubleDot (s : List Char) : Bool :=
  isDot (s.take 1) && isDot (s.drop 1) || isDot (s.take 3) && isDot (s.drop 3)

/-- A drive letter: a letter and a colon or a bar. -/
def isDrive : List Char → Bool
  | [a, b] => a.isAlpha && (b = ':' || b = '|')
  | _ => false

/-- A segment as it is kept: percent encoded, a drive letter with a colon if `drive`. -/
def keep (drive : Bool) (s : List Char) : List Char :=
  if drive && isDrive s then s.take 1 ++ [':'] else percentEncode pathSet s

/-- Takes back the last segment, which comes first here. -/
def back : List (List Char) → List (List Char)
  | [] => []
  | s :: stack => if isDrive s then s :: stack else stack

/-- Resolves the dots among segments. The first list holds what is kept so far, last first. -/
def resolve (file : Bool) : List (List Char) → List (List Char) → List (List Char)
  | stack, [] => stack.reverse
  | stack, s :: rest =>
    if isDoubleDot s || isDot s then
      let stack := if isDoubleDot s then back stack else stack
      -- dots at the end leave a slash there
      if rest.isEmpty then ([] :: stack).reverse else resolve file stack rest
    else resolve file (keep (file && stack.isEmpty) s :: stack) rest

/-- Segments without the empty ones at the start; one is left if there are no others. -/
def trimEmpty (l : List (List Char)) : List (List Char) :=
  match l.dropWhile List.isEmpty with
  | [] => [[]]
  | l => l

/-- The segments of a text between slashes; a slash at the start is not counted. -/
def split (cs : List Char) : List (List Char) :=
  Text.splitAt '/' (if cs.head? = some '/' then cs.drop 1 else cs)

/-- The path that segments make. -/
def ofSegments (l : List (List Char)) : Path := segments ((resolve false [] l).map String.ofList)

/-- The path that segments make in a file URL, and whether it starts with a drive letter. -/
def ofFileSegments (l : List (List Char)) : Path × Bool :=
  let l := resolve true [] l
  (segments ((trimEmpty l).map String.ofList), l.head?.any isDrive)

/-- The opaque path of a text. -/
def ofOpaque (cs : List Char) : Path :=
  opaqueText (String.ofList (percentEncode controlSet cs))

end Path

end LiveLink.Url
