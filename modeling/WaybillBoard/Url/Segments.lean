import WaybillBoard.Url.Basic

/-!
Segments of paths: a single dot names the same place and two dots the place above, also where the
dots are percent-encoded.
-/

namespace WaybillBoard.Url

/-- The dots that a segment consists of, if it does: `%2e` is one, too. -/
def dots? : List Char → Option Nat
  | [] => some 0
  | '.' :: cs => (dots? cs).map (· + 1)
  | '%' :: '2' :: e :: cs => if e = 'e' ∨ e = 'E' then (dots? cs).map (· + 1) else none
  | _ => none

/-- A letter with a colon or a bar, as at the beginning of paths on some systems. -/
def isDriveLetter : List Char → Bool
  | [c, d] => c.isAlpha && (d = ':' || d = '|')
  | _ => false

/-- The path above. A drive letter stays. -/
def parent (segments : List (List Char)) : List (List Char) :=
  if segments.getLast?.any isDriveLetter then segments else segments.dropLast

/-- The path after one more segment. At the end of a path, dots leave an empty segment. -/
def follow (isFile isLast : Bool) (path : List (List Char)) (segment : List Char) :
    List (List Char) :=
  match dots? segment with
  | some 2 => parent path ++ if isLast then [[]] else []
  | some 1 => path ++ if isLast then [[]] else []
  | _ =>
    if isFile && path.isEmpty && isDriveLetter segment then
      [segment.take 1 ++ [':']]
    else path ++ [segment]

/-- The path of segments as they were written. -/
def followAll (isFile : Bool) (path : List (List Char)) : List (List Char) → List (List Char)
  | [] => path
  | [segment] => follow isFile true path segment
  | segment :: rest => followAll isFile (follow isFile false path segment) rest

/-- File paths do not begin with empty segments, unless there is only one. -/
def dropEmptySegments : List (List Char) → List (List Char)
  | [] :: s :: rest => dropEmptySegments (s :: rest)
  | segments => segments

def settle (isFile : Bool) (segments : List (List Char)) : List (List Char) :=
  if isFile then dropEmptySegments segments else segments

/-- Without the empty segment at the end of a longer path. -/
def dropTrailingEmpty (segments : List (List Char)) : List (List Char) :=
  if 1 < segments.length ∧ segments.getLast? = some [] then segments.dropLast else segments

/-- The place for a new segment: a path that is a lone slash is replaced. -/
def beforeNew (segments : List (List Char)) : List (List Char) :=
  if segments = [[]] then [] else segments

/-- Adds a text as one segment. A lone `.` or `..` adds nothing. -/
def addSegment (scheme text : List Char) (segments : List (List Char)) : List (List Char) :=
  if text = ['.'] ∨ text = ['.', '.'] then segments
  else
    let reserved :=
      if isSpecialScheme scheme then Percent.inSpecialSegment else Percent.inSegment
    let encoded := Percent.encode reserved (text.filter (fun c => !isIgnored c))
    let isFile := isFileScheme scheme
    settle isFile (follow isFile true (beforeNew segments) encoded)

/-- The URL with segments added to its path. -/
def addSegments (u : Url) (texts : List (List Char)) : Url :=
  match u.path with
  | .opaqueText _ => u
  | .segments segments =>
    { u with
      path := .segments
        (texts.foldl (fun path text => addSegment u.scheme text path)
          (dropTrailingEmpty segments)) }

end WaybillBoard.Url
