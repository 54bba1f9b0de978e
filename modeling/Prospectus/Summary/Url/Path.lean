import Prospectus.Summary.Url.Parts
import Prospectus.Summary.Url.Percent

/-!
# Paths of addresses

A path is a list of segments.  Segments of dots are resolved, and a segment that
names a drive (a letter with a colon or a bar) is never left by going up.
-/

namespace Prospectus.Summary.Url

/-- Whether a segment stands for the directory itself. -/
def isDot (segment : List Char) : Bool :=
  segment = ['.'] || segment.map Char.toLower = ['%', '2', 'e']

/-- Whether a segment stands for the directory above. -/
def isDoubleDot (segment : List Char) : Bool :=
  [['.', '.'], ['.', '%', '2', 'e'], ['%', '2', 'e', '.'],
    ['%', '2', 'e', '%', '2', 'e']].contains
    (segment.map Char.toLower)

/-- Whether a segment names a drive. -/
def isDrive (segment : List Char) : Bool :=
  match segment with
  | [letter, mark] => letter.isAlpha && (mark = ':' || mark = '|')
  | _ => false

/-- Segments, given backwards, without the last one, unless that names a drive. -/
def goUp (done : List (List Char)) : List (List Char) :=
  match done with
  | last :: before => if isDrive last then done else before
  | [] => []

/-- Resolves dots; `done` holds the segments before, backwards. -/
def resolveDots (done : List (List Char)) : List (List Char) → List (List Char)
  | [] => done.reverse
  | segment :: rest =>
    let last := rest.isEmpty
    if isDoubleDot segment then resolveDots (if last then [] :: goUp done
      else goUp done) rest
    else if isDot segment then resolveDots (if last then [] :: done else done) rest
    else resolveDots (segment :: done) rest

/-- Segments as a path. -/
def pathText (segments : List (List Char)) : String :=
  String.ofList (segments.flatMap fun s => '/' :: encode pathSet s)

/-- The path of an address of a file: a drive at its start is written with a
colon and stands alone, and no empty segments precede the others. -/
def filePath (segments : List (List Char)) : String :=
  let segments := match segments with
    | [letter, '|'] :: rest =>
      if letter.isAlpha then [letter, ':'] :: rest else segments
    | (letter :: ':' :: c :: more) :: rest =>
      if letter.isAlpha then [letter, ':'] :: (c :: more) :: rest else segments
    | _ => segments
  let text := (pathText (resolveDots [] segments)).toList
  String.ofList ('/' :: text.dropWhile (· = '/'))

end Prospectus.Summary.Url
