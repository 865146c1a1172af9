import FeatureFlags.Address.Escape
import FeatureFlags.Address.Ip

namespace FeatureFlags.Address

/-!
# Paths of addresses

A path is followed segment by segment from its root: a segment of one dot stays
where it is, a segment of two dots leaves the segment before. A segment that
names a drive is never left.
-/

/-- How the part after the scheme is read. -/
inductive SchemeKind where
  /-- A common scheme with a default port. -/
  | common (port : Nat)
  | file
  | other
deriving DecidableEq, Repr

/-- The kind of a scheme. -/
def schemeKind (scheme : String) : SchemeKind :=
  match scheme with
  | "http" => .common 80
  | "ws" => .common 80
  | "https" => .common 443
  | "wss" => .common 443
  | "ftp" => .common 21
  | "file" => .file
  | _ => .other

/-- Whether a backslash counts as a slash. -/
def SchemeKind.isSpecial : SchemeKind → Bool
  | .other => false
  | _ => true

/-- Whether a character separates the segments of a path. -/
def isSlash
    (kind : SchemeKind)
    (c : Char) :
    Bool :=
  c = '/' || (kind.isSpecial && c = '\\')

/-- Drop a slash at the front. -/
def dropSlash
    (kind : SchemeKind)
    (text : List Char) :
    List Char :=
  match text with
  | c :: rest => if isSlash kind c then rest else text
  | [] => []

/-- The segments of a path between slashes. -/
def segments
    (kind : SchemeKind)
    (path : List Char) :
    List (List Char) :=
  splitAt '/' (path.map fun c => if isSlash kind c then '/' else c)

/-! ## Segments with a meaning -/

/-- Whether a segment stands for the segment it is in. -/
def isHere (segment : String) : Bool :=
  segment = "." || segment = "%2e" || segment = "%2E"

/-- Whether a segment stands for the segment before. -/
def isAbove (segment : String) : Bool :=
  segment ∈ ["..", ".%2e", ".%2E", "%2e.", "%2E.", "%2e%2e", "%2e%2E", "%2E%2e", "%2E%2E"]

/-- Whether two characters name a drive. -/
def namesDrive (letter mark : Char) : Bool :=
  letter.isAlpha && (mark = ':' || mark = '|')

/-- Whether a segment is the name of a drive. -/
def isDrive (segment : List Char) : Bool :=
  match segment with
  | [letter, mark] => namesDrive letter mark
  | _ => false

/-- Whether a segment is the name of a drive, which a backslash may end. -/
def startsWithDrive (segment : List Char) : Bool :=
  match segment with
  | [letter, mark] => namesDrive letter mark
  | letter :: mark :: '\\' :: _ => namesDrive letter mark
  | _ => false

/-! ## Following a path -/

/-- Leave the last segment that is kept, unless it names a drive. -/
def leave (kept : List String) : List String :=
  match kept with
  | [] => []
  | last :: before => if startsWithDrive last.toList then last :: before else before

/--
Follow the segments of a path, what is kept so far being reversed. The drive at the
root of a file is written with a colon.
-/
def follow
    (kind : SchemeKind) :
    List String → List (List Char) → List String
  | kept, [] => kept
  | kept, segment :: rest =>
      let written := String.ofList (escape pathSet segment)
      if isAbove written then
        let above := leave kept
        if rest.isEmpty then "" :: above else follow kind above rest
      else if isHere written then
        if rest.isEmpty then "" :: kept else follow kind kept rest
      else if kind = .file ∧ kept.isEmpty ∧ isDrive segment then
        follow kind (String.ofList (segment.take 1 ++ [':']) :: kept) rest
      else
        follow kind (written :: kept) rest

/-- The segments of a path that are kept, the slash at its front being left out of the text. -/
def keptSegments
    (kind : SchemeKind)
    (path : List Char) :
    List String :=
  (follow kind [] (segments kind path)).reverse

/-- The printed form of kept segments; the path of a file starts with one slash only. -/
def writePath
    (kind : SchemeKind)
    (kept : List String) :
    String :=
  let kept := if kind = .file then kept.dropWhile String.isEmpty else kept
  "/" ++ "/".intercalate kept

/-- The printed form of a path, the slash at its front being left out of the text. -/
def readPath
    (kind : SchemeKind)
    (path : List Char) :
    String :=
  writePath kind (keptSegments kind path)

/-- The printed form of a path after an authority. -/
def readPathAfterAuthority
    (kind : SchemeKind)
    (path : List Char) :
    String :=
  if path.isEmpty ∧ !kind.isSpecial then "" else readPath kind (dropSlash kind path)

end FeatureFlags.Address
