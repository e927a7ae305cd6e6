import Transducer.Text.CodePoint
import Transducer.Text.Lines

/-!
# Paths

A path as it is read, joined and written: repeated separators, single dots and separators at the end
do not count, double dots do.
-/

namespace Transducer

/-- Where a path starts. -/
inductive Root where
  /-- In the directory in which the program runs. -/
  | here
  /-- At the root of the disk. -/
  | top
  /-- At the root of the disk, written with two separators. -/
  | doubleTop
  deriving DecidableEq, Repr

/-- A path to a file or directory. -/
structure Path where
  root : Root
  /-- The names on the way, double dots included. -/
  parts : List Text
  deriving DecidableEq, Repr

namespace Path

/-- The root of a path that starts with the given number of separators. -/
def rootOf : Nat → Root
  | 0 => .here
  | 2 => .doubleTop
  | _ => .top

/-- What stands between two names. -/
def separator : CodePoint := '/'

/-- The path that a text names. -/
def ofText (text : Text) : Path where
  root := rootOf (text.takeWhile (· = separator)).length
  parts := (Text.splitAt separator text).filter fun part => part ≠ [] && part ≠ "."

/-- The text of a root. -/
def rootText : Root → Text
  | .here => ""
  | .top => "/"
  | .doubleTop => "//"

/-- The text of a path; the directory in which the program runs is a dot. -/
def text (p : Path) : Text :=
  if p.root = .here && p.parts.isEmpty then "."
  else rootText p.root ++ Text.join "/" p.parts

/-- Whether the path starts at the root of the disk. -/
def isAbsolute (p : Path) : Bool := p.root ≠ .here

/-- The second path as seen from the first; an absolute second path stays as it is. -/
def join (p q : Path) : Path :=
  if q.isAbsolute then q else { p with parts := p.parts ++ q.parts }

/-- The path without its last name. -/
def parent (p : Path) : Path := { p with parts := p.parts.dropLast }

/-- The last name of a path, empty if it has none. -/
def name (p : Path) : Text := p.parts.getLast?.getD []

/-- The last name without what follows its last dot, unless the dot is at either end. -/
def stem (p : Path) : Text :=
  let name := p.name
  let suffix := name.reverse.takeWhile (· ≠ .char '.')
  let head := name.take (name.length - suffix.length - 1)
  if suffix.isEmpty || suffix.length = name.length || head.isEmpty then name
  else head

end Path

end Transducer
