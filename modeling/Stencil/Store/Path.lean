import Stencil.Text

/-!
# Paths

A path leads from the root of a file tree to a place in it. It is kept as the
names between its slashes, just as they were written: an empty name stands
between two slashes in a row, and an empty first or last name is a slash at that
end. A path starts at the root whether or not it is written with a slash there.
-/

namespace Stencil

/-- The names between the slashes of a path. -/
abbrev Path := List Text

namespace Path

/-- The path that a text stands for. -/
def ofText (text : Text) : Path :=
  let (first, others) := text.segments '/'
  first :: others

/-- Whether a path is written with a slash at its start. -/
def isAbsolute : Path → Bool
  | [] :: _ :: _ => true
  | _ => false

/-- A path below a directory. One that is written with a slash at its start is
not below any directory. -/
def below (directory path : Path) : Path :=
  if path.isAbsolute then path else directory ++ path

/-- Whether a name leads from a directory to itself. -/
def isIdle (name : Text) : Bool :=
  name == [] || name == ['.']

/-- Whether a name leads from a directory to the one that holds it. -/
def isUpward (name : Text) : Bool :=
  name == ['.', '.']

/-- The octets that a name can have at most. -/
def maxNameLength : Nat := 255

/-- The octets that a path can have at most. -/
def maxLength : Nat := 4095

/-- The number of octets of the path as it is written. -/
def length : Path → Nat
  | [] => 0
  | [last] => last.utf8Length
  | name :: rest => name.utf8Length + 1 + length rest

/-- Whether the path can lead anywhere: it is not too long and holds no null
character. -/
def isUsable (path : Path) : Bool :=
  path.length ≤ maxLength && path.all fun name => !name.contains '\x00'

/-- The idle names at the end of a path. -/
def idleEnd (path : Path) : Path :=
  path.reverse.takeWhile isIdle

/-- The path without the idle names at its end. -/
def trimmed (path : Path) : Path :=
  (path.reverse.dropWhile isIdle).reverse

/-- The path without its last name that is not idle. -/
def parent (path : Path) : Path :=
  trimmed (trimmed path).dropLast

/-- Whether the path is written with a dot behind its last name that is not
idle. -/
def endsInDot (path : Path) : Bool :=
  !path.idleEnd.all List.isEmpty

end Path
end Stencil
