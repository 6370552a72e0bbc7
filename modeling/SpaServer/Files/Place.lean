import SpaServer.Files.Node

/-!
# Places

Where a path leads once its links are resolved: to a place inside the working directory or to one
outside of it. The working directory stands alone in the directory `/tmp` of an otherwise empty file
system, under a name of which no more is known than its length. Wherever a text names a place, the
working directory itself is written `<CWD>`.

A path that begins with exactly two slashes keeps both of them; more than two are one. The two kinds
of paths lead to the same files, but as places they are told apart.
-/

namespace SpaServer

inductive Place
  /-- The path from the working directory. -/
  | inside (path : List Text)
  /-- The path from the root of the file system. -/
  | outside (path : List Text)
  /-- The path from the root of the file system, with two slashes at its beginning. -/
  | doubled (path : List Text)
  deriving DecidableEq

namespace Place

def home : Place := .inside []

/-- The path of the directory that the working directory stands in. -/
def above : List Text := ["tmp".toList]

def homeNameBytes : Nat := 11

/-- The directory above. The root of the file system is above itself. -/
def parent : Place → Place
  | .inside [] => .outside above
  | .inside (name :: rest) => .inside (name :: rest).dropLast
  | .outside path => .outside path.dropLast
  | .doubled path => .doubled path.dropLast

def child (name : Text) : Place → Place
  | .inside path => .inside (path ++ [name])
  | .outside path => .outside (path ++ [name])
  | .doubled path => .doubled (path ++ [name])

/-- The names from the working directory or from the root of the file system. -/
def path : Place → List Text
  | .inside path => path
  | .outside path => path
  | .doubled path => path

def base : Place → Place
  | .inside _ => .inside []
  | .outside _ => .outside []
  | .doubled _ => .doubled []

/-- Whether `other` is the place itself or lies below it. What places have in common is written with
one slash, so a place with two contains none. -/
def contains : Place → Place → Bool
  | .inside path, .inside other => path.isPrefixOf other
  | .outside path, .outside other => path.isPrefixOf other
  | .outside path, .doubled other => path.isPrefixOf other
  | _, _ => false

def name (place : Place) : Text := place.path.getLast?.getD []

/-- Follows names from the place without looking at any file: a dot and an empty name stay, two dots
go up. -/
def along (place : Place) (names : List Text) : Place :=
  names.foldl (fun here name =>
    if name = [] ∨ name = ['.'] then here
    else if name = ['.', '.'] then here.parent
    else here.child name) place

/-- Follows the rest of a path from the place without looking at any file. A rest that begins with a
slash starts from the root of the file system. -/
def written (place : Place) : List Text → Place
  | [] :: [] :: next :: rest =>
    if next = [] ∧ rest ≠ [] then (Place.outside []).along (next :: rest)
    else (Place.doubled []).along (next :: rest)
  | [] :: next :: rest => (Place.outside []).along (next :: rest)
  | names => place.along names

/-- The names on the way from the working directory to a path from the root. -/
def climb (path : List Text) : List Text :=
  if above.isPrefixOf path then "..".toList :: path.drop above.length
  else List.replicate (above.length + 1) "..".toList ++ path

/-- The path of the place from the working directory. -/
def relative : Place → Text
  | .inside [] => ".".toList
  | .inside path => ['/'].intercalate path
  | .outside path => ['/'].intercalate (climb path)
  | .doubled path => ['/'].intercalate (climb path)

/-- The path of the place from the root of the file system. -/
def absolute : Place → Text
  | .inside path => ['/'].intercalate ("<CWD>".toList :: path)
  | .outside path => '/' :: ['/'].intercalate path
  | .doubled path => '/' :: '/' :: ['/'].intercalate path

end Place

/-- What stands at the place. No link is followed. The directories above the working directory are
empty as far as they are known. -/
def Node.at? (tree : Node) : Place → Option Node
  | .inside path => tree.get? path
  | .outside path => if path.isPrefixOf Place.above then some .empty else none
  | .doubled path => if path.isPrefixOf Place.above then some .empty else none

end SpaServer
