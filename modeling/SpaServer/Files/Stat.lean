import SpaServer.Files.Link
import SpaServer.Text.Utf8

/-!
# The walk of the file system

`stat` tells what a place leads to. Unlike the resolution of links it goes from directory to
directory: every name has to lead somewhere, each but the last to a directory, and at most
`maxLinks` links are followed. Names and whole paths may not be too long.
-/

namespace SpaServer.Node

def maxLinks : Nat := 40

def maxNameBytes : Nat := 255

def maxPathBytes : Nat := 4095

/-- Why a walk ends before its last name. -/
inductive StatError
  | missing
  | notDirectory
  | nameTooLong
  | tooManyLinks
  deriving DecidableEq

/-- What the names lead to from the directory `here`. -/
def walk (tree : Node) (budget : Nat) (here : Place) : List Text → Except StatError Node
  | [] => (tree.at? here).elim (.error .missing) .ok
  | name :: rest =>
    match tree.at? here with
    | none => .error .missing
    | some (.dir _) =>
      if name = [] ∨ name = ['.'] then tree.walk budget here rest
      else if name = ['.', '.'] then tree.walk budget here.parent rest
      else if maxNameBytes < name.utf8.length then .error .nameTooLong
      else
        match tree.at? (here.child name) with
        | none => .error .missing
        | some (.link target) =>
          match budget with
          | 0 => .error .tooManyLinks
          | budget + 1 => tree.walk budget (linkBase here target) (pathNames target ++ rest)
        | some _ => tree.walk budget (here.child name) rest
    | some _ => .error .notDirectory
  termination_by names => (budget, names.length)

/-- The bytes of names with a slash before each. -/
def namesBytes (names : List Text) : Nat := (Text.utf8 (names.flatMap ('/' :: ·))).length

/-- The bytes of the path of the place from the root of the file system. -/
def pathBytes : Place → Nat
  | .inside path => namesBytes Place.above + 1 + Place.homeNameBytes + namesBytes path
  | .outside path => namesBytes path
  | .doubled path => 1 + namesBytes path

/-- What stands at the place, links followed. -/
def stat (tree : Node) (place : Place) : Except StatError Node :=
  if maxPathBytes < pathBytes place then .error .nameTooLong
  else tree.walk maxLinks place.base place.path

def isDirectory (tree : Node) (place : Place) : Bool :=
  match tree.stat place with
  | .ok (.dir _) => true
  | _ => false

end SpaServer.Node
