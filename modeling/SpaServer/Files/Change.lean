import SpaServer.Files.Stat

/-!
# Changes of a file tree

Files are put and removed by the text of their path. Links before the last name are followed; what
stands under the last name is replaced or taken away itself, with all that lies below it.
-/

namespace SpaServer.Node

/-- The place of a path whose last name is not resolved. -/
def entryPlace (tree : Node) (path : Text) : Place :=
  match (pathNames path).getLast? with
  | some name => (tree.realPlace (pathNames path).dropLast).child name
  | none => .home

/-- Puts a node at a path, through the links before its last name. A directory that is there
already, or a link to one, is kept when a directory is put. -/
def put (tree : Node) (path : Text) (node : Node) : Node :=
  match tree.entryPlace path with
  | .inside names =>
    match node with
    | .dir _ => if tree.isDirectory (.inside names) then tree else tree.insert names node
    | _ => tree.insert names node
  | _ => tree

/-- Takes away what stands at a path, with all that lies below it. -/
def remove (tree : Node) (path : Text) : Node :=
  match tree.entryPlace path with
  | .inside names => tree.erase names
  | _ => tree

end SpaServer.Node
