import SpaServer.Files.Stat

/-!
# Lookups

A lookup takes the names of a path below the asset root and tells which asset stands there. What the
server does is defined over any lookup at all; `Node.lookup` is the lookup in a file tree, and
`Fault.guard` is a lookup that fails on purpose.
-/

namespace SpaServer

/-- The number of a system error. -/
abbrev Errno := Nat

inductive LookupError
  /-- The path cannot be given to the file system at all. -/
  | malformed
  | system (errno : Errno)
  deriving DecidableEq

/-- What an asset is, without its place. -/
inductive Entity
  | file (content : Bytes)
  | directory
  | other
  deriving DecidableEq

/-- Something that stands below the asset root, at its place with all links resolved. -/
structure Asset where
  place : Place
  entity : Entity
  deriving DecidableEq

/-- Finds the asset under a list of names, if there is one. -/
abbrev Lookup := List Text → Except LookupError (Option Asset)

/-! ### Lookups in a file tree -/

def nameTooLong : Errno := 36

def tooManyLinks : Errno := 40

def Node.entity : Node → Entity
  | .file content => .file content
  | .dir _ => .directory
  | .pipe => .other
  | .link _ => .other

/-- The lookup below the directory `root` of the working directory. A path that starts with a
backslash has no asset, nor has one whose real place is not below the real place of the root. -/
def Node.lookup (tree : Node) (root : Text) : Lookup := fun names =>
  if (names.head?.bind List.head?) = some '\\' then .ok none
  else if names.any (·.contains '\x00') then .error .malformed
  else
    let place := tree.realPlace (root :: names)
    if (tree.realPlace [root]).contains place then
      match tree.stat place with
      | .ok node => .ok (some ⟨place, node.entity⟩)
      | .error .missing => .ok none
      | .error .notDirectory => .ok none
      | .error .nameTooLong => .error (.system SpaServer.nameTooLong)
      | .error .tooManyLinks => .error (.system SpaServer.tooManyLinks)
    else .ok none

/-! ### Planted faults -/

/-- A failure of the lookup, everywhere or for one path only. -/
structure Fault where
  error : LookupError
  path : Option Text

def Fault.guard (fault : Fault) (lookup : Lookup) : Lookup := fun names =>
  if fault.path.all (· == ['/'].intercalate names) then .error fault.error else lookup names

end SpaServer
