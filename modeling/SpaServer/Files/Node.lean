import SpaServer.Text.Basic

/-!
# File trees

The files below the working directory: regular files, named pipes, symbolic links, and directories
of named entries. Paths are lists of names. Nothing in this module follows a link; `get?` is the
plain walk down a path, and `links` lists the places of all links.
-/

namespace SpaServer

/-- A file of any kind, with all that lies below it. -/
inductive Node
  | file (content : Bytes)
  | pipe
  | link (target : Text)
  | dir (entries : List (Text × Node))

namespace Node

def empty : Node := .dir []

/-- The entries of a directory; nothing else has any. -/
def entries : Node → List (Text × Node)
  | .dir entries => entries
  | _ => []

def child? (node : Node) (name : Text) : Option Node := node.entries.lookup name

def get? (node : Node) : List Text → Option Node
  | [] => some node
  | name :: rest =>
    match node.child? name with
    | some child => child.get? rest
    | none => none

/-- Puts an entry in the place of the one of its name, or last. -/
def setEntry (name : Text) (node : Node) : List (Text × Node) → List (Text × Node)
  | [] => [(name, node)]
  | entry :: rest =>
    if entry.1 = name then (name, node) :: rest else entry :: setEntry name node rest

/-- Puts a node in the place of whatever stood at the path. Directories on the way are made. -/
def insert (node : Node) : List Text → Node → Node
  | [], new => new
  | name :: rest, new =>
    let child := (node.child? name).getD empty
    .dir (setEntry name (child.insert rest new) node.entries)

def erase (node : Node) : List Text → Node
  | [] => node
  | [name] =>
    match node with
    | .dir entries => .dir (entries.filter fun entry => entry.1 != name)
    | other => other
  | name :: rest =>
    match node.child? name with
    | some child => .dir (setEntry name (child.erase rest) node.entries)
    | none => node

mutual

/-- The paths of the links of a node that stands at the path `here`. -/
def linksAt (here : List Text) : Node → List (List Text)
  | .file _ => []
  | .pipe => []
  | .link _ => [here]
  | .dir entries => linksBelow here entries

/-- The paths of the links of the entries of the directory at `here`. -/
def linksBelow (here : List Text) : List (Text × Node) → List (List Text)
  | [] => []
  | (name, node) :: rest => linksAt (here ++ [name]) node ++ linksBelow here rest

end

def links (tree : Node) : List (List Text) := linksAt [] tree

end Node

end SpaServer
