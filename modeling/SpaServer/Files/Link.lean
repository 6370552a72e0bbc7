import SpaServer.Files.Place

/-!
# Symbolic links

`realPlace` resolves the links of a path one after the other. It reads the path as it is written: a
name that leads nowhere stays in the path, and two dots take back whatever name stands before them.
A link that is met again while it is being followed stays as it is, with all that comes after it.
Every link is followed once: where it ends is kept for the next time that it is met.
-/

namespace SpaServer

def pathNames (path : Text) : List Text := path.splitOn '/'

/-- Where a link in the directory `here` starts from. -/
def linkBase (here : Place) (target : Text) : Place :=
  if target.head? = some '/' then .outside [] else here

namespace Node

inductive Resolved
  /-- All names are resolved. The list holds the links that were followed with their ends. -/
  | settled (place : Place) (ends : List (Place × Place))
  /-- A link was met again, and the place is what was left of the path as it is written. -/
  | looping (place : Place)

/-- Resolves names from `here`. The list `fresh` holds the places of the links that are not being
followed, and `ends` those of the links that were followed with the places where they end. -/
def resolve (tree : Node) (fresh : List Place) (ends : List (Place × Place)) (here : Place) :
    List Text → Resolved
  | [] => .settled here ends
  | name :: rest =>
    if name = [] ∨ name = ['.'] then tree.resolve fresh ends here rest
    else if name = ['.', '.'] then tree.resolve fresh ends here.parent rest
    else
      let next := here.child name
      match ends.lookup next, tree.at? next with
      | some place, _ => tree.resolve fresh ends place rest
      | none, some (.link target) =>
        if _known : next ∈ fresh then
          match tree.resolve (fresh.erase next) ends (linkBase here target) (pathNames target) with
          | .settled place ends => tree.resolve fresh ((next, place) :: ends) place rest
          | .looping place => .looping (place.written rest)
        else .looping (next.written rest)
      | none, _ => tree.resolve fresh ends next rest
  termination_by names => (fresh.length, names.length)
  decreasing_by
    · exact Prod.Lex.right _ (Nat.lt_succ_self _)
    · exact Prod.Lex.right _ (Nat.lt_succ_self _)
    · exact Prod.Lex.right _ (Nat.lt_succ_self _)
    · apply Prod.Lex.left
      rw [List.length_erase_of_mem _known]
      exact Nat.sub_lt (List.length_pos_of_mem _known) Nat.one_pos
    · exact Prod.Lex.right _ (Nat.lt_succ_self _)
    · exact Prod.Lex.right _ (Nat.lt_succ_self _)

/-- The place that names lead to from the working directory, links resolved. -/
def realPlace (tree : Node) (names : List Text) : Place :=
  match tree.resolve (tree.links.map .inside) [] .home names with
  | .settled place _ => place
  | .looping place => place

end Node

end SpaServer
