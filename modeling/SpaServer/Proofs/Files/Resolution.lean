import SpaServer.Files.Link
import SpaServer.Proofs.Files.Walk

/-!
# What the resolution of links ends with

If no link is met again, `Node.resolve` ends with a straight place: no link is left on the way to
it. The invariant is carried through the list of links that were followed, each of which is kept
with a straight place, since that place is used again without being looked at.

If a link is met again nothing of the kind holds. What is left of the path is taken as it is
written, and it may name links that were never followed.
-/

namespace SpaServer.Node

variable {tree : Node}

/-! ### Straight places -/

variable (tree) in
/-- Whether no link stands at the place or on the way to it. -/
def IsStraight (place : Place) : Prop := tree.Straight place.base place.path

theorem isStraight_home : tree.IsStraight .home := trivial

theorem isStraight_child {here : Place} {name : Text} (hhere : tree.IsStraight here)
    (hproper : ProperName name) (hplain : tree.NoLinkAt (here.child name)) :
    tree.IsStraight (here.child name) := by
  have hbase : (here.child name).base = here.base := by cases here <;> rfl
  have hpath : (here.child name).path = here.path ++ [name] := by cases here <;> rfl
  rw [IsStraight, hbase, hpath, straight_append, here.base_down_path]
  exact ⟨hhere, hproper, hplain, trivial⟩

theorem isStraight_parent {here : Place} (hhere : tree.IsStraight here) :
    tree.IsStraight here.parent := by
  cases here with
  | inside path =>
      cases path with
      | nil =>
          have hproper : ProperName "tmp".toList := ⟨by decide, by decide, by decide⟩
          refine ⟨hproper, tree.noLinkAt_of_not_inside ?_, trivial⟩
          simp [Place.child, Place.parent, Place.base]
      | cons name rest => exact straight_dropLast hhere
  | outside path => exact straight_dropLast hhere
  | doubled path => exact straight_dropLast hhere

theorem isStraight_linkBase {here : Place} {target : Text} (hhere : tree.IsStraight here) :
    tree.IsStraight (linkBase here target) := by
  rw [linkBase]
  split
  · trivial
  · exact hhere

theorem at?_of_stat {place : Place} {node : Node} (hplace : tree.IsStraight place)
    (hstat : tree.stat place = .ok node) : tree.at? place = some node := by
  rw [stat] at hstat
  split at hstat
  · simp at hstat
  · rw [← place.base_down_path]
    exact ((walk_straight hplace).1 hstat).2

/-! ### Steps -/

/-- A proper name that is no link stays in the path. -/
theorem resolve_down {fresh : List Place} {ends : List (Place × Place)} {here : Place}
    {name : Text} {rest : List Text} (hproper : ProperName name)
    (hnew : ends.lookup (here.child name) = none) (hplain : tree.NoLinkAt (here.child name)) :
    tree.resolve fresh ends here (name :: rest) =
      tree.resolve fresh ends (here.child name) rest := by
  rw [resolve, if_neg hproper.not_stay, if_neg hproper.ne_dots]
  simp only [hnew]
  cases hnext : tree.at? (here.child name) with
  | none => rfl
  | some node =>
      cases node with
      | link target => exact absurd hnext (hplain target)
      | _ => rfl

/-! ### The invariant -/

variable (tree) in
/-- Whether the list holds links, each with a straight place where it ends. -/
def SoundEnds (ends : List (Place × Place)) : Prop :=
  ∀ entry ∈ ends, ¬tree.NoLinkAt entry.1 ∧ tree.IsStraight entry.2

theorem SoundEnds.lookup {ends : List (Place × Place)} (hends : tree.SoundEnds ends)
    {link place : Place} (hlookup : ends.lookup link = some place) :
    ¬tree.NoLinkAt link ∧ tree.IsStraight place := by
  rw [List.lookup_eq_some_iff] at hlookup
  obtain ⟨front, back, hsplit, _⟩ := hlookup
  exact hends (link, place) (by rw [hsplit]; simp)

/-- **Resolution that ends without meeting a link again ends at a straight place.** -/
theorem resolve_settled {fresh : List Place} {ends ends' : List (Place × Place)}
    {here place : Place} {names : List Text} (hends : tree.SoundEnds ends)
    (hhere : tree.IsStraight here)
    (hresolve : tree.resolve fresh ends here names = .settled place ends') :
    tree.IsStraight place ∧ tree.SoundEnds ends' := by
  fun_induction Node.resolve tree fresh ends here names generalizing place ends' with
  | case1 fresh ends here =>
      obtain ⟨rfl, rfl⟩ := Resolved.settled.inj hresolve
      exact ⟨hhere, hends⟩
  | case2 fresh ends here name rest hname ih => exact ih hends hhere hresolve
  | case3 fresh ends here rest hname ih => exact ih hends (isStraight_parent hhere) hresolve
  | case4 fresh ends here name rest hname hdots next cached hcached =>
      rename_i ih
      exact ih hends (hends.lookup hcached).2 hresolve
  | case5 fresh ends here name rest hname hdots next target hlink _ _ end' ends'' hinner =>
      rename_i ihlink ihrest
      obtain ⟨hend, hends''⟩ := ihlink hends (isStraight_linkBase hhere) hinner
      refine ihrest ?_ hend hresolve
      intro entry hentry
      rcases List.mem_cons.1 hentry with rfl | hentry
      · exact ⟨fun hplain => hplain target hlink, hend⟩
      · exact hends'' entry hentry
  | case6 => simp at hresolve
  | case7 => simp at hresolve
  | case8 fresh ends here name rest hname hdots next _ hplain =>
      rename_i ih
      rw [not_or] at hname
      exact ih hends (isStraight_child hhere ⟨hname.1, hname.2, hdots⟩ hplain) hresolve

end SpaServer.Node
