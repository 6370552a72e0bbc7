import SpaServer.Proofs.Files.Resolution

/-!
# Where the names of a place come from

Resolving links and walking to a file both go from place to place, and a name that they add is one
of the path that was asked for or one that stands in the target of a link. So a property of names
that holds of all of these, and of the directories above the working directory, holds of every name
of the place where they end. It makes no difference whether a link was met again on the way.
-/

namespace SpaServer

namespace Place

def All (P : Text → Prop) (place : Place) : Prop := ∀ name ∈ place.path, P name

variable {P : Text → Prop} {place : Place}

theorem path_child (place : Place) (name : Text) : (place.child name).path = place.path ++ [name] := by
  cases place <;> rfl

theorem all_base (place : Place) : place.base.All P := by
  cases place <;> simp [All, base, path]

theorem All.child {name : Text} (hplace : place.All P) (hname : P name) :
    (place.child name).All P := by
  intro other hother
  rw [path_child, List.mem_append, List.mem_singleton] at hother
  rcases hother with hother | rfl
  · exact hplace other hother
  · exact hname

/-- Only the way up from the working directory leads to other names. -/
theorem All.parent (habove : ∀ name ∈ above, P name) (hplace : place.All P) :
    place.parent.All P := by
  cases place with
  | inside path =>
      cases path with
      | nil => exact habove
      | cons name rest => exact fun other hother => hplace other (List.dropLast_subset _ hother)
  | outside path => exact fun other hother => hplace other (List.dropLast_subset _ hother)
  | doubled path => exact fun other hother => hplace other (List.dropLast_subset _ hother)

theorem All.along (habove : ∀ name ∈ above, P name) {names : List Text} (hplace : place.All P)
    (hnames : ∀ name ∈ names, P name) : (place.along names).All P := by
  induction names generalizing place with
  | nil => exact hplace
  | cons name names ih =>
      obtain ⟨hname, hnames⟩ := List.forall_mem_cons.1 hnames
      rw [Place.along, List.foldl_cons]
      refine ih ?_ hnames
      split
      · exact hplace
      · split
        · exact hplace.parent habove
        · exact hplace.child hname

theorem All.written (habove : ∀ name ∈ above, P name) {names : List Text} (hplace : place.All P)
    (hnames : ∀ name ∈ names, P name) : (place.written names).All P := by
  rw [Place.written.eq_def]
  split
  · have hrest := (List.forall_mem_cons.1 (List.forall_mem_cons.1 hnames).2).2
    split
    · exact All.along habove (all_base (.outside [])) hrest
    · exact All.along habove (all_base (.doubled [])) hrest
  · exact All.along habove (all_base (.outside [])) (List.forall_mem_cons.1 hnames).2
  · exact All.along habove hplace hnames

theorem All.linkBase (target : Text) (hplace : place.All P) : (linkBase place target).All P := by
  rw [SpaServer.linkBase]
  split
  · exact all_base (.outside [])
  · exact hplace

end Place

namespace Node

variable {tree : Node} {P : Text → Prop}

/-- Whether every name that can be met besides those of a path has the property. -/
structure Carries (tree : Node) (P : Text → Prop) : Prop where
  above : ∀ name ∈ Place.above, P name
  links : ∀ place target, tree.at? place = some (.link target) →
    ∀ name ∈ pathNames target, P name

/-- Whether all names of the end of a resolution have the property, and those of the ends of the
links that were followed. -/
def Resolved.All (P : Text → Prop) : Resolved → Prop
  | .settled place ends => place.All P ∧ ∀ entry ∈ ends, entry.2.All P
  | .looping place => place.All P

theorem all_of_lookup {ends : List (Place × Place)} (hends : ∀ entry ∈ ends, entry.2.All P)
    {link place : Place} (hlookup : ends.lookup link = some place) : place.All P := by
  rw [List.lookup_eq_some_iff] at hlookup
  obtain ⟨front, back, hsplit, _⟩ := hlookup
  exact hends (link, place) (by rw [hsplit]; simp)

theorem resolve_all (hcarries : tree.Carries P) {fresh : List Place} {ends : List (Place × Place)}
    {here : Place} {names : List Text} (hends : ∀ entry ∈ ends, entry.2.All P)
    (hhere : here.All P) (hnames : ∀ name ∈ names, P name) :
    (tree.resolve fresh ends here names).All P := by
  -- The ends of links are carried along, since a link that is met twice is not followed twice.
  fun_induction Node.resolve tree fresh ends here names with
  | case1 fresh ends here => exact ⟨hhere, hends⟩
  | case2 fresh ends here name rest hname ih =>
      exact ih hends hhere (List.forall_mem_cons.1 hnames).2
  | case3 fresh ends here rest hname ih =>
      exact ih hends (hhere.parent hcarries.above) (List.forall_mem_cons.1 hnames).2
  | case4 fresh ends here name rest hname hdots next cached hcached =>
      rename_i ih
      exact ih hends (all_of_lookup hends hcached) (List.forall_mem_cons.1 hnames).2
  | case5 fresh ends here name rest hname hdots next target hlink _ _ end' ends'' hinner =>
      rename_i ihlink ihrest
      have htarget := ihlink hends (hhere.linkBase target) (hcarries.links next target hlink)
      rw [hinner] at htarget
      refine ihrest ?_ htarget.1 (List.forall_mem_cons.1 hnames).2
      exact List.forall_mem_cons.2 ⟨htarget.1, htarget.2⟩
  | case6 fresh ends here name rest hname hdots next target hlink _ _ left hinner =>
      -- The target loops, and what is left of it and of the path is taken as it is written.
      rename_i ihlink
      have htarget := ihlink hends (hhere.linkBase target) (hcarries.links next target hlink)
      rw [hinner] at htarget
      exact htarget.written hcarries.above (List.forall_mem_cons.1 hnames).2
  | case7 fresh ends here name rest hname hdots next target hlink =>
      obtain ⟨hname, hrest⟩ := List.forall_mem_cons.1 hnames
      exact (hhere.child hname).written hcarries.above hrest
  | case8 fresh ends here name rest hname hdots next _ hplain =>
      rename_i ih
      obtain ⟨hname, hrest⟩ := List.forall_mem_cons.1 hnames
      exact ih hends (hhere.child hname) hrest

/-- **Every name of a real place is one of the path or one of a link.** -/
theorem realPlace_all (hcarries : tree.Carries P) {names : List Text}
    (hnames : ∀ name ∈ names, P name) : (tree.realPlace names).All P := by
  have hend : (tree.resolve (tree.links.map .inside) [] .home names).All P :=
    resolve_all hcarries (by simp) (Place.all_base .home) hnames
  rw [realPlace]
  split
  · rename_i place ends hsettled
    rw [hsettled] at hend
    exact hend.1
  · rename_i place hlooping
    rw [hlooping] at hend
    exact hend

/-- The same holds of the place that a walk leads to. -/
theorem leads_all (hcarries : tree.Carries P) {here there : Place} {names : List Text}
    (hleads : tree.Leads here names there) (hhere : here.All P)
    (hnames : ∀ name ∈ names, P name) : there.All P := by
  induction hleads with
  | stop here => exact hhere
  | stay _ _ _ ih => exact ih hhere (List.forall_mem_cons.1 hnames).2
  | up _ _ ih => exact ih (hhere.parent hcarries.above) (List.forall_mem_cons.1 hnames).2
  | down _ _ _ _ ih =>
      obtain ⟨hname, hrest⟩ := List.forall_mem_cons.1 hnames
      exact ih (hhere.child hname) hrest
  | @follow here there name target rest _ hlink _ ih =>
      refine ih (hhere.linkBase target) ?_
      intro other hother
      rcases List.mem_append.1 hother with hother | hother
      · exact hcarries.links _ target hlink other hother
      · exact (List.forall_mem_cons.1 hnames).2 other hother

end Node

end SpaServer
