import SpaServer.Files.Stat

/-!
# Where a walk ends

`Node.walk` tells what stands at the end of a path. `Leads` tells where that end is, as a relation
between places that knows nothing of budgets and of names that are too long. A walk that finds a
node finds the one at the place that the relation leads to, and there is only one such place.

On a straight path, which meets no link, the walk goes down name by name and ends at the place that
the path names. This is the reason for resolving links before anything is checked: of a place that
is straight the check and the walk speak of the same file.
-/

namespace SpaServer

/-- A name that leads from a directory down to one of its entries. -/
structure ProperName (name : Text) : Prop where
  ne_nil : name ≠ []
  ne_dot : name ≠ ['.']
  ne_dots : name ≠ ['.', '.']

theorem ProperName.not_stay {name : Text} (hproper : ProperName name) :
    ¬(name = [] ∨ name = ['.']) := by
  rintro (hnil | hdot)
  · exact hproper.ne_nil hnil
  · exact hproper.ne_dot hdot

namespace Place

/-- The place below `place` at the end of the names. -/
def down (place : Place) (names : List Text) : Place :=
  names.foldl (fun here name => here.child name) place

@[simp] theorem down_nil (place : Place) : place.down [] = place := rfl

@[simp] theorem down_cons (place : Place) (name : Text) (names : List Text) :
    place.down (name :: names) = (place.child name).down names := rfl

@[simp] theorem down_inside (path names : List Text) :
    (Place.inside path).down names = .inside (path ++ names) := by
  induction names generalizing path with
  | nil => rw [down_nil, List.append_nil]
  | cons name names ih => rw [down_cons, child, ih, List.append_assoc, List.singleton_append]

@[simp] theorem down_outside (path names : List Text) :
    (Place.outside path).down names = .outside (path ++ names) := by
  induction names generalizing path with
  | nil => rw [down_nil, List.append_nil]
  | cons name names ih => rw [down_cons, child, ih, List.append_assoc, List.singleton_append]

@[simp] theorem down_doubled (path names : List Text) :
    (Place.doubled path).down names = .doubled (path ++ names) := by
  induction names generalizing path with
  | nil => rw [down_nil, List.append_nil]
  | cons name names ih => rw [down_cons, child, ih, List.append_assoc, List.singleton_append]

theorem base_down_path (place : Place) : place.base.down place.path = place := by
  cases place <;> simp [base, path]

theorem along_proper {place : Place} {names : List Text}
    (hproper : ∀ name ∈ names, ProperName name) : place.along names = place.down names := by
  induction names generalizing place with
  | nil => rfl
  | cons name names ih =>
      obtain ⟨hname, hnames⟩ := List.forall_mem_cons.1 hproper
      rw [down_cons, ← ih hnames, along, List.foldl_cons, if_neg hname.not_stay,
        if_neg hname.ne_dots]
      rfl

end Place

namespace Node

variable (tree : Node)

def IsDirAt (here : Place) : Prop := ∃ entries, tree.at? here = some (.dir entries)

def NoLinkAt (here : Place) : Prop := ∀ target, tree.at? here ≠ some (.link target)

/-- Outside of the working directory there are only empty directories. -/
theorem eq_empty_of_not_inside {here : Place} {node : Node} (hhere : ∀ path, here ≠ .inside path)
    (hnode : tree.at? here = some node) : node = .empty := by
  cases here with
  | inside path => exact absurd rfl (hhere path)
  | outside path =>
      rw [at?] at hnode
      split at hnode
      · exact (Option.some.inj hnode).symm
      · simp at hnode
  | doubled path =>
      rw [at?] at hnode
      split at hnode
      · exact (Option.some.inj hnode).symm
      · simp at hnode

theorem noLinkAt_of_not_inside {here : Place} (hhere : ∀ path, here ≠ .inside path) :
    tree.NoLinkAt here := by
  intro target hlink
  simpa [empty] using eq_empty_of_not_inside tree hhere hlink

/-- What stands in a directory stands in a directory. -/
theorem isDirAt_of_child {here : Place} {name : Text} {node : Node}
    (hnode : tree.at? (here.child name) = some node) : tree.IsDirAt here := by
  cases here with
  | inside path =>
      replace hnode : tree.get? (path ++ [name]) = some node := hnode
      induction path generalizing tree with
      | nil =>
          cases tree with
          | dir entries => exact ⟨entries, rfl⟩
          | _ => simp [get?, child?, entries] at hnode
      | cons first path ih =>
          rw [List.cons_append, get?] at hnode
          cases hchild : tree.child? first with
          | none => simp [hchild] at hnode
          | some child =>
              rw [hchild] at hnode
              obtain ⟨entries, hentries⟩ := ih child hnode
              exact ⟨entries, by rw [← hentries, at?, at?, get?, hchild]⟩
  | outside path =>
      simp only [at?, Place.child] at hnode
      split at hnode
      · rename_i hprefix
        refine ⟨[], ?_⟩
        rw [at?, if_pos]
        · rfl
        · rw [List.isPrefixOf_iff_prefix] at hprefix ⊢
          exact (List.prefix_append path [name]).trans hprefix
      · simp at hnode
  | doubled path =>
      simp only [at?, Place.child] at hnode
      split at hnode
      · rename_i hprefix
        refine ⟨[], ?_⟩
        rw [at?, if_pos]
        · rfl
        · rw [List.isPrefixOf_iff_prefix] at hprefix ⊢
          exact (List.prefix_append path [name]).trans hprefix
      · simp at hnode

/-! ### Where names lead -/

/-- Names lead from a place to another, from directory to directory and links followed. -/
inductive Leads : Place → List Text → Place → Prop
  | stop (here : Place) : Leads here [] here
  | stay {here there : Place} {name : Text} {rest : List Text} (hdir : tree.IsDirAt here)
      (hname : name = [] ∨ name = ['.']) (hrest : Leads here rest there) :
      Leads here (name :: rest) there
  | up {here there : Place} {rest : List Text} (hdir : tree.IsDirAt here)
      (hrest : Leads here.parent rest there) : Leads here (['.', '.'] :: rest) there
  | down {here there : Place} {name : Text} {rest : List Text} (hdir : tree.IsDirAt here)
      (hproper : ProperName name) (hplain : tree.NoLinkAt (here.child name))
      (hrest : Leads (here.child name) rest there) : Leads here (name :: rest) there
  | follow {here there : Place} {name target : Text} {rest : List Text} (hproper : ProperName name)
      (hlink : tree.at? (here.child name) = some (.link target))
      (hrest : Leads (linkBase here target) (pathNames target ++ rest) there) :
      Leads here (name :: rest) there

variable {tree}

theorem leads_unique {here there other : Place} {names : List Text}
    (hthere : tree.Leads here names there) (hother : tree.Leads here names other) :
    there = other := by
  induction hthere with
  | stop here =>
      cases hother
      rfl
  | stay _ hname _ ih =>
      cases hother with
      | stay _ _ hrest => exact ih hrest
      | up => simp at hname
      | down _ hproper => exact absurd hname hproper.not_stay
      | follow hproper => exact absurd hname hproper.not_stay
  | up _ _ ih =>
      cases hother with
      | stay _ hname => simp at hname
      | up _ hrest => exact ih hrest
      | down _ hproper => exact absurd rfl hproper.ne_dots
      | follow hproper => exact absurd rfl hproper.ne_dots
  | down _ hproper hplain _ ih =>
      cases hother with
      | stay _ hname => exact absurd hname hproper.not_stay
      | up => exact absurd rfl hproper.ne_dots
      | down _ _ _ hrest => exact ih hrest
      | follow _ hlink => exact absurd hlink (hplain _)
  | follow hproper hlink _ ih =>
      cases hother with
      | stay _ hname => exact absurd hname hproper.not_stay
      | up => exact absurd rfl hproper.ne_dots
      | down _ _ hplain => exact absurd hlink (hplain _)
      | follow _ hlink' hrest =>
          obtain rfl := Node.link.inj (Option.some.inj (hlink.symm.trans hlink'))
          exact ih hrest

theorem walk_nil {budget : Nat} {here : Place} {node : Node} :
    tree.walk budget here [] = .ok node ↔ tree.at? here = some node := by
  rw [walk]
  cases tree.at? here <;> simp [Option.elim]

theorem leads_of_walk {budget : Nat} {here : Place} {names : List Text} {node : Node}
    (hwalk : tree.walk budget here names = .ok node) :
    ∃ there, tree.Leads here names there ∧ tree.at? there = some node := by
  fun_induction Node.walk tree budget here names with
  | case1 budget here =>
      have hnil : tree.walk budget here [] = .ok node := by rw [walk, hwalk]
      exact ⟨here, .stop here, walk_nil.1 hnil⟩
  | case3 budget here name rest entries hdir hname ih =>
      obtain ⟨there, hleads, hnode⟩ := ih hwalk
      exact ⟨there, .stay ⟨entries, hdir⟩ hname hleads, hnode⟩
  | case4 budget here rest entries hdir _ ih =>
      obtain ⟨there, hleads, hnode⟩ := ih hwalk
      exact ⟨there, .up ⟨entries, hdir⟩ hleads, hnode⟩
  | case8 here name rest entries _ hname hdots _ target hlink budget ih =>
      obtain ⟨there, hleads, hnode⟩ := ih hwalk
      rw [not_or] at hname
      exact ⟨there, .follow ⟨hname.1, hname.2, hdots⟩ hlink hleads, hnode⟩
  | case9 budget here name rest entries hdir hname hdots _ node hplain hchild ih =>
      obtain ⟨there, hleads, hnode⟩ := ih hwalk
      rw [not_or] at hname
      refine ⟨there, .down ⟨entries, hdir⟩ ⟨hname.1, hname.2, hdots⟩ ?_ hleads, hnode⟩
      intro target hlink
      exact hplain target (Option.some.inj (hchild.symm.trans hlink))
  | _ => simp at hwalk

/-! ### Straight paths -/

variable (tree) in
/-- Whether the names are proper and meet no link on the way down from the place. -/
def Straight : Place → List Text → Prop
  | _, [] => True
  | here, name :: rest =>
    ProperName name ∧ tree.NoLinkAt (here.child name) ∧ Straight (here.child name) rest

theorem straight_append {here : Place} {front back : List Text} :
    tree.Straight here (front ++ back) ↔
      tree.Straight here front ∧ tree.Straight (here.down front) back := by
  induction front generalizing here with
  | nil => simp [Straight]
  | cons name front ih => simp only [List.cons_append, Straight, ih, Place.down_cons, and_assoc]

theorem straight_dropLast {here : Place} {names : List Text}
    (hstraight : tree.Straight here names) : tree.Straight here names.dropLast := by
  obtain ⟨back, hback⟩ := names.dropLast_prefix
  rw [← hback] at hstraight
  exact (straight_append.1 hstraight).1

theorem leads_of_straight {here there : Place} {names : List Text}
    (hstraight : tree.Straight here names) (hleads : tree.Leads here names there) :
    there = here.down names := by
  induction names generalizing here with
  | nil =>
      cases hleads
      rfl
  | cons name rest ih =>
      obtain ⟨hproper, hplain, hrest⟩ := hstraight
      cases hleads with
      | stay _ hname => exact absurd hname hproper.not_stay
      | up => exact absurd rfl hproper.ne_dots
      | down _ _ _ hleads => exact ih hrest hleads
      | follow _ hlink => exact absurd hlink (hplain _)

theorem exists_at?_of_walk {budget : Nat} {here : Place} {names : List Text} {node : Node}
    (hwalk : tree.walk budget here names = .ok node) : ∃ start, tree.at? here = some start := by
  cases names with
  | nil => exact ⟨node, walk_nil.1 hwalk⟩
  | cons name rest =>
      rw [walk] at hwalk
      cases hhere : tree.at? here with
      | none => simp [hhere] at hwalk
      | some start => exact ⟨start, rfl⟩

theorem walk_down {budget : Nat} {here : Place} {name : Text} {rest : List Text} {node : Node}
    (hproper : ProperName name) (hplain : tree.NoLinkAt (here.child name)) :
    tree.walk budget here (name :: rest) = .ok node ↔
      name.utf8.length ≤ maxNameBytes ∧ tree.walk budget (here.child name) rest = .ok node := by
  constructor
  · intro hwalk
    rw [walk] at hwalk
    split at hwalk
    · simp at hwalk
    · rw [if_neg hproper.not_stay, if_neg hproper.ne_dots] at hwalk
      split at hwalk
      · simp at hwalk
      · rename_i hshort
        refine ⟨Nat.le_of_not_lt hshort, ?_⟩
        split at hwalk
        · simp at hwalk
        · rename_i hlink
          exact absurd hlink (hplain _)
        · exact hwalk
    · simp at hwalk
  · rintro ⟨hshort, hwalk⟩
    obtain ⟨child, hchild⟩ := exists_at?_of_walk hwalk
    obtain ⟨entries, hentries⟩ := tree.isDirAt_of_child hchild
    rw [walk]
    simp only [hentries, hchild]
    rw [if_neg hproper.not_stay, if_neg hproper.ne_dots, if_neg (Nat.not_lt.2 hshort)]
    cases child with
    | link target => exact absurd hchild (hplain target)
    | _ => exact hwalk

theorem walk_straight {budget : Nat} {here : Place} {names : List Text} {node : Node}
    (hstraight : tree.Straight here names) :
    tree.walk budget here names = .ok node ↔
      (∀ name ∈ names, name.utf8.length ≤ maxNameBytes) ∧
        tree.at? (here.down names) = some node := by
  induction names generalizing here with
  | nil => simp [walk_nil]
  | cons name rest ih =>
      obtain ⟨hproper, hplain, hrest⟩ := hstraight
      rw [walk_down hproper hplain, ih hrest, List.forall_mem_cons, and_assoc, Place.down_cons]

/-- A walk along a straight path fails only where nothing stands or a name is too long. -/
theorem walk_straight_error {budget : Nat} {here : Place} {names : List Text} {error : StatError}
    (hstraight : tree.Straight here names) (hwalk : tree.walk budget here names = .error error) :
    error = .missing ∨ error = .notDirectory ∨
      error = .nameTooLong ∧ ∃ name ∈ names, maxNameBytes < name.utf8.length := by
  induction names generalizing here with
  | nil =>
      rw [walk] at hwalk
      cases hhere : tree.at? here with
      | none => simp_all [Option.elim]
      | some node => simp [hhere, Option.elim] at hwalk
  | cons name rest ih =>
      obtain ⟨hproper, hplain, hrest⟩ := hstraight
      rw [walk] at hwalk
      split at hwalk
      · exact Or.inl (Except.error.inj hwalk).symm
      · rw [if_neg hproper.not_stay, if_neg hproper.ne_dots] at hwalk
        split at hwalk
        · rename_i hlong
          exact Or.inr (Or.inr ⟨(Except.error.inj hwalk).symm, name, List.mem_cons_self, hlong⟩)
        · split at hwalk
          · exact Or.inl (Except.error.inj hwalk).symm
          · rename_i hlink
            exact absurd hlink (hplain _)
          · rcases ih hrest hwalk with hmissing | hfile | ⟨hlong, long, hmem, hbytes⟩
            · exact Or.inl hmissing
            · exact Or.inr (Or.inl hfile)
            · exact Or.inr (Or.inr ⟨hlong, long, List.mem_cons_of_mem _ hmem, hbytes⟩)
      · exact Or.inr (Or.inl (Except.error.inj hwalk).symm)

/-! ### Parts of a walk -/

/-- A walk that goes on behind a path has found a directory at its end. -/
theorem walk_front {budget : Nat} {here : Place} {front : List Text} {next : Text}
    {back : List Text} {node : Node}
    (hwalk : tree.walk budget here (front ++ next :: back) = .ok node) :
    ∃ entries, tree.walk budget here front = .ok (.dir entries) := by
  fun_induction Node.walk tree budget here front with
  | case1 budget here =>
      rw [List.nil_append, walk] at hwalk
      split at hwalk
      · simp at hwalk
      · rename_i entries hentries
        exact ⟨entries, by rw [hentries]; rfl⟩
      · simp at hwalk
  | case2 budget here name rest hnone =>
      rw [List.cons_append, walk] at hwalk
      simp [hnone] at hwalk
  | case3 budget here name rest entries hdir hname ih =>
      rw [List.cons_append, walk] at hwalk
      simp only [hdir, if_pos hname] at hwalk
      exact ih hwalk
  | case4 budget here rest entries hdir hname ih =>
      rw [List.cons_append, walk] at hwalk
      simp only [hdir, if_neg hname, if_pos] at hwalk
      exact ih hwalk
  | case5 budget here name rest entries hdir hname hdots hlong =>
      rw [List.cons_append, walk] at hwalk
      simp [hdir, hname, hdots, hlong] at hwalk
  | case6 budget here name rest entries hdir hname hdots hshort hnone =>
      rw [List.cons_append, walk] at hwalk
      simp [hdir, hname, hdots, hshort, hnone] at hwalk
  | case7 here name rest entries hdir hname hdots hshort target hlink =>
      rw [List.cons_append, walk] at hwalk
      simp [hdir, hname, hdots, hshort, hlink] at hwalk
  | case8 here name rest entries hdir hname hdots hshort target hlink budget ih =>
      rw [List.cons_append, walk] at hwalk
      simp only [hdir, if_neg hname, if_neg hdots, if_neg hshort, hlink] at hwalk
      rw [← List.append_assoc] at hwalk
      exact ih hwalk
  | case9 budget here name rest entries hdir hname hdots hshort child hplain hchild ih =>
      rw [List.cons_append, walk] at hwalk
      simp only [hdir, if_neg hname, if_neg hdots, if_neg hshort, hchild] at hwalk
      exact ih hwalk
  | case10 budget here name rest other hother hhere =>
      rw [List.cons_append, walk] at hwalk
      simp [hhere] at hwalk

end Node

end SpaServer
