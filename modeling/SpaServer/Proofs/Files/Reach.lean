import SpaServer.Proofs.Files.Walk

/-!
# How far a walk gets

`Reaches` is the way of a walk, step by step, with the number of links that were followed on it.
`Stops` says why the walk goes no further. Together they are all there is to know of a walk with a
budget of links: `walk_eq_iff`. So whether a walk fails on a name that is too long, or because there
are too many links, can be told without its recursion.
-/

namespace SpaServer.Node

variable {tree : Node}

variable (tree) in
/-- Names lead from a place to another with names still ahead, and `links` links are followed on the
way. No name on the way is too long. -/
inductive Reaches : Nat → Place → List Text → Place → List Text → Prop
  | refl (here : Place) (names : List Text) : Reaches 0 here names here names
  | stay {links : Nat} {here there : Place} {name : Text} {rest ahead : List Text}
      (hdir : tree.IsDirAt here) (hname : name = [] ∨ name = ['.'])
      (hrest : Reaches links here rest there ahead) :
      Reaches links here (name :: rest) there ahead
  | up {links : Nat} {here there : Place} {rest ahead : List Text} (hdir : tree.IsDirAt here)
      (hrest : Reaches links here.parent rest there ahead) :
      Reaches links here (['.', '.'] :: rest) there ahead
  | down {links : Nat} {here there : Place} {name : Text} {rest ahead : List Text} {node : Node}
      (hproper : ProperName name) (hshort : name.utf8.length ≤ maxNameBytes)
      (hnode : tree.at? (here.child name) = some node) (hplain : ∀ target, node ≠ .link target)
      (hrest : Reaches links (here.child name) rest there ahead) :
      Reaches links here (name :: rest) there ahead
  | follow {links : Nat} {here there : Place} {name target : Text} {rest ahead : List Text}
      (hproper : ProperName name) (hshort : name.utf8.length ≤ maxNameBytes)
      (hlink : tree.at? (here.child name) = some (.link target))
      (hrest : Reaches links (linkBase here target) (pathNames target ++ rest) there ahead) :
      Reaches (links + 1) here (name :: rest) there ahead

variable (tree) in
/-- A walk that may follow `budget` more links stops at a place with names ahead, for the reason
that is its result. -/
inductive Stops : Nat → Place → List Text → Except StatError Node → Prop
  | arrived {budget : Nat} {here : Place} {node : Node} (hnode : tree.at? here = some node) :
      Stops budget here [] (.ok node)
  | nowhere {budget : Nat} {here : Place} {names : List Text} (hnone : tree.at? here = none) :
      Stops budget here names (.error .missing)
  | blocked {budget : Nat} {here : Place} {name : Text} {rest : List Text} {node : Node}
      (hnode : tree.at? here = some node) (hnodir : ∀ entries, node ≠ .dir entries) :
      Stops budget here (name :: rest) (.error .notDirectory)
  | overlong {budget : Nat} {here : Place} {name : Text} {rest : List Text}
      (hdir : tree.IsDirAt here) (hproper : ProperName name)
      (hlong : maxNameBytes < name.utf8.length) :
      Stops budget here (name :: rest) (.error .nameTooLong)
  | absent {budget : Nat} {here : Place} {name : Text} {rest : List Text}
      (hdir : tree.IsDirAt here) (hproper : ProperName name)
      (hshort : name.utf8.length ≤ maxNameBytes) (hnone : tree.at? (here.child name) = none) :
      Stops budget here (name :: rest) (.error .missing)
  | exhausted {here : Place} {name target : Text} {rest : List Text} (hproper : ProperName name)
      (hshort : name.utf8.length ≤ maxNameBytes)
      (hlink : tree.at? (here.child name) = some (.link target)) :
      Stops 0 here (name :: rest) (.error .tooManyLinks)

/-! ### Steps of a walk -/

variable {budget : Nat} {here : Place} {name target : Text} {rest : List Text}

theorem walk_stay (hdir : tree.IsDirAt here) (hname : name = [] ∨ name = ['.']) :
    tree.walk budget here (name :: rest) = tree.walk budget here rest := by
  obtain ⟨entries, hentries⟩ := hdir
  rw [walk]
  simp only [hentries, if_pos hname]

theorem walk_up (hdir : tree.IsDirAt here) :
    tree.walk budget here (['.', '.'] :: rest) = tree.walk budget here.parent rest := by
  obtain ⟨entries, hentries⟩ := hdir
  rw [walk]
  simp [hentries]

theorem walk_overlong (hdir : tree.IsDirAt here) (hproper : ProperName name)
    (hlong : maxNameBytes < name.utf8.length) :
    tree.walk budget here (name :: rest) = .error .nameTooLong := by
  obtain ⟨entries, hentries⟩ := hdir
  rw [walk]
  simp only [hentries, if_neg hproper.not_stay, if_neg hproper.ne_dots, if_pos hlong]

theorem walk_absent (hdir : tree.IsDirAt here) (hproper : ProperName name)
    (hshort : name.utf8.length ≤ maxNameBytes) (hnone : tree.at? (here.child name) = none) :
    tree.walk budget here (name :: rest) = .error .missing := by
  obtain ⟨entries, hentries⟩ := hdir
  rw [walk]
  simp only [hentries, if_neg hproper.not_stay, if_neg hproper.ne_dots,
    if_neg (Nat.not_lt.2 hshort), hnone]

theorem walk_existing {node : Node} (hproper : ProperName name)
    (hshort : name.utf8.length ≤ maxNameBytes) (hnode : tree.at? (here.child name) = some node)
    (hplain : ∀ target, node ≠ .link target) :
    tree.walk budget here (name :: rest) = tree.walk budget (here.child name) rest := by
  obtain ⟨entries, hentries⟩ := tree.isDirAt_of_child hnode
  rw [walk]
  simp only [hentries, if_neg hproper.not_stay, if_neg hproper.ne_dots,
    if_neg (Nat.not_lt.2 hshort), hnode]

theorem walk_exhausted (hproper : ProperName name) (hshort : name.utf8.length ≤ maxNameBytes)
    (hlink : tree.at? (here.child name) = some (.link target)) :
    tree.walk 0 here (name :: rest) = .error .tooManyLinks := by
  obtain ⟨entries, hentries⟩ := tree.isDirAt_of_child hlink
  rw [walk]
  simp only [hentries, if_neg hproper.not_stay, if_neg hproper.ne_dots,
    if_neg (Nat.not_lt.2 hshort), hlink]

theorem walk_follow (hproper : ProperName name) (hshort : name.utf8.length ≤ maxNameBytes)
    (hlink : tree.at? (here.child name) = some (.link target)) :
    tree.walk (budget + 1) here (name :: rest) =
      tree.walk budget (linkBase here target) (pathNames target ++ rest) := by
  obtain ⟨entries, hentries⟩ := tree.isDirAt_of_child hlink
  rw [walk]
  simp only [hentries, if_neg hproper.not_stay, if_neg hproper.ne_dots,
    if_neg (Nat.not_lt.2 hshort), hlink]

/-! ### The whole walk -/

/-- A walk goes the way of its names, and then it has as many links less to follow. -/
theorem walk_of_reaches {links : Nat} {there : Place} {names ahead : List Text}
    (hreaches : tree.Reaches links here names there ahead) (budget : Nat) :
    tree.walk (budget + links) here names = tree.walk budget there ahead := by
  induction hreaches with
  | refl => rfl
  | stay hdir hname _ ih => rw [walk_stay hdir hname, ih]
  | up hdir _ ih => rw [walk_up hdir, ih]
  | down hproper hshort hnode hplain _ ih => rw [walk_existing hproper hshort hnode hplain, ih]
  | follow hproper hshort hlink _ ih =>
      rw [← Nat.add_assoc, walk_follow hproper hshort hlink, ih]

theorem walk_of_stops {names : List Text} {result : Except StatError Node}
    (hstops : tree.Stops budget here names result) : tree.walk budget here names = result := by
  cases hstops with
  | arrived hnode => rw [walk, hnode]; rfl
  | nowhere hnone =>
      cases names with
      | nil => rw [walk, hnone]; rfl
      | cons name rest => rw [walk, hnone]
  | blocked hnode hnodir =>
      rename_i node
      rw [walk]
      cases node with
      | dir entries => exact absurd rfl (hnodir entries)
      | _ => simp only [hnode]
  | overlong hdir hproper hlong => exact walk_overlong hdir hproper hlong
  | absent hdir hproper hshort hnone => exact walk_absent hdir hproper hshort hnone
  | exhausted hproper hshort hlink => exact walk_exhausted hproper hshort hlink

/-- A walk stops somewhere on the way of its names. -/
theorem exists_stops (tree : Node) (budget : Nat) (here : Place) (names : List Text) :
    ∃ left links there ahead, budget = left + links ∧
      tree.Reaches links here names there ahead ∧
        tree.Stops left there ahead (tree.walk budget here names) := by
  fun_induction Node.walk tree budget here names with
  | case1 budget here =>
      refine ⟨budget, 0, here, [], rfl, .refl _ _, ?_⟩
      cases hnode : tree.at? here with
      | none => exact .nowhere hnode
      | some node => exact .arrived hnode
  | case2 budget here name rest hnone => exact ⟨budget, 0, here, _, rfl, .refl _ _, .nowhere hnone⟩
  | case3 budget here name rest entries hdir hname ih =>
      obtain ⟨left, links, there, ahead, hbudget, hreaches, hstops⟩ := ih
      exact ⟨left, links, there, ahead, hbudget, .stay ⟨entries, hdir⟩ hname hreaches, hstops⟩
  | case4 budget here rest entries hdir _ ih =>
      obtain ⟨left, links, there, ahead, hbudget, hreaches, hstops⟩ := ih
      exact ⟨left, links, there, ahead, hbudget, .up ⟨entries, hdir⟩ hreaches, hstops⟩
  | case5 budget here name rest entries hdir hname hdots hlong =>
      rw [not_or] at hname
      exact ⟨budget, 0, here, _, rfl, .refl _ _,
        .overlong ⟨entries, hdir⟩ ⟨hname.1, hname.2, hdots⟩ hlong⟩
  | case6 budget here name rest entries hdir hname hdots hshort hnone =>
      rw [not_or] at hname
      exact ⟨budget, 0, here, _, rfl, .refl _ _,
        .absent ⟨entries, hdir⟩ ⟨hname.1, hname.2, hdots⟩ (Nat.le_of_not_lt hshort) hnone⟩
  | case7 here name rest entries hdir hname hdots hshort target hlink =>
      rw [not_or] at hname
      exact ⟨0, 0, here, _, rfl, .refl _ _,
        .exhausted ⟨hname.1, hname.2, hdots⟩ (Nat.le_of_not_lt hshort) hlink⟩
  | case8 here name rest entries hdir hname hdots hshort target hlink budget ih =>
      rw [not_or] at hname
      obtain ⟨left, links, there, ahead, rfl, hreaches, hstops⟩ := ih
      exact ⟨left, links + 1, there, ahead, rfl,
        .follow ⟨hname.1, hname.2, hdots⟩ (Nat.le_of_not_lt hshort) hlink hreaches, hstops⟩
  | case9 budget here name rest entries hdir hname hdots hshort node hplain hchild ih =>
      rw [not_or] at hname
      obtain ⟨left, links, there, ahead, hbudget, hreaches, hstops⟩ := ih
      exact ⟨left, links, there, ahead, hbudget, .down ⟨hname.1, hname.2, hdots⟩
        (Nat.le_of_not_lt hshort) hchild (fun target => mt (· ▸ rfl) (hplain target)) hreaches,
        hstops⟩
  | case10 budget here name rest node hnodir hnode =>
      exact ⟨budget, 0, here, _, rfl, .refl _ _, .blocked hnode (fun entries => hnodir entries)⟩

/-- **A walk is its way and the reason why it stops.** -/
theorem walk_eq_iff {names : List Text} {result : Except StatError Node} :
    tree.walk budget here names = result ↔
      ∃ left links there ahead, budget = left + links ∧
        tree.Reaches links here names there ahead ∧ tree.Stops left there ahead result := by
  constructor
  · rintro rfl
    exact exists_stops tree budget here names
  · rintro ⟨left, links, there, ahead, rfl, hreaches, hstops⟩
    rw [walk_of_reaches hreaches, walk_of_stops hstops]

end SpaServer.Node
