import SpaServer.Proofs.Files.Resolution

/-!
# Trees without links

In a tree without links a path of proper names is resolved to itself, and `stat` is the plain way
down the path, as long as neither the path nor one of its names is too long.
-/

namespace SpaServer

namespace Node

/-! ### What it means that there are no links -/

def LinkFree (tree : Node) : Prop := ∀ place, tree.NoLinkAt place

theorem linksAt_of_mem {here : List Text} {entries : List (Text × Node)} {name : Text}
    {child : Node} (hnone : linksBelow here entries = []) (hchild : (name, child) ∈ entries) :
    linksAt (here ++ [name]) child = [] := by
  induction entries with
  | nil => simp at hchild
  | cons entry entries ih =>
      rw [linksBelow, List.append_eq_nil_iff] at hnone
      rcases List.mem_cons.1 hchild with rfl | hchild
      · exact hnone.1
      · exact ih hnone.2 hchild

theorem mem_entries_of_child? {node child : Node} {name : Text}
    (hchild : node.child? name = some child) : (name, child) ∈ node.entries := by
  rw [child?, List.lookup_eq_some_iff] at hchild
  obtain ⟨front, back, hsplit, _⟩ := hchild
  rw [hsplit]
  simp

/-- What stands at a path behind a name stands in the entry of that name. -/
theorem exists_entry_of_get? {node found : Node} {name : Text} {names : List Text}
    (hfound : node.get? (name :: names) = some found) :
    ∃ child, (name, child) ∈ node.entries ∧ child.get? names = some found := by
  rw [get?] at hfound
  cases hchild : node.child? name with
  | none => simp [hchild] at hfound
  | some child =>
      rw [hchild] at hfound
      exact ⟨child, mem_entries_of_child? hchild, hfound⟩

theorem get?_ne_link {node : Node} {here path : List Text} (hnone : linksAt here node = [])
    (target : Text) : node.get? path ≠ some (.link target) := by
  induction path generalizing node here with
  | nil =>
      rintro hlink
      obtain rfl := Option.some.inj hlink
      simp [linksAt] at hnone
  | cons name path ih =>
      intro hlink
      obtain ⟨child, hentry, hchild⟩ := exists_entry_of_get? hlink
      cases node with
      | dir entries =>
          rw [linksAt] at hnone
          exact ih (linksAt_of_mem hnone hentry) hchild
      | _ => simp [Node.entries] at hentry

theorem linkFree_of_links {tree : Node} (hnone : tree.links = []) : tree.LinkFree := by
  intro place target
  cases place with
  | inside path => exact get?_ne_link hnone target
  | outside path => exact noLinkAt_of_not_inside tree (by simp) target
  | doubled path => exact noLinkAt_of_not_inside tree (by simp) target

/-! ### Resolution and walks -/

variable {tree : Node}

theorem resolve_linkFree (hfree : tree.LinkFree) (fresh : List Place) (here : Place)
    (names : List Text) : tree.resolve fresh [] here names = .settled (here.along names) [] := by
  induction names generalizing here with
  | nil => rw [resolve]; rfl
  | cons name names ih =>
      rw [Place.along, List.foldl_cons]
      by_cases hstay : name = [] ∨ name = ['.']
      · rw [resolve, if_pos hstay, if_pos hstay]
        exact ih here
      · rw [if_neg hstay]
        by_cases hdots : name = ['.', '.']
        · rw [resolve, if_neg hstay, if_pos hdots, if_pos hdots]
          exact ih here.parent
        · rw [not_or] at hstay
          rw [if_neg hdots, resolve_down ⟨hstay.1, hstay.2, hdots⟩ rfl (hfree _)]
          exact ih (here.child name)

theorem realPlace_linkFree (hfree : tree.LinkFree) {names : List Text}
    (hproper : ∀ name ∈ names, ProperName name) : tree.realPlace names = .inside names := by
  rw [realPlace, resolve_linkFree hfree, Place.home]
  rw [Place.along_proper hproper, Place.down_inside, List.nil_append]

theorem straight_linkFree (hfree : tree.LinkFree) {here : Place} {names : List Text}
    (hproper : ∀ name ∈ names, ProperName name) : tree.Straight here names := by
  induction names generalizing here with
  | nil => trivial
  | cons name names ih =>
      obtain ⟨hname, hnames⟩ := List.forall_mem_cons.1 hproper
      exact ⟨hname, hfree _, ih hnames⟩

/-- Whether the path from the working directory is short enough for the file system, and all of its
names are. -/
def Fits (names : List Text) : Prop :=
  pathBytes (.inside names) ≤ maxPathBytes ∧ ∀ name ∈ names, name.utf8.length ≤ maxNameBytes

instance (names : List Text) : Decidable (Fits names) := inferInstanceAs (Decidable (_ ∧ _))

theorem stat_linkFree (hfree : tree.LinkFree) {names : List Text} {node : Node}
    (hproper : ∀ name ∈ names, ProperName name) :
    tree.stat (.inside names) = .ok node ↔ Fits names ∧ tree.get? names = some node := by
  rw [stat, Fits, and_assoc]
  by_cases hlong : maxPathBytes < pathBytes (.inside names)
  · simp [hlong, Nat.not_le.2 hlong]
  · rw [if_neg hlong, Place.base, Place.path, walk_straight (straight_linkFree hfree hproper),
      Place.down_inside, List.nil_append, at?]
    simp [Nat.le_of_not_lt hlong]

/-- Where nothing is too long, looking fails only because nothing stands there. -/
theorem stat_linkFree_error (hfree : tree.LinkFree) {names : List Text} {error : StatError}
    (hproper : ∀ name ∈ names, ProperName name) (hstat : tree.stat (.inside names) = .error error) :
    error = .missing ∨ error = .notDirectory ∨ error = .nameTooLong ∧ ¬Fits names := by
  rw [stat] at hstat
  split at hstat
  · rename_i hlong
    exact Or.inr (Or.inr ⟨(Except.error.inj hstat).symm, fun hfits => Nat.not_le.2 hlong hfits.1⟩)
  · rcases walk_straight_error (straight_linkFree hfree hproper) hstat with
      hmissing | hfile | ⟨hlong, name, hname, hbytes⟩
    · exact Or.inl hmissing
    · exact Or.inr (Or.inl hfile)
    · exact Or.inr (Or.inr ⟨hlong, fun hfits => Nat.not_le.2 hbytes (hfits.2 name hname)⟩)

end Node

end SpaServer
