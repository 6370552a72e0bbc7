import SpaServer.Proofs.Assets.Names
import SpaServer.Proofs.Files.LinkFree

/-!
# Assets in trees without links

In a tree without links a path leads to what stands under its names below the root, if the names can
be asked for at all, and to nothing otherwise. So finding never fails there, and what it finds
depends on nothing else that stands in the tree.
-/

namespace SpaServer

/-- Whether assets can be looked up under the names. -/
structure Askable (root : Text) (names : List Text) : Prop where
  visible : ∀ name ∈ names, ¬isHidden name
  noBackslash : names.head?.bind List.head? ≠ some '\\'
  noNul : ∀ name ∈ names, '\x00' ∉ name
  fits : Node.Fits (root :: names)

theorem properName_of_visible {name : Text} (hnil : name ≠ []) (hvisible : ¬isHidden name) :
    ProperName name := by
  refine ⟨hnil, ?_, ?_⟩
  · rintro rfl
    exact hvisible rfl
  · rintro rfl
    exact hvisible rfl

namespace Node

variable {tree : Node} {root : Text}

theorem lookup_linkFree (hfree : tree.LinkFree) {names : List Text}
    (hproper : ∀ name ∈ root :: names, ProperName name)
    (hbackslash : names.head?.bind List.head? ≠ some '\\')
    (hnul : ∀ name ∈ names, '\x00' ∉ name) :
    tree.lookup root names =
      match tree.stat (.inside (root :: names)) with
      | .ok node => .ok (some ⟨.inside (root :: names), node.entity⟩)
      | .error .missing => .ok none
      | .error .notDirectory => .ok none
      | .error .nameTooLong => .error (.system SpaServer.nameTooLong)
      | .error .tooManyLinks => .error (.system SpaServer.tooManyLinks) := by
  have hroot : ∀ name ∈ [root], ProperName name := by
    intro name hname
    rw [List.mem_singleton] at hname
    exact hproper name (by simp [hname])
  have hplain : ¬names.any (·.contains '\x00') = true := by
    rw [List.any_eq_true]
    rintro ⟨name, hname, hmem⟩
    exact hnul name hname (by simpa using hmem)
  have hbelow : (Place.inside [root]).contains (.inside (root :: names)) = true := by
    simp [Place.contains]
  rw [lookup, if_neg hbackslash, if_neg hplain]
  cases hstat : tree.stat (.inside (root :: names)) with
  | ok node =>
      simp only [realPlace_linkFree hfree hroot, realPlace_linkFree hfree hproper, hbelow, if_true,
        hstat]
  | error error =>
      cases error <;>
        simp only [realPlace_linkFree hfree hroot, realPlace_linkFree hfree hproper, hbelow,
          if_true, hstat]

theorem find_linkFree_cases (hfree : tree.LinkFree) (hroot : ProperName root) (path : Text) :
    (Askable root (assetNames path) ∧ ∃ node, tree.get? (root :: assetNames path) = some node ∧
        (tree.lookup root).find path =
          .ok (some ⟨.inside (root :: assetNames path), node.entity⟩)) ∨
      (Askable root (assetNames path) → tree.get? (root :: assetNames path) = none) ∧
        (tree.lookup root).find path = .ok none := by
  rw [Lookup.find]
  by_cases hhidden : (assetNames path).any isHidden = true
  · rw [if_pos hhidden]
    obtain ⟨name, hname, hhidden⟩ := List.any_eq_true.1 hhidden
    exact Or.inr ⟨fun haskable => absurd hhidden (haskable.visible name hname), rfl⟩
  rw [if_neg hhidden]
  have hvisible : ∀ name ∈ assetNames path, ¬isHidden name := by
    intro name hname hname'
    exact hhidden (List.any_eq_true.2 ⟨name, hname, hname'⟩)
  by_cases hbackslash : (assetNames path).head?.bind List.head? = some '\\'
  · rw [lookup, if_pos hbackslash]
    exact Or.inr ⟨fun haskable => absurd hbackslash haskable.noBackslash, rfl⟩
  by_cases hnul : (assetNames path).any (·.contains '\x00') = true
  · rw [lookup, if_neg hbackslash, if_pos hnul]
    obtain ⟨name, hname, hmem⟩ := List.any_eq_true.1 hnul
    exact Or.inr ⟨fun haskable => absurd (by simpa using hmem) (haskable.noNul name hname), rfl⟩
  have hplain : ∀ name ∈ assetNames path, '\x00' ∉ name := by
    intro name hname hmem
    exact hnul (List.any_eq_true.2 ⟨name, hname, by simpa using hmem⟩)
  have hproper : ∀ name ∈ root :: assetNames path, ProperName name := by
    intro name hname
    rcases List.mem_cons.1 hname with rfl | hname
    · exact hroot
    · exact properName_of_visible (mem_assetNames hname).1 (hvisible name hname)
  rw [lookup_linkFree hfree hproper hbackslash hplain]
  cases hstat : tree.stat (.inside (root :: assetNames path)) with
  | ok node =>
      obtain ⟨hfits, hnode⟩ := (stat_linkFree hfree hproper).1 hstat
      exact Or.inl ⟨⟨hvisible, hbackslash, hplain, hfits⟩, node, hnode, rfl⟩
  | error error =>
      refine Or.inr ⟨?_, ?_⟩
      · intro haskable
        cases hnode : tree.get? (root :: assetNames path) with
        | none => rfl
        | some node =>
            rw [(stat_linkFree hfree hproper).2 ⟨haskable.fits, hnode⟩] at hstat
            simp at hstat
      · rcases stat_linkFree_error hfree hproper hstat with rfl | rfl | ⟨rfl, _⟩ <;> rfl

theorem exists_find_linkFree (hfree : tree.LinkFree) (hroot : ProperName root) (path : Text) :
    ∃ found, (tree.lookup root).find path = .ok found := by
  rcases find_linkFree_cases hfree hroot path with ⟨_, _, _, hfind⟩ | ⟨_, hfind⟩
  · exact ⟨_, hfind⟩
  · exact ⟨_, hfind⟩

/-- **A path leads to what stands under its names, if they can be asked for.** -/
theorem find_linkFree (hfree : tree.LinkFree) (hroot : ProperName root) {path : Text}
    {asset : Asset} : (tree.lookup root).find path = .ok (some asset) ↔
      Askable root (assetNames path) ∧ ∃ node, tree.get? (root :: assetNames path) = some node ∧
        asset = ⟨.inside (root :: assetNames path), node.entity⟩ := by
  rcases find_linkFree_cases hfree hroot path with
    ⟨haskable, node, hnode, hfind⟩ | ⟨hnone, hfind⟩
  · rw [hfind]
    constructor
    · intro hasset
      exact ⟨haskable, node, hnode, (Option.some.inj (Except.ok.inj hasset)).symm⟩
    · rintro ⟨_, other, hother, rfl⟩
      obtain rfl := Option.some.inj (hnode.symm.trans hother)
      rfl
  · rw [hfind]
    constructor
    · simp
    · rintro ⟨haskable, node, hnode, _⟩
      rw [hnone haskable] at hnode
      simp at hnode

theorem find_linkFree_eq_none (hfree : tree.LinkFree) (hroot : ProperName root) (path : Text)
    (hnone : Askable root (assetNames path) → tree.get? (root :: assetNames path) = none) :
    (tree.lookup root).find path = .ok none := by
  rcases find_linkFree_cases hfree hroot path with ⟨haskable, node, hnode, _⟩ | ⟨_, hfind⟩
  · rw [hnone haskable] at hnode
    simp at hnode
  · exact hfind

/-! ### Trees in which the same is found -/

/-- What is found under a path depends on what stands under its names alone. -/
theorem find_congr_of_entity {other : Node} (hfree : tree.LinkFree) (hother : other.LinkFree)
    (hroot : ProperName root) {path : Text}
    (hsame : Askable root (assetNames path) →
      (tree.get? (root :: assetNames path)).map entity =
        (other.get? (root :: assetNames path)).map entity) :
    (tree.lookup root).find path = (other.lookup root).find path := by
  rcases find_linkFree_cases hfree hroot path with ⟨haskable, node, hnode, hfind⟩ | ⟨hnone, hfind⟩
  · obtain ⟨node', hnode', hsame'⟩ : ∃ node', other.get? (root :: assetNames path) = some node' ∧
        node'.entity = node.entity := by
      have hboth := hsame haskable
      rw [hnode, Option.map_some] at hboth
      exact Option.map_eq_some_iff.1 hboth.symm
    rw [hfind, eq_comm, find_linkFree hother hroot]
    exact ⟨haskable, node', hnode', by rw [hsame']⟩
  · rw [hfind, eq_comm]
    refine find_linkFree_eq_none hother hroot path ?_
    intro haskable
    have hboth := hsame haskable
    rw [hnone haskable, Option.map_none] at hboth
    exact Option.map_eq_none_iff.1 hboth.symm

/-- Whether two trees have the same everywhere but at the path. -/
def SameBut (path : List Text) (tree other : Node) : Prop :=
  ∀ names, names ≠ path → (tree.get? names).map entity = (other.get? names).map entity

/-- Under names other than those where the trees differ the same is found. -/
theorem find_congr_of_sameBut {other : Node} (hfree : tree.LinkFree) (hother : other.LinkFree)
    (hroot : ProperName root) {names : List Text} (hsame : SameBut (root :: names) tree other)
    {path : Text} (hpath : assetNames path = names → ¬Askable root names) :
    (tree.lookup root).find path = (other.lookup root).find path := by
  refine find_congr_of_entity hfree hother hroot fun haskable => hsame _ ?_
  intro heq
  obtain hnames := (List.cons.inj heq).2
  rw [hnames] at haskable
  exact hpath hnames haskable

end Node

end SpaServer
