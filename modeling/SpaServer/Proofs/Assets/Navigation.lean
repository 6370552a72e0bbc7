import SpaServer.Proofs.Assets.Confinement
import SpaServer.Proofs.Assets.LinkFree
import SpaServer.Proofs.Assets.Mounts

/-!
# Finding is walking

In a tree without links, finding an asset is nothing but walking down from the asset root by the
names of the path, from directory to entry (`LeadsDown`). Only names that begin with a dot, and a
backslash at the beginning of the first name, keep what is there from being found. Whatever the path
is, finding does not fail.
-/

namespace SpaServer

/-- Whether the names of a path may be looked for at all. -/
structure MayBeSought (names : List Text) : Prop where
  visible : ∀ name ∈ names, name.head? ≠ some '.'
  noBackslash : ∀ name ∈ names.head?, name.head? ≠ some '\\'

instance (names : List Text) : Decidable (MayBeSought names) :=
  decidable_of_iff ((∀ name ∈ names, name.head? ≠ some '.') ∧
    ∀ name ∈ names.head?, name.head? ≠ some '\\')
    ⟨fun ⟨hvisible, hbackslash⟩ => ⟨hvisible, hbackslash⟩,
      fun hsought => ⟨hsought.visible, hsought.noBackslash⟩⟩

namespace Node

/-- Whether names lead from a node down to another, each from a directory to an entry of it. -/
inductive LeadsDown : Node → List Text → Node → Prop
  | here (node : Node) : LeadsDown node [] node
  | down {entries : List (Text × Node)} {name : Text} {names : List Text} {child found : Node}
      (hentry : entries.lookup name = some child) (hrest : LeadsDown child names found) :
    LeadsDown (.dir entries) (name :: names) found

/-- Whether a file system has a place for the names. -/
def IsPath (names : List Text) : Prop :=
  (∀ name ∈ names, FileName name) ∧ pathBytes (.inside names) ≤ maxPathBytes

instance (names : List Text) : Decidable (IsPath names) :=
  inferInstanceAs (Decidable (_ ∧ _))

/-- Whether a tree can stand in a file system. -/
def IsStorable (tree : Node) : Prop := ∀ names node, tree.LeadsDown names node → IsPath names

variable {tree node found : Node} {root path : Text} {names : List Text}

theorem leadsDown_cons {name : Text} :
    node.LeadsDown (name :: names) found ↔
      ∃ child, node.child? name = some child ∧ child.LeadsDown names found := by
  constructor
  · intro hleads
    cases hleads with
    | down hentry hrest => exact ⟨_, hentry, hrest⟩
  · rintro ⟨child, hchild, hrest⟩
    cases node with
    | dir entries => exact .down hchild hrest
    | _ => simp [child?, entries] at hchild

theorem leadsDown_iff : node.LeadsDown names found ↔ node.get? names = some found := by
  induction names generalizing node with
  | nil =>
      rw [get?, Option.some.injEq]
      constructor
      · intro hleads
        cases hleads
        rfl
      · rintro rfl
        exact .here node
  | cons name names ih =>
      rw [leadsDown_cons, get?]
      cases node.child? name with
      | none => simp
      | some child => simp [ih]

/-- Names that lead somewhere can be asked for, if they may be looked for at all. -/
theorem askable_iff (hstorable : tree.IsStorable)
    (hleads : tree.LeadsDown (root :: names) found) :
    Askable root names ↔ MayBeSought names := by
  obtain ⟨hnames, hshort⟩ := hstorable _ _ hleads
  constructor
  · intro haskable
    refine ⟨fun name hname hdot => haskable.visible name hname (by simp [isHidden, hdot]), ?_⟩
    intro name hname hbackslash
    exact haskable.noBackslash (by rw [hname]; exact hbackslash)
  · intro hsought
    refine ⟨fun name hname hhidden => hsought.visible name hname (beq_iff_eq.1 hhidden), ?_,
      fun name hname => (hnames name (List.mem_cons_of_mem _ hname)).noNul, hshort,
      fun name hname => (hnames name hname).short⟩
    intro hbackslash
    obtain ⟨name, hname, hfirst⟩ := Option.bind_eq_some_iff.1 hbackslash
    exact hsought.noBackslash name hname hfirst

theorem find_eq_some_iff (hfree : tree.LinkFree) (hstorable : tree.IsStorable)
    (hroot : ProperName root) {asset : Asset} :
    (tree.lookup root).find path = .ok (some asset) ↔
      MayBeSought (assetNames path) ∧
        ∃ found, tree.LeadsDown (root :: assetNames path) found ∧
          asset = ⟨.inside (root :: assetNames path), found.entity⟩ := by
  rw [find_linkFree hfree hroot]
  constructor
  · rintro ⟨haskable, found, hfound, hasset⟩
    have hleads := leadsDown_iff.2 hfound
    exact ⟨(askable_iff hstorable hleads).1 haskable, found, hleads, hasset⟩
  · rintro ⟨hsought, found, hleads, hasset⟩
    exact ⟨(askable_iff hstorable hleads).2 hsought, found, leadsDown_iff.1 hleads, hasset⟩

theorem findFile_eq_some_iff (hfree : tree.LinkFree) (hstorable : tree.IsStorable)
    (hroot : ProperName root) {file : File} :
    (tree.lookup root).findFile path = .ok (some file) ↔
      MayBeSought (assetNames path) ∧
        ∃ content, tree.LeadsDown (root :: assetNames path) (.file content) ∧
          file = ⟨.inside (root :: assetNames path), content⟩ := by
  constructor
  · intro hfile
    obtain ⟨hsought, found, hleads, hasset⟩ :=
      (find_eq_some_iff hfree hstorable hroot).1 (Lookup.find_of_findFile hfile)
    obtain ⟨hplace, hentity⟩ := Asset.mk.inj hasset
    obtain rfl := eq_file_of_entity hentity.symm
    exact ⟨hsought, file.content, hleads, by rw [← hplace]⟩
  · rintro ⟨hsought, content, hleads, rfl⟩
    exact Lookup.findFile_of_find
      ((find_eq_some_iff hfree hstorable hroot).2 ⟨hsought, .file content, hleads, rfl⟩)

/-- **In a tree without links finding is walking down the tree**, and it never fails. -/
theorem find_walks (hfree : tree.LinkFree) (hstorable : tree.IsStorable) (hroot : ProperName root)
    (path : Text) :
    (∀ asset, (tree.lookup root).find path = .ok (some asset) ↔
        MayBeSought (assetNames path) ∧
          ∃ found, tree.LeadsDown (root :: assetNames path) found ∧
            asset = ⟨.inside (root :: assetNames path), found.entity⟩) ∧
      (∀ file, (tree.lookup root).findFile path = .ok (some file) ↔
        MayBeSought (assetNames path) ∧
          ∃ content, tree.LeadsDown (root :: assetNames path) (.file content) ∧
            file = ⟨.inside (root :: assetNames path), content⟩) ∧
      (∃ asset?, (tree.lookup root).find path = .ok asset?) ∧
      ∃ file?, (tree.lookup root).findFile path = .ok file? :=
  ⟨fun _ => find_eq_some_iff hfree hstorable hroot,
    fun _ => findFile_eq_some_iff hfree hstorable hroot,
    exists_find_linkFree hfree hroot path,
    Lookup.exists_findFile (exists_find_linkFree hfree hroot) path⟩

/-! ### Trees written out -/

/-- Whether a node can stand in a file system under the names. -/
def IsStorableUnder (names : List Text) (node : Node) : Prop :=
  ∀ below found, node.LeadsDown below found → IsPath (names ++ below)

theorem isStorableUnder_of_entries (hpath : IsPath names)
    (hentries : ∀ entry ∈ node.entries, entry.2.IsStorableUnder (names ++ [entry.1])) :
    node.IsStorableUnder names := by
  intro below found hleads
  cases hleads with
  | here => rwa [List.append_nil]
  | down hentry hrest =>
      have hpath := hentries _ (mem_entries_of_child? hentry) _ _ hrest
      rwa [List.append_assoc] at hpath

theorem isStorable_of_under (hunder : tree.IsStorableUnder []) : tree.IsStorable := hunder

def pipedBundle : Node :=
  .dir [(Bundle.directory, .dir [("js".toList,
    .dir [("app.js".toList, .file [0x6a]), ("pipe".toList, .pipe)])])]

theorem isStorable_pipedBundle : pipedBundle.IsStorable := by
  refine isStorable_of_under ?_
  refine isStorableUnder_of_entries (by decide) (List.forall_mem_singleton.2 ?_)
  refine isStorableUnder_of_entries (by decide) (List.forall_mem_singleton.2 ?_)
  refine isStorableUnder_of_entries (by decide) ?_
  refine List.forall_mem_cons.2 ⟨?_, List.forall_mem_singleton.2 ?_⟩
  · exact isStorableUnder_of_entries (by decide) (List.forall_mem_nil _)
  · exact isStorableUnder_of_entries (by decide) (List.forall_mem_nil _)

theorem find_pipedBundle :
    pipedBundle.LinkFree ∧ pipedBundle.IsStorable ∧ ProperName Bundle.directory ∧
      (pipedBundle.lookup Bundle.directory).find "//js/pipe/".toList =
        .ok (some ⟨.inside [Bundle.directory, "js".toList, "pipe".toList], .other⟩) ∧
      (pipedBundle.lookup Bundle.directory).findFile "js//app.js".toList =
        .ok (some ⟨.inside [Bundle.directory, "js".toList, "app.js".toList], [0x6a]⟩) := by
  have hfree : pipedBundle.LinkFree := linkFree_of_links rfl
  have hroot : ProperName Bundle.directory := ⟨by decide, by decide, by decide⟩
  have hpipe : MayBeSought (assetNames "//js/pipe/".toList) := by decide
  have happ : MayBeSought (assetNames "js//app.js".toList) := by decide
  refine ⟨hfree, isStorable_pipedBundle, hroot, ?_, ?_⟩
  · exact ((find_walks hfree isStorable_pipedBundle hroot _).1 _).2
      ⟨hpipe, .pipe, leadsDown_iff.2 rfl, rfl⟩
  · exact ((find_walks hfree isStorable_pipedBundle hroot _).2.1 _).2
      ⟨happ, [0x6a], leadsDown_iff.2 rfl, rfl⟩

def backslashBundle : Node :=
  .dir [(Bundle.directory, .dir [("\\a".toList, .file [0x78])])]

theorem isStorable_backslashBundle : backslashBundle.IsStorable := by
  refine isStorable_of_under ?_
  refine isStorableUnder_of_entries (by decide) (List.forall_mem_singleton.2 ?_)
  refine isStorableUnder_of_entries (by decide) (List.forall_mem_singleton.2 ?_)
  exact isStorableUnder_of_entries (by decide) (List.forall_mem_nil _)

/-- A name that begins with a backslash leads down to its file, which is not found. -/
theorem backslash_name_missed :
    backslashBundle.LinkFree ∧ backslashBundle.IsStorable ∧
      (∀ name ∈ assetNames "/\\a".toList, name.head? ≠ some '.') ∧
      backslashBundle.LeadsDown (Bundle.directory :: assetNames "/\\a".toList) (.file [0x78]) ∧
      (backslashBundle.lookup Bundle.directory).find "/\\a".toList = .ok none :=
  ⟨linkFree_of_links rfl, isStorable_backslashBundle, by decide, leadsDown_iff.2 rfl, rfl⟩

end Node

end SpaServer
