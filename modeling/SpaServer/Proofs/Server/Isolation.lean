import SpaServer.Proofs.Server.Agreement
import SpaServer.Proofs.Server.Bundle
import SpaServer.Server.Startup

/-!
# What an application cannot tell

In trees without links an application sees nothing but what stands below its asset root under names
that are not kept from view. Two trees that have the same there make the same application, and it
gives the same answers in both. So it makes no difference what stands in any other directory of the
working directory, that of the other build among them.
-/

namespace SpaServer

namespace Node

/-- Whether two trees have the same at the root and below it, names kept from view apart. -/
def SameInSight (root : Text) (tree other : Node) : Prop :=
  ∀ names, (∀ name ∈ names, ¬isHidden name) →
    (tree.get? (root :: names)).map entity = (other.get? (root :: names)).map entity

variable {tree other : Node} {root : Text}

theorem find_congr_of_sameInSight (hfree : tree.LinkFree) (hother : other.LinkFree)
    (hroot : ProperName root) (hsame : SameInSight root tree other) (path : Text) :
    (tree.lookup root).find path = (other.lookup root).find path :=
  find_congr_of_entity hfree hother hroot fun haskable => hsame _ haskable.visible

/-! ### Another entry of the working directory -/

theorem lookup_entry_cons (name other : Text) (node : Node) (entries : List (Text × Node)) :
    ((name, node) :: entries).lookup other =
      if other = name then some node else entries.lookup other := by
  by_cases hname : other = name
  · simp [hname]
  · simp [List.lookup_cons, hname, beq_false_of_ne hname]

theorem lookup_setEntry (name other : Text) (node : Node) (entries : List (Text × Node)) :
    (setEntry name node entries).lookup other =
      if other = name then some node else entries.lookup other := by
  induction entries with
  | nil => exact lookup_entry_cons name other node []
  | cons entry rest ih =>
      obtain ⟨first, child⟩ := entry
      rw [setEntry]
      split
      · rename_i hfirst
        obtain rfl : first = name := hfirst
        rw [lookup_entry_cons, lookup_entry_cons]
        by_cases hother : other = first <;> simp only [hother, if_true, if_false]
      · rename_i hfirst
        have hne : first ≠ name := hfirst
        rw [lookup_entry_cons, lookup_entry_cons, ih]
        by_cases hother : other = first
        · simp only [hother, if_true, if_neg hne]
        · simp only [if_neg hother]

theorem get?_insert_entry (tree node : Node) (name first : Text) (names : List Text) :
    (tree.insert [name] node).get? (first :: names) =
      if first = name then node.get? names else tree.get? (first :: names) := by
  have hchild : (tree.insert [name] node).child? first =
      if first = name then some node else tree.child? first := lookup_setEntry _ _ _ _
  rw [get?, hchild]
  by_cases hname : first = name
  · simp only [if_pos hname]
  · simp only [if_neg hname]
    rw [get?]

theorem linkFree_insert_entry (hfree : tree.LinkFree) {node : Node} (hnode : node.LinkFree)
    (name : Text) : (tree.insert [name] node).LinkFree := by
  intro place target
  cases place with
  | inside path =>
      cases path with
      | nil => simp [at?, get?, insert]
      | cons first names =>
          rw [at?, get?_insert_entry]
          split
          · exact hnode (.inside names) target
          · exact hfree (.inside (first :: names)) target
  | outside path => exact noLinkAt_of_not_inside _ (by simp) target
  | doubled path => exact noLinkAt_of_not_inside _ (by simp) target

theorem sameInSight_insert_entry (tree node : Node) {name : Text} (hname : name ≠ root) :
    SameInSight root (tree.insert [name] node) tree := by
  intro names _
  rw [get?_insert_entry, if_neg (Ne.symm hname)]

end Node

theorem Settings.fits_assetRoot (settings : Settings) : Node.Fits [settings.assetRoot] := by
  rcases settings.assetRoot_cases with hroot | hroot <;> rw [hroot] <;> decide

namespace App

variable {tree other : Node} {settings : Settings}

/-- What is logged while an application is made tells whether its asset root is a directory. -/
theorem create_linkFree (hfree : tree.LinkFree) (logger : Text) :
    App.create logger settings tree = .ok (⟨settings⟩,
      if (tree.get? [settings.assetRoot]).map Node.entity = some .directory then []
      else [missingRootLog logger (.inside [settings.assetRoot])]) := by
  have hproper : ∀ name ∈ [settings.assetRoot], ProperName name :=
    List.forall_mem_singleton.2 settings.properName_assetRoot
  have hroot := Node.realPlace_linkFree hfree hproper
  rw [App.create]
  cases hstat : tree.stat (.inside [settings.assetRoot]) with
  | ok node =>
      rw [((Node.stat_linkFree hfree hproper).1 hstat).2]
      cases node <;> simp [hroot, hstat, Node.entity]
  | error error =>
      have hnone : tree.get? [settings.assetRoot] = none := by
        cases hnode : tree.get? [settings.assetRoot] with
        | none => rfl
        | some node =>
            rw [(Node.stat_linkFree hfree hproper).2 ⟨settings.fits_assetRoot, hnode⟩] at hstat
            simp at hstat
      -- The name of an asset root is not too long, so the failure is one that means absence.
      rcases Node.stat_linkFree_error hfree hproper hstat with rfl | rfl | ⟨_, hlong⟩
      · simp [hroot, hstat, hnone]
      · simp [hroot, hstat, hnone]
      · exact absurd settings.fits_assetRoot hlong

theorem answer_congr_of_sameInSight (hfree : tree.LinkFree) (hother : other.LinkFree)
    (hsame : Node.SameInSight settings.assetRoot tree other) (request : Request) :
    App.answer ⟨settings⟩ (tree.lookup settings.assetRoot) request =
      App.answer ⟨settings⟩ (other.lookup settings.assetRoot) request :=
  answer_congr_of_searched fun path _ =>
    Node.find_congr_of_sameInSight hfree hother settings.properName_assetRoot hsame path

/-- **An application cannot tell trees that are the same in sight of its asset root**, and least of
all what stands in another directory. -/
theorem answer_eq_of_sameInSight (settings : Settings) {tree other : Node} (hfree : tree.LinkFree)
    (hother : other.LinkFree) (hsame : Node.SameInSight settings.assetRoot tree other) :
    (∀ logger, ∃ logs, App.create logger settings tree = .ok (⟨settings⟩, logs) ∧
        App.create logger settings other = .ok (⟨settings⟩, logs)) ∧
      (∀ request, App.answer ⟨settings⟩ (tree.lookup settings.assetRoot) request =
        App.answer ⟨settings⟩ (other.lookup settings.assetRoot) request) ∧
      ∀ name bundle, name ≠ settings.assetRoot → bundle.LinkFree → ∀ request,
        App.answer ⟨settings⟩ ((tree.insert [name] bundle).lookup settings.assetRoot) request =
          App.answer ⟨settings⟩ (tree.lookup settings.assetRoot) request := by
  refine ⟨fun logger => ?_, answer_congr_of_sameInSight hfree hother hsame, ?_⟩
  · have hroot := hsame [] (by simp)
    refine ⟨_, create_linkFree hfree logger, ?_⟩
    rw [create_linkFree hother logger, hroot]
  · intro name bundle hname hbundle request
    exact answer_congr_of_sameInSight (Node.linkFree_insert_entry hfree hbundle name) hfree
      (Node.sameInSight_insert_entry tree bundle hname) request

/-! ### The smallest bundle, in other company -/

/-- The smallest bundle with a file kept from view in it and a bundle of the other build beside
it. -/
def crowdedBundle : Node :=
  .dir [(Bundle.alphaDirectory, .dir [(Bundle.indexFile, .file [0x61])]),
    (Bundle.directory, .dir [(".env".toList, .file [0x73]), (Bundle.indexFile, .file [0x68])])]

theorem linkFree_crowdedBundle : crowdedBundle.LinkFree := Node.linkFree_of_links rfl

theorem sameInSight_crowdedBundle :
    Node.SameInSight standard.settings.assetRoot smallBundle crowdedBundle := by
  intro names hvisible
  rw [assetRoot_standard]
  cases names with
  | nil => rfl
  | cons name names =>
      have hname : name ≠ ".env".toList := by
        rintro rfl
        exact hvisible _ List.mem_cons_self (by decide)
      have hchild : (Node.dir [(".env".toList, .file [0x73]),
          (Bundle.indexFile, .file [0x68])]).child? name =
            (Node.dir [(Bundle.indexFile, .file [0x68])]).child? name := by
        rw [Node.child?, Node.entries, List.lookup_cons, beq_false_of_ne hname]
        rfl
      have hsmall : smallBundle.get? (Bundle.directory :: name :: names) =
          (Node.dir [(Bundle.indexFile, .file [0x68])]).get? (name :: names) := rfl
      have hcrowded : crowdedBundle.get? (Bundle.directory :: name :: names) =
          (Node.dir [(".env".toList, .file [0x73]),
            (Bundle.indexFile, .file [0x68])]).get? (name :: names) := rfl
      rw [hsmall, hcrowded, Node.get?, Node.get?, hchild]

theorem answer_crowdedBundle :
    smallBundle.LinkFree ∧ crowdedBundle.LinkFree ∧
      Node.SameInSight standard.settings.assetRoot smallBundle crowdedBundle ∧
      standard.answer (smallBundle.lookup standard.settings.assetRoot)
          (.simple .get "/.env".toList) =
        standard.answer (crowdedBundle.lookup standard.settings.assetRoot)
          (.simple .get "/.env".toList) :=
  ⟨linkFree_smallBundle, linkFree_crowdedBundle, sameInSight_crowdedBundle,
    (answer_eq_of_sameInSight standard.settings linkFree_smallBundle linkFree_crowdedBundle
      sameInSight_crowdedBundle).2.1 _⟩

end App

end SpaServer
