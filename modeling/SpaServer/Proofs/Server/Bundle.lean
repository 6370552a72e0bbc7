import SpaServer.Proofs.Assets.LinkFree
import SpaServer.Proofs.Assets.Mounts
import SpaServer.Proofs.Assets.Root
import SpaServer.Server.App

/-!
# The bundle of an application

The names under which a bundle lies are proper names and short ones, in either build. So an entry
document that stands in a tree without links is found, and where any tree at all has an entry
document its asset root is a directory.
-/

namespace SpaServer

theorem Settings.assetRoot_cases (settings : Settings) :
    settings.assetRoot = Bundle.alphaDirectory ∨ settings.assetRoot = Bundle.directory := by
  rw [assetRoot]
  split
  · exact Or.inl rfl
  · exact Or.inr rfl

theorem Settings.properName_assetRoot (settings : Settings) : ProperName settings.assetRoot := by
  rcases settings.assetRoot_cases with hroot | hroot <;> rw [hroot] <;>
    exact ⟨by decide, by decide, by decide⟩

theorem Settings.short_assetRoot (settings : Settings) :
    settings.assetRoot.utf8.length ≤ Node.maxNameBytes := by
  rcases settings.assetRoot_cases with hroot | hroot <;> rw [hroot] <;> decide

theorem properName_indexFile : ProperName Bundle.indexFile := ⟨by decide, by decide, by decide⟩

theorem assetNames_indexFile : assetNames Bundle.indexFile = [Bundle.indexFile] :=
  assetNames_single (by decide) (by decide)

theorem assetNames_slash_indexFile (path : Text) (hpath : assetNames path = []) :
    assetNames (path ++ '/' :: Bundle.indexFile) = [Bundle.indexFile] := by
  rw [assetNames_append_slash, hpath, assetNames_indexFile, List.nil_append]

theorem askable_indexFile (settings : Settings) :
    Askable settings.assetRoot [Bundle.indexFile] := by
  have hfits : Node.Fits [settings.assetRoot, Bundle.indexFile] := by
    rcases settings.assetRoot_cases with hroot | hroot <;> rw [hroot] <;> decide
  exact ⟨by decide, by decide, by decide, hfits⟩

namespace App

def standard : App where
  settings :=
    { deployment := []
      port := Settings.defaultPort
      host := Settings.defaultHost
      logLevel := Settings.defaultLogLevel }

theorem assetRoot_standard : standard.settings.assetRoot = Bundle.directory := by
  rw [Settings.assetRoot, if_neg (by decide)]

variable {tree : Node} {settings : Settings}

theorem findFile_indexFile (hfree : tree.LinkFree) {content : Bytes}
    (hindex : tree.get? [settings.assetRoot, Bundle.indexFile] = some (.file content)) :
    (tree.lookup settings.assetRoot).findFile Bundle.indexFile =
      .ok (some ⟨.inside [settings.assetRoot, Bundle.indexFile], content⟩) := by
  refine Lookup.findFile_of_find ((Node.find_linkFree hfree settings.properName_assetRoot).2 ?_)
  rw [assetNames_indexFile]
  exact ⟨askable_indexFile settings, _, hindex, rfl⟩

theorem findFile_indexFile_eq_none_iff (hfree : tree.LinkFree) :
    (tree.lookup settings.assetRoot).findFile Bundle.indexFile = .ok none ↔
      ∀ content, tree.get? [settings.assetRoot, Bundle.indexFile] ≠ some (.file content) := by
  constructor
  · intro hnone content hindex
    rw [findFile_indexFile hfree hindex] at hnone
    simp at hnone
  · intro hnone
    rcases Node.find_linkFree_cases hfree settings.properName_assetRoot Bundle.indexFile with
      ⟨_, node, hnode, hfind⟩ | ⟨_, hfind⟩
    · rw [assetNames_indexFile] at hnode
      rw [Lookup.findFile, hfind]
      cases node with
      | file content => exact absurd hnode (hnone content)
      | _ => rfl
    · rw [Lookup.findFile, hfind]
      rfl

theorem matchMount_of_get? {inner path : Text} {content : Bytes} (hfree : tree.LinkFree)
    (haskable : Askable settings.assetRoot (assetNames inner))
    (hfile : tree.get? (settings.assetRoot :: assetNames inner) = some (.file content)) :
    (tree.lookup settings.assetRoot).matchMount inner path =
      .ok (some (.serve ⟨.inside (settings.assetRoot :: assetNames inner), content⟩)) :=
  Lookup.matchMount_of_file ((Node.find_linkFree hfree settings.properName_assetRoot).2
    ⟨haskable, _, hfile, rfl⟩)

theorem matchMount_of_absent {inner path : Text} (hfree : tree.LinkFree)
    (hnone : tree.get? (settings.assetRoot :: assetNames inner) = none) :
    (tree.lookup settings.assetRoot).matchMount inner path = .ok none :=
  Lookup.matchMount_of_miss (Node.find_linkFree_eq_none hfree settings.properName_assetRoot inner
    fun _ => hnone)

/-- A directory is asked for without a slash at the end, and found at the root mount. -/
theorem matchMounts_of_directory {path : Text} {entries : List (Text × Node)}
    (hfree : tree.LinkFree) (haskable : Askable settings.assetRoot (assetNames path))
    (hdirectory : tree.get? (settings.assetRoot :: assetNames path) = some (.dir entries))
    (hlast : path.getLast? ≠ some '/') :
    (tree.lookup settings.assetRoot).matchMounts path =
      .ok (some (.redirect ⟨.inside (settings.assetRoot :: assetNames path), .directory⟩
        (path ++ ['/']))) := by
  refine Lookup.matchMounts_of_root ?_
  rw [Lookup.matchMount, (Node.find_linkFree hfree settings.properName_assetRoot).2
    ⟨haskable, _, hdirectory, rfl⟩]
  simp only [Node.entity, if_neg hlast]

/-- A path without names leads to the asset root, which is a directory if there is an entry
document. -/
theorem find_root {file : File} {path : Text} (hpath : assetNames path = [])
    (hindex : (tree.lookup settings.assetRoot).findFile Bundle.indexFile = .ok (some file)) :
    (tree.lookup settings.assetRoot).find path =
      .ok (some ⟨tree.realPlace [settings.assetRoot], .directory⟩) := by
  obtain ⟨hlookup, _⟩ := Lookup.offers_of_findFile hindex
  rw [assetNames_indexFile] at hlookup
  rw [Lookup.find, hpath, if_neg (by decide),
    Node.lookup_root_of_file settings.properName_assetRoot properName_indexFile hlookup]

theorem matchMount_root {file : File} (inner path : Text) (hinner : assetNames inner = [])
    (hslash : path.getLast? = some '/')
    (hindex : (tree.lookup settings.assetRoot).findFile Bundle.indexFile = .ok (some file)) :
    (tree.lookup settings.assetRoot).matchMount inner path = .ok (some (.serve file)) := by
  refine Lookup.matchMount_of_directory (find_root hinner hindex) hslash ?_
  rw [Lookup.findFile_congr _ ((assetNames_slash_indexFile inner hinner).trans
    assetNames_indexFile.symm), hindex]

/-! ### No bundle -/

theorem findFile_indexFile_empty (settings : Settings) :
    (Node.empty.lookup settings.assetRoot).findFile Bundle.indexFile = .ok none :=
  (findFile_indexFile_eq_none_iff (Node.linkFree_of_links rfl)).2 fun _ => nofun

theorem matchMounts_empty (settings : Settings) (path : Text) :
    (Node.empty.lookup settings.assetRoot).matchMounts path = .ok none := by
  have hfree : Node.empty.LinkFree := Node.linkFree_of_links rfl
  rw [Lookup.matchMounts, matchMount_of_absent hfree rfl]
  cases stripConsole path with
  | none => rfl
  | some inner => exact matchMount_of_absent hfree rfl

/-! ### The smallest bundle -/

def smallBundle : Node := .dir [(Bundle.directory, .dir [(Bundle.indexFile, .file [0x68])])]

theorem linkFree_smallBundle : smallBundle.LinkFree := Node.linkFree_of_links rfl

theorem get?_smallBundle :
    smallBundle.get? [standard.settings.assetRoot, Bundle.indexFile] = some (.file [0x68]) := by
  rw [assetRoot_standard]
  rfl

end App

end SpaServer
