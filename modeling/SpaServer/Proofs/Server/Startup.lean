import Mathlib
import SpaServer.Proofs.Files.Reach
import SpaServer.Proofs.Server.Bundle
import SpaServer.Server.Startup

/-!
# Starting without a bundle

An application is made whether or not its asset root is a directory, and if it is none there is a
warning. Two things keep an application from being made, and both of them need a link at the asset
root: it leads to a name that is too long for the file system, or it leads over a link that is met
again to a place which is out of reach for all the links before it.
-/

namespace SpaServer

namespace Node

variable {tree : Node} {root : Text} {place : Place}

/-- Whether names lead from the working directory to a directory, over no more links than the file
system follows. -/
def LeadsToDirectory (tree : Node) (names : List Text) : Prop :=
  ∃ links ≤ maxLinks, ∃ there, tree.Reaches links .home names there [] ∧ tree.IsDirAt there

/-- Whether names lead from the working directory to a name that is too long. -/
def MeetsOverlong (tree : Node) (names : List Text) : Prop :=
  ∃ links ≤ maxLinks, ∃ there name rest, tree.Reaches links .home names there (name :: rest) ∧
    tree.IsDirAt there ∧ ProperName name ∧ maxNameBytes < name.utf8.length

/-- Whether one more link is ahead on the way to a place when the file system has followed as many
as it does. -/
def BehindLinks (tree : Node) (place : Place) : Prop :=
  pathBytes place ≤ maxPathBytes ∧
    ∃ there name rest target, tree.Reaches maxLinks place.base place.path there (name :: rest) ∧
      ProperName name ∧ name.utf8.length ≤ maxNameBytes ∧
        tree.at? (there.child name) = some (.link target)

/-- Whether a link is met again when names are resolved, and the place that is left of them cannot
be reached for links. -/
def LoopsTo (tree : Node) (names : List Text) (place : Place) : Prop :=
  tree.resolution names = .looping place ∧ tree.BehindLinks place

theorem stat_eq_walk (tree : Node) (hshort : pathBytes place ≤ maxPathBytes) :
    tree.stat place = tree.walk maxLinks place.base place.path := by
  rw [stat, if_neg (Nat.not_lt.2 hshort)]

theorem stat_eq_dir_iff (tree : Node) {names : List Text}
    (hshort : pathBytes (.inside names) ≤ maxPathBytes) :
    (∃ entries, tree.stat (.inside names) = .ok (.dir entries)) ↔ tree.LeadsToDirectory names := by
  rw [stat_eq_walk tree hshort]
  simp only [walk_eq_iff]
  constructor
  · rintro ⟨entries, left, links, there, ahead, hbudget, hreaches, hstops⟩
    cases hstops with
    | arrived hnode => exact ⟨links, hbudget ▸ Nat.le_add_left _ _, there, hreaches, entries, hnode⟩
  · rintro ⟨links, hlinks, there, hreaches, entries, hnode⟩
    exact ⟨entries, maxLinks - links, links, there, [], (Nat.sub_add_cancel hlinks).symm, hreaches,
      .arrived hnode⟩

theorem stat_eq_nameTooLong_iff (tree : Node) {names : List Text}
    (hshort : pathBytes (.inside names) ≤ maxPathBytes) :
    tree.stat (.inside names) = .error .nameTooLong ↔ tree.MeetsOverlong names := by
  rw [stat_eq_walk tree hshort, walk_eq_iff]
  constructor
  · rintro ⟨left, links, there, ahead, hbudget, hreaches, hstops⟩
    cases hstops with
    | overlong hdir hproper hlong =>
        exact ⟨links, hbudget ▸ Nat.le_add_left _ _, there, _, _, hreaches, hdir, hproper, hlong⟩
  · rintro ⟨links, hlinks, there, name, rest, hreaches, hdir, hproper, hlong⟩
    exact ⟨maxLinks - links, links, there, _, (Nat.sub_add_cancel hlinks).symm, hreaches,
      .overlong hdir hproper hlong⟩

theorem stat_eq_tooManyLinks_iff :
    tree.stat place = .error .tooManyLinks ↔ tree.BehindLinks place := by
  by_cases hshort : pathBytes place ≤ maxPathBytes
  · rw [stat_eq_walk tree hshort, walk_eq_iff]
    constructor
    · rintro ⟨left, links, there, ahead, hbudget, hreaches, hstops⟩
      cases hstops with
      | exhausted hproper hname hlink =>
          obtain rfl : links = maxLinks := by rw [hbudget, Nat.zero_add]
          exact ⟨hshort, there, _, _, _, hreaches, hproper, hname, hlink⟩
    · rintro ⟨_, there, name, rest, target, hreaches, hproper, hname, hlink⟩
      exact ⟨0, maxLinks, there, _, (Nat.zero_add _).symm, hreaches,
        .exhausted hproper hname hlink⟩
  · rw [stat, if_pos (Nat.lt_of_not_le hshort)]
    exact ⟨fun herror => by simp at herror, fun hbehind => absurd hbehind.1 hshort⟩

/-- Only where a link was met again are there links left before the real place. -/
theorem stat_realPlace_eq_tooManyLinks_iff (tree : Node) (names : List Text) :
    tree.stat (tree.realPlace names) = .error .tooManyLinks ↔
      tree.LoopsTo names (tree.realPlace names) := by
  rw [stat_eq_tooManyLinks_iff, LoopsTo]
  cases hresolution : tree.resolution names with
  | looping left => simp [realPlace_of_looping hresolution]
  | settled settled ends =>
      have hstraight := (isStraight_of_settled hresolution).1
      rw [realPlace_of_settled hresolution]
      refine ⟨fun hbehind => ?_, fun hloops => by simp at hloops⟩
      have hwalk := tree.stat_eq_walk hbehind.1
      rw [stat_eq_tooManyLinks_iff.2 hbehind] at hwalk
      rcases walk_straight_error hstraight hwalk.symm with herror | herror | ⟨herror, _⟩ <;>
        simp at herror

theorem not_loopsTo_of_realPlace {names : List Text}
    (hreal : ¬tree.LoopsTo names (tree.realPlace names)) (place : Place) :
    ¬tree.LoopsTo names place := by
  intro hloops
  rw [realPlace_of_looping hloops.1] at hreal
  exact hreal hloops

/-! ### Roots that are no links -/

theorem not_meetsOverlong_of_plain (hroot : ProperName root)
    (hshort : root.utf8.length ≤ maxNameBytes) (hplain : tree.NoLinkAt (.inside [root])) :
    ¬tree.MeetsOverlong [root] := by
  rintro ⟨links, -, there, name, rest, hreaches, -, -, hlong⟩
  cases hreaches with
  | refl => exact absurd hlong (Nat.not_lt.2 hshort)
  | stay _ hname => exact hroot.not_stay hname
  | up => exact hroot.ne_dots rfl
  | down _ _ _ _ hrest => cases hrest
  | follow _ _ hlink => exact hplain _ hlink

theorem not_loopsTo_of_plain (hroot : ProperName root) (hplain : tree.NoLinkAt (.inside [root])) :
    ¬tree.LoopsTo [root] place := by
  rintro ⟨hlooping, -⟩
  rw [resolution, resolve_down hroot rfl hplain, resolve] at hlooping
  exact absurd hlooping (by simp)

end Node

namespace App

open Node

theorem short_root (settings : Settings) :
    pathBytes (.inside [settings.assetRoot]) ≤ maxPathBytes := by
  rcases settings.assetRoot_cases with hroot | hroot <;> rw [hroot] <;> decide

/-- An application is made without or with a warning, or it is not made for one of two reasons. -/
theorem create_cases (logger : Text) (settings : Settings) (tree : Node) :
    (tree.LeadsToDirectory [settings.assetRoot] ∧ ¬tree.MeetsOverlong [settings.assetRoot] ∧
        App.create logger settings tree = .ok (⟨settings⟩, [])) ∨
      (tree.MeetsOverlong [settings.assetRoot] ∧
        App.create logger settings tree = .error (.system nameTooLong)) ∨
      ¬tree.LeadsToDirectory [settings.assetRoot] ∧ ¬tree.MeetsOverlong [settings.assetRoot] ∧
        (tree.LoopsTo [settings.assetRoot] (tree.realPlace [settings.assetRoot]) ∧
            App.create logger settings tree =
              .error (.rootLoop (tree.realPlace [settings.assetRoot])) ∨
          (∀ place, ¬tree.LoopsTo [settings.assetRoot] place) ∧
            App.create logger settings tree =
              .ok (⟨settings⟩, [missingRootLog logger (tree.realPlace [settings.assetRoot])])) := by
  have hdir := tree.stat_eq_dir_iff (short_root settings)
  have hlong := tree.stat_eq_nameTooLong_iff (short_root settings)
  have hloops := stat_realPlace_eq_tooManyLinks_iff tree [settings.assetRoot]
  rw [← hdir, ← hlong, ← hloops, App.create]
  split
  · rename_i entries hstat
    exact Or.inl ⟨⟨entries, hstat⟩, by simp [hstat], rfl⟩
  · rename_i hstat
    exact Or.inr (Or.inl ⟨hstat, rfl⟩)
  · rename_i hnodir hnolong
    refine Or.inr (Or.inr ⟨fun ⟨entries, hstat⟩ => hnodir entries hstat, hnolong, ?_⟩)
    simp only
    split
    · rename_i hstat
      exact Or.inl ⟨hstat, rfl⟩
    · rename_i hstat
      exact Or.inr ⟨not_loopsTo_of_realPlace (mt hloops.2 hstat), rfl⟩

/-- **An application is made unless its asset root is a link to a name that is too long or into a
loop**, and there is a warning exactly if the root does not lead to a directory. -/
theorem create_eq_ok_iff (logger : Text) (settings : Settings) (tree : Node) :
    (∀ app logs, App.create logger settings tree = .ok (app, logs) ↔
      ¬tree.MeetsOverlong [settings.assetRoot] ∧
        (tree.LeadsToDirectory [settings.assetRoot] ∨
          ∀ place, ¬tree.LoopsTo [settings.assetRoot] place) ∧
        app = ⟨settings⟩ ∧
        (tree.LeadsToDirectory [settings.assetRoot] → logs = []) ∧
        (¬tree.LeadsToDirectory [settings.assetRoot] →
          logs = [⟨logger, .warning, "Asset root ".toList ++
            (tree.realPlace [settings.assetRoot]).absolute ++ " does not exist".toList⟩])) ∧
      ((∀ target, tree.get? [settings.assetRoot] ≠ some (.link target)) →
        ¬tree.MeetsOverlong [settings.assetRoot] ∧
          ∀ place, ¬tree.LoopsTo [settings.assetRoot] place) := by
  constructor
  · intro app logs
    rcases create_cases logger settings tree with
      ⟨hdir, hshort, hcreate⟩ | ⟨hlong, hcreate⟩ | ⟨hnodir, hshort, hloops | hsettles⟩
    · rw [hcreate]
      simp [hdir, hshort, eq_comm]
    · rw [hcreate]
      simp [hlong]
    · obtain ⟨hloops, hcreate⟩ := hloops
      rw [hcreate]
      exact iff_of_false nofun fun hmade => hmade.2.1.elim hnodir fun hnone => hnone _ hloops
    · obtain ⟨hnone, hcreate⟩ := hsettles
      rw [hcreate, missingRootLog]
      simp [hnodir, hshort, hnone, eq_comm]
  · intro hplain
    exact ⟨not_meetsOverlong_of_plain settings.properName_assetRoot settings.short_assetRoot hplain,
      fun _ => not_loopsTo_of_plain settings.properName_assetRoot hplain⟩

/-! ### Links at the asset root -/

/-- A working directory with nothing but a link at the asset root. -/
def linkedRoot (target : Text) : Node := .dir [(Bundle.directory, .link target)]

set_option maxRecDepth 4000 in
/-- A link to itself at the asset root, and one to a name that is too long, keep an application from
being made. -/
theorem linked_root_prevents_app :
    App.create App.logger standard.settings (linkedRoot Bundle.directory) =
        .error (.rootLoop (.inside [Bundle.directory])) ∧
      App.create App.logger standard.settings (linkedRoot (List.replicate 256 'a')) =
        .error (.system nameTooLong) := by
  have hloop : (linkedRoot Bundle.directory).stat (.inside [Bundle.directory]) =
      .error .tooManyLinks := by cbv
  have hreal : (linkedRoot Bundle.directory).realPlace [Bundle.directory] =
      .inside [Bundle.directory] := by cbv
  have hlong : (linkedRoot (List.replicate 256 'a')).stat (.inside [Bundle.directory]) =
      .error .nameTooLong := by cbv
  constructor
  · rw [App.create, assetRoot_standard]
    simp only [hloop, hreal]
  · rw [App.create, assetRoot_standard]
    simp only [hlong]

end App

end SpaServer
