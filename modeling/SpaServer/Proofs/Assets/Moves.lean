import Mathlib
import SpaServer.Proofs.Assets.Mounts
import SpaServer.Proofs.Assets.Names

/-!
# Where a moved directory leads

A directory that is asked for without a slash at its end is moved to the path with the slash. Both
paths have the same names, so each mount finds under the new path what it found under the old one,
and a path with a slash at its end is never moved. So a client that follows is moved once, and gets
the entry document that the directory has at the same mount. If there is none the root mount leaves
the path to the console, which may have another directory there.
-/

namespace SpaServer

theorem assetNames_append_single (path : Text) : assetNames (path ++ ['/']) = assetNames path := by
  rw [assetNames_append_slash, assetNames_nil, List.append_nil]

/-- With or without a slash at its end a path has the same entry document. -/
theorem assetNames_entryDocument (path : Text) :
    assetNames (path ++ ['/'] ++ '/' :: Bundle.indexFile) =
      assetNames (path ++ '/' :: Bundle.indexFile) := by
  rw [assetNames_append_slash, assetNames_append_single, assetNames_append_slash]

namespace Lookup

variable {lookup : Lookup} {path inner target : Text} {asset : Asset}

/-! ### The prefix of a path with a slash at its end -/

theorem eq_append_of_stripConsole (hinner : stripConsole path = some inner) :
    path = consolePrefix ++ inner ∧ (inner = [] ∨ inner.head? = some '/') := by
  rw [stripConsole] at hinner
  split at hinner
  · rename_i hpath
    obtain rfl := Option.some.inj hinner
    exact ⟨by rw [hpath, List.append_nil], Or.inl rfl⟩
  · split at hinner
    · rename_i hfront
      obtain ⟨rest, rfl⟩ := List.isPrefixOf_iff_prefix.1 hfront
      rw [List.append_assoc, List.drop_left] at hinner
      obtain rfl := Option.some.inj hinner
      exact ⟨List.append_assoc _ _ _, Or.inr rfl⟩
    · simp at hinner

/-- The slash at the end of a path stays at the end of what is left behind the prefix. -/
theorem stripConsole_append_single (path : Text) :
    stripConsole (path ++ ['/']) = (stripConsole path).map (· ++ ['/']) := by
  cases hinner : stripConsole path with
  | none =>
      rw [stripConsole_eq_none_iff] at hinner
      rw [Option.map_none, stripConsole_eq_none_iff, List.prefix_concat_iff, not_or]
      refine ⟨fun heq => ?_, hinner⟩
      have hlast := congrArg List.getLast? ((List.append_left_inj _).1 heq)
      rw [List.getLast?_concat] at hlast
      exact absurd hlast (by decide)
  | some inner =>
      obtain ⟨rfl, hslash⟩ := eq_append_of_stripConsole hinner
      have hhead : (inner ++ ['/']).head? = some '/' := by
        rcases hslash with rfl | hslash
        · rfl
        · rw [List.head?_append, hslash, Option.some_or]
      rw [List.append_assoc, stripConsole_append hhead, Option.map_some]

/-! ### The mount that settles a path -/

/-- Whether `inner` is what the mount that settles a path reads of it. The root mount settles what
it does not miss, and leaves paths with the prefix to the console. -/
inductive Settles (lookup : Lookup) (path : Text) : Text → Prop
  | root (hroot : lookup.matchMount path path ≠ .ok none) : Settles lookup path path
  | console {inner : Text} (hroot : lookup.matchMount path path = .ok none)
      (hinner : stripConsole path = some inner) : Settles lookup path inner

theorem exists_settles {found : Match} (hmatch : lookup.matchMounts path = .ok (some found)) :
    ∃ inner, lookup.Settles path inner ∧ lookup.matchMount inner path = .ok (some found) := by
  rw [matchMounts] at hmatch
  split at hmatch
  · simp at hmatch
  · rename_i root hroot
    rw [← hmatch]
    exact ⟨path, .root (by simp [hroot]), hroot⟩
  · rename_i hroot
    split at hmatch
    · rename_i inner hinner
      exact ⟨inner, .console hroot hinner, hmatch⟩
    · simp at hmatch

/-! ### Directories at a mount -/

theorem directory_of_matchMount
    (hmatch : lookup.matchMount inner path = .ok (some (.redirect asset target))) :
    lookup.find inner = .ok (some asset) ∧ asset.entity = .directory := by
  rw [matchMount] at hmatch
  split at hmatch
  · simp at hmatch
  · simp at hmatch
  · rename_i found hfind
    rw [hfind]
    cases hentity : found.entity with
    | file content => simp [hentity] at hmatch
    | other => simp [hentity] at hmatch
    | directory =>
        simp only [hentity] at hmatch
        split at hmatch
        · split at hmatch
          · rename_i index _
            cases index <;> simp at hmatch
          · simp at hmatch
        · simp only [Except.ok.injEq, Option.some.injEq, Match.redirect.injEq] at hmatch
          obtain ⟨rfl, _⟩ := hmatch
          exact ⟨rfl, hentity⟩

/-- With a slash at its end a directory stands for its entry document. -/
theorem matchMount_append_single (path : Text) (hfind : lookup.find inner = .ok (some asset))
    (hentity : asset.entity = .directory) :
    lookup.matchMount (inner ++ ['/']) (path ++ ['/']) =
      (lookup.findFile (inner ++ '/' :: Bundle.indexFile)).map (Option.map .serve) := by
  rw [matchMount, lookup.find_congr (assetNames_append_single inner), hfind]
  simp only [hentity, List.getLast?_concat, if_true]
  rw [lookup.findFile_congr (assetNames_entryDocument inner)]
  cases lookup.findFile (inner ++ '/' :: Bundle.indexFile) <;> rfl

/-- What a mount misses without a slash at the end it misses with the slash. -/
theorem matchMount_append_single_of_miss (hslash : path.getLast? ≠ some '/')
    (hmiss : lookup.matchMount path path = .ok none) :
    lookup.matchMount (path ++ ['/']) (path ++ ['/']) = .ok none := by
  rw [matchMount, lookup.find_congr (assetNames_append_single path)]
  rw [matchMount] at hmiss
  cases hfind : lookup.find path with
  | error errno => simp [hfind] at hmiss
  | ok found =>
      cases found with
      | none => rfl
      | some asset =>
          obtain ⟨place, entity⟩ := asset
          cases entity with
          | file content => simp [hfind] at hmiss
          | other => rfl
          | directory => simp [hfind, hslash] at hmiss

/-! ### Following a redirect -/

/-- **A directory is moved once**, to its path with a slash. There its entry document is matched, if
the mount that has the directory has one, and a search for it that fails is the outcome. Without an
entry document the console has the new path if the root mount had the directory, and else nothing
is matched. -/
theorem matchMounts_of_moved
    (hmatch : lookup.matchMounts path = .ok (some (.redirect asset target))) :
    path.getLast? ≠ some '/' ∧ target = path ++ ['/'] ∧ asset.entity = .directory ∧
      (∀ other further, lookup.matchMounts target ≠ .ok (some (.redirect other further))) ∧
      ∃ inner, lookup.Settles path inner ∧ lookup.find inner = .ok (some asset) ∧
        (∀ file, lookup.findFile (inner ++ '/' :: Bundle.indexFile) = .ok (some file) →
          lookup.matchMounts target = .ok (some (.serve file))) ∧
        (∀ errno, lookup.findFile (inner ++ '/' :: Bundle.indexFile) = .error errno →
          lookup.matchMounts target = .error errno) ∧
        (lookup.findFile (inner ++ '/' :: Bundle.indexFile) = .ok none →
          lookup.matchMounts target =
            match stripConsole path with
            | some rest =>
              if inner = path then lookup.matchMount (rest ++ ['/']) target else .ok none
            | none => .ok none) := by
  obtain ⟨rfl, hslash⟩ := redirect_of_matchMounts hmatch
  have hstays : ∀ other further,
      lookup.matchMounts (path ++ ['/']) ≠ .ok (some (.redirect other further)) :=
    fun other further hagain => (redirect_of_matchMounts hagain).2 List.getLast?_concat
  obtain ⟨inner, hsettles, hinner⟩ := exists_settles hmatch
  obtain ⟨hfind, hentity⟩ := directory_of_matchMount hinner
  have hmount := matchMount_append_single path hfind hentity
  refine ⟨hslash, rfl, hentity, hstays, inner, hsettles, hfind, ?_⟩
  cases hsettles with
  | root hroot =>
      rw [matchMounts, hmount, stripConsole_append_single]
      refine ⟨fun file hindex => ?_, fun errno hindex => ?_, fun hindex => ?_⟩
      · rw [hindex]
        rfl
      · rw [hindex]
        rfl
      · rw [hindex]
        cases stripConsole path with
        | none => rfl
        | some rest => simp [Except.map]
  | console hroot hstrip =>
      have hne : inner ≠ path := by
        rintro rfl
        have hprefix := List.self_eq_append_left.1 (eq_append_of_stripConsole hstrip).1
        exact absurd hprefix (by decide)
      rw [matchMounts, matchMount_append_single_of_miss hslash hroot, stripConsole_append_single,
        hstrip]
      simp only [Option.map_some, hmount, if_neg hne]
      refine ⟨fun file hindex => ?_, fun errno hindex => ?_, fun hindex => ?_⟩ <;> rw [hindex] <;>
        rfl

/-! ### Directories without an entry document -/

/-- A bundle whose directory `console` is empty. -/
def overlaidBundle : Node :=
  .dir [(Bundle.directory, .dir [("console".toList, .dir []), (Bundle.indexFile, .file [0x68])])]

/-- The empty directory is moved, and under the new path the console has the bundle itself. -/
theorem moved_overlaidBundle :
    (overlaidBundle.lookup Bundle.directory).matchMounts "/console".toList =
        .ok (some (.redirect ⟨.inside [Bundle.directory, "console".toList], .directory⟩
          "/console/".toList)) ∧
      (overlaidBundle.lookup Bundle.directory).matchMounts "/console/".toList =
        .ok (some (.serve ⟨.inside [Bundle.directory, Bundle.indexFile], [0x68]⟩)) := by
  have hmatch : (overlaidBundle.lookup Bundle.directory).matchMounts "/console".toList =
      .ok (some (.redirect ⟨.inside [Bundle.directory, "console".toList], .directory⟩
        "/console/".toList)) := by cbv
  obtain ⟨_, _, _, _, inner, hsettles, _, _, _, hnone⟩ := matchMounts_of_moved hmatch
  have hinner : inner = "/console".toList := by
    cases hsettles with
    | root => rfl
    | console hroot =>
        have hfound : (overlaidBundle.lookup Bundle.directory).matchMount "/console".toList
            "/console".toList ≠ .ok none := by cbv; simp
        exact absurd hroot hfound
  subst hinner
  refine ⟨hmatch, (hnone (by cbv)).trans ?_⟩
  cbv

/-- A bundle with a directory whose entry document is a link to itself. -/
def knottedBundle : Node :=
  .dir [(Bundle.directory, .dir [("js".toList, .dir [(Bundle.indexFile, .link Bundle.indexFile)])])]

/-- Where an entry document cannot be looked up, a path that is followed is neither matched nor
missed. -/
theorem moved_to_failure :
    (knottedBundle.lookup Bundle.directory).matchMounts "/js".toList =
        .ok (some (.redirect ⟨.inside [Bundle.directory, "js".toList], .directory⟩
          "/js/".toList)) ∧
      (∀ file, (knottedBundle.lookup Bundle.directory).findFile
        ("/js".toList ++ '/' :: Bundle.indexFile) ≠ .ok (some file)) ∧
      stripConsole "/js".toList = none ∧
      (knottedBundle.lookup Bundle.directory).matchMounts "/js/".toList =
        .error tooManyLinks := by
  have hfails : (knottedBundle.lookup Bundle.directory).findFile
      ("/js".toList ++ '/' :: Bundle.indexFile) = .error tooManyLinks := by cbv
  refine ⟨by cbv, ?_, by decide, by cbv⟩
  intro file hfile
  rw [hfails] at hfile
  simp at hfile

end Lookup

end SpaServer
