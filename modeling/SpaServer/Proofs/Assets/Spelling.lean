import SpaServer.Proofs.Assets.Moves

/-!
# Spellings of a path

Slashes that are doubled or stand at an end give a path another spelling with the same names. Every
mount finds the same under all spellings of what it reads. What a path matches depends on its
spelling in two ways only: by the slash at the end, without which a directory is moved, and by the
prefix of the console, which is looked for in the spelling and not in the names.
-/

namespace SpaServer.Lookup

/-- Whether two outcomes are the same: the same failure, no match, the same file, or the same
directory, moved to each path with a slash at its end. -/
inductive SameOutcome (path other : Text) :
    Except Errno (Option Match) → Except Errno (Option Match) → Prop
  | failure (errno : Errno) : SameOutcome path other (.error errno) (.error errno)
  | miss : SameOutcome path other (.ok none) (.ok none)
  | file (file : File) :
    SameOutcome path other (.ok (some (.serve file))) (.ok (some (.serve file)))
  | directory (asset : Asset) : SameOutcome path other
      (.ok (some (.redirect asset (path ++ ['/'])))) (.ok (some (.redirect asset (other ++ ['/']))))

variable {path other inner inner' : Text}

/-- The prefix of the console is the first name of a path, and what is left has the other names. -/
theorem assetNames_of_stripConsole (hinner : stripConsole path = some inner) :
    assetNames path = "console".toList :: assetNames inner := by
  obtain ⟨rfl, hslash⟩ := eq_append_of_stripConsole hinner
  exact assetNames_slash_append (by decide) (by decide) hslash

/-- A mount that reads two spellings of the same names has the same outcome, if the paths that they
are read of agree on the slash at the end. -/
theorem sameOutcome_matchMount (lookup : Lookup) (hnames : assetNames inner = assetNames inner')
    (hslash : path.getLast? = some '/' ↔ other.getLast? = some '/') :
    SameOutcome path other (lookup.matchMount inner path) (lookup.matchMount inner' other) := by
  have hindex : lookup.findFile (inner ++ '/' :: Bundle.indexFile) =
      lookup.findFile (inner' ++ '/' :: Bundle.indexFile) := by
    apply lookup.findFile_congr
    rw [assetNames_append_slash, assetNames_append_slash, hnames]
  rw [matchMount, matchMount, ← lookup.find_congr hnames, ← hindex]
  cases lookup.find inner with
  | error errno => exact .failure errno
  | ok found =>
      cases found with
      | none => exact .miss
      | some asset =>
          obtain ⟨place, entity⟩ := asset
          cases entity with
          | file content => exact .file ⟨place, content⟩
          | other => exact .miss
          | directory =>
              simp only
              by_cases hlast : path.getLast? = some '/'
              · rw [if_pos hlast, if_pos (hslash.1 hlast)]
                cases lookup.findFile (inner ++ '/' :: Bundle.indexFile) with
                | error errno => exact .failure errno
                | ok file =>
                    cases file with
                    | none => exact .miss
                    | some file => exact .file file
              · rw [if_neg hlast, if_neg fun hother => hlast (hslash.2 hother)]
                exact .directory ⟨place, .directory⟩

theorem sameOutcome_matchMounts (lookup : Lookup) (hnames : assetNames path = assetNames other)
    (hslash : path.getLast? = some '/' ↔ other.getLast? = some '/')
    (hsides : (stripConsole path).isSome = (stripConsole other).isSome) :
    SameOutcome path other (lookup.matchMounts path) (lookup.matchMounts other) := by
  have hroot := sameOutcome_matchMount lookup hnames hslash
  rw [matchMounts, matchMounts]
  generalize lookup.matchMount path path = first at hroot ⊢
  generalize lookup.matchMount other other = second at hroot ⊢
  cases hroot with
  | failure errno => exact .failure errno
  | file file => exact .file file
  | directory asset => exact .directory asset
  | miss =>
      -- Both or neither go on to the console, and there the same names are left.
      cases hinner : stripConsole path with
      | none =>
          rw [hinner, Option.isSome_none, eq_comm, Option.isSome_eq_false_iff,
            Option.isNone_iff_eq_none] at hsides
          rw [hsides]
          exact .miss
      | some inner =>
          rw [hinner, Option.isSome_some, eq_comm, Option.isSome_iff_exists] at hsides
          obtain ⟨inner', hinner'⟩ := hsides
          rw [assetNames_of_stripConsole hinner, assetNames_of_stripConsole hinner',
            List.cons.injEq] at hnames
          rw [hinner']
          exact sameOutcome_matchMount lookup hnames.2 hslash

/-- **What a path leads to depends on its names**, and its match besides on the prefix of the
console and on the slash at the end; on neither of them if the root mount has a file for it. -/
theorem outcomes_of_spellings (lookup : Lookup) (hnames : assetNames path = assetNames other) :
    lookup.find path = lookup.find other ∧ lookup.findFile path = lookup.findFile other ∧
      ((path.getLast? = some '/' ↔ other.getLast? = some '/') →
        (stripConsole path).isSome = (stripConsole other).isSome →
        SameOutcome path other (lookup.matchMounts path) (lookup.matchMounts other)) ∧
      ∀ file, lookup.findFile path = .ok (some file) ∨
          lookup.matchMount path path = .ok (some (.serve file)) ∧
            lookup.matchMount other other = .ok (some (.serve file)) →
        lookup.matchMounts path = .ok (some (.serve file)) ∧
          lookup.matchMounts other = .ok (some (.serve file)) := by
  refine ⟨lookup.find_congr hnames, lookup.findFile_congr hnames,
    sameOutcome_matchMounts lookup hnames, fun file hfile => ?_⟩
  rcases hfile with hfile | ⟨hpath, hother⟩
  · have hfind := find_of_findFile hfile
    have hfind' := (lookup.find_congr hnames).symm.trans hfind
    exact ⟨matchMounts_of_root (matchMount_of_file hfind),
      matchMounts_of_root (matchMount_of_file hfind')⟩
  · exact ⟨matchMounts_of_root hpath, matchMounts_of_root hother⟩

/-! ### Doubled slashes -/

/-- A bundle with a directory, and with a file in the directory `console`. -/
def slashedBundle : Node :=
  .dir [(Bundle.directory, .dir [("js".toList, .dir []),
    ("console".toList, .dir [("a".toList, .file [0x61])])])]

theorem matchMounts_slashedBundle :
    (slashedBundle.lookup Bundle.directory).matchMounts "/console//js".toList =
      .ok (some (.redirect ⟨.inside [Bundle.directory, "js".toList], .directory⟩
        "/console//js/".toList)) := by
  have hmiss : (slashedBundle.lookup Bundle.directory).find "/console//js".toList = .ok none := by
    cbv
  have hfind : (slashedBundle.lookup Bundle.directory).find "//js".toList =
      .ok (some ⟨.inside [Bundle.directory, "js".toList], .directory⟩) := by cbv
  have hinner : stripConsole "/console//js".toList = some "//js".toList := rfl
  rw [matchMounts, matchMount_of_miss hmiss, hinner]
  simp only [matchMount, hfind]
  rfl

theorem findFile_slashedBundle :
    (slashedBundle.lookup Bundle.directory).findFile "/console/a".toList =
      .ok (some ⟨.inside [Bundle.directory, "console".toList, "a".toList], [0x61]⟩) := by cbv

/-- A directory of the console is moved to each spelling with a slash. A file of the root mount is
served under any spelling, also with a slash behind it and without the prefix. -/
theorem outcomes_slashedBundle :
    (assetNames "/console//js".toList = assetNames "/console/js".toList ∧
      assetNames "/console/a".toList = assetNames "//console/a/".toList) ∧
      SameOutcome "/console//js".toList "/console/js".toList
        (.ok (some (.redirect ⟨.inside [Bundle.directory, "js".toList], .directory⟩
          "/console//js/".toList)))
        ((slashedBundle.lookup Bundle.directory).matchMounts "/console/js".toList) ∧
      stripConsole "//console/a/".toList = none ∧
      (slashedBundle.lookup Bundle.directory).matchMounts "//console/a/".toList =
        .ok (some (.serve ⟨.inside [Bundle.directory, "console".toList, "a".toList], [0x61]⟩)) := by
  have hdirectory : assetNames "/console//js".toList = assetNames "/console/js".toList := by decide
  have hfile : assetNames "/console/a".toList = assetNames "//console/a/".toList := by decide
  have hsame := (outcomes_of_spellings (slashedBundle.lookup Bundle.directory)
    hdirectory).2.2.1 (by decide) (by decide)
  have hfound := (outcomes_of_spellings (slashedBundle.lookup Bundle.directory) hfile).2.2.2 _
    (Or.inl findFile_slashedBundle)
  rw [matchMounts_slashedBundle] at hsame
  exact ⟨⟨hdirectory, hfile⟩, hsame, by decide, hfound.2⟩

end SpaServer.Lookup
