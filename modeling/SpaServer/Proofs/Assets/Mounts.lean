import SpaServer.Assets.Mount

/-!
# What the mounts serve

Every file that a path matches was found under some path, and then by the lookup under the names of
that path, none of which is hidden. Whatever is said of the files that a lookup finds is thereby
said of the files that are served. The other way round, what is found under a path decides what the
path matches.
-/

namespace SpaServer.Lookup

variable {lookup : Lookup}

/-- Whether the lookup has the file under names that are not hidden. -/
def Offers (lookup : Lookup) (names : List Text) (file : File) : Prop :=
  lookup names = .ok (some ⟨file.place, .file file.content⟩) ∧ ∀ name ∈ names, ¬isHidden name

theorem lookup_of_find {path : Text} {asset : Asset} (hfind : lookup.find path = .ok (some asset)) :
    lookup (assetNames path) = .ok (some asset) ∧ ∀ name ∈ assetNames path, ¬isHidden name := by
  rw [find] at hfind
  split at hfind
  · simp at hfind
  · rename_i hvisible
    rw [List.any_eq_true] at hvisible
    refine ⟨?_, fun name hname hhidden => hvisible ⟨name, hname, hhidden⟩⟩
    split at hfind
    · rename_i found hfound
      rw [hfound, Except.ok.inj hfind]
    · simp at hfind
    · split at hfind <;> simp at hfind

theorem find_of_findFile {path : Text} {file : File}
    (hfind : lookup.findFile path = .ok (some file)) :
    lookup.find path = .ok (some ⟨file.place, .file file.content⟩) := by
  rw [findFile] at hfind
  split at hfind
  · rename_i found hfound
    cases found with
    | none => simp at hfind
    | some asset =>
        obtain ⟨place, entity⟩ := asset
        cases entity with
        | file content =>
            obtain rfl : (⟨place, content⟩ : File) = file := by
              simpa [Asset.file?] using hfind
            exact hfound
        | directory => simp [Asset.file?] at hfind
        | other => simp [Asset.file?] at hfind
  · simp at hfind

theorem offers_of_findFile {path : Text} {file : File}
    (hfind : lookup.findFile path = .ok (some file)) : lookup.Offers (assetNames path) file :=
  lookup_of_find (find_of_findFile hfind)

theorem findFile_of_find {path : Text} {place : Place} {content : Bytes}
    (hfind : lookup.find path = .ok (some ⟨place, .file content⟩)) :
    lookup.findFile path = .ok (some ⟨place, content⟩) := by
  rw [findFile, hfind]
  rfl

theorem findFile_of_matchMount {inner path : Text} {file : File}
    (hmatch : lookup.matchMount inner path = .ok (some (.serve file))) :
    ∃ found, lookup.findFile found = .ok (some file) := by
  rw [matchMount] at hmatch
  split at hmatch
  · simp at hmatch
  · simp at hmatch
  · rename_i asset hfind
    obtain ⟨place, entity⟩ := asset
    cases entity with
    | file content =>
        obtain rfl : (⟨place, content⟩ : File) = file := by simpa using hmatch
        exact ⟨inner, findFile_of_find hfind⟩
    | other => simp at hmatch
    | directory =>
        simp only at hmatch
        split at hmatch
        · refine ⟨inner ++ '/' :: Bundle.indexFile, ?_⟩
          split at hmatch
          · rename_i index hindex
            rw [hindex]
            cases index <;> simp_all
          · simp at hmatch
        · simp at hmatch

theorem findFile_of_matchMounts {path : Text} {file : File}
    (hmatch : lookup.matchMounts path = .ok (some (.serve file))) :
    ∃ found, lookup.findFile found = .ok (some file) := by
  rw [matchMounts] at hmatch
  split at hmatch
  · simp at hmatch
  · rename_i found hroot
    obtain rfl := Option.some.inj (Except.ok.inj hmatch)
    exact findFile_of_matchMount hroot
  · split at hmatch
    · exact findFile_of_matchMount hmatch
    · simp at hmatch

/-! ### From what is found to what is matched -/

theorem matchMount_of_file {inner path : Text} {place : Place} {content : Bytes}
    (hfind : lookup.find inner = .ok (some ⟨place, .file content⟩)) :
    lookup.matchMount inner path = .ok (some (.serve ⟨place, content⟩)) := by
  rw [matchMount, hfind]

theorem matchMount_of_miss {inner path : Text} (hfind : lookup.find inner = .ok none) :
    lookup.matchMount inner path = .ok none := by
  rw [matchMount, hfind]

theorem matchMount_of_directory {inner path : Text} {place : Place} {file : File}
    (hfind : lookup.find inner = .ok (some ⟨place, .directory⟩)) (hslash : path.getLast? = some '/')
    (hindex : lookup.findFile (inner ++ '/' :: Bundle.indexFile) = .ok (some file)) :
    lookup.matchMount inner path = .ok (some (.serve file)) := by
  rw [matchMount, hfind]
  simp [hslash, hindex]

theorem matchMounts_of_root {path : Text} {found : Match}
    (hroot : lookup.matchMount path path = .ok (some found)) :
    lookup.matchMounts path = .ok (some found) := by
  rw [matchMounts, hroot]

theorem stripConsole_append {inner : Text} (hinner : inner.head? = some '/') :
    stripConsole (consolePrefix ++ inner) = some inner := by
  cases inner with
  | nil => simp at hinner
  | cons first rest =>
      obtain rfl := Option.some.inj hinner
      have hlonger : consolePrefix ++ '/' :: rest ≠ consolePrefix := by simp
      have hfront : (consolePrefix ++ ['/']).isPrefixOf (consolePrefix ++ '/' :: rest) = true := by
        simp
      rw [stripConsole, if_neg hlonger, if_pos hfront, List.drop_left]

/-- The prefix is a whole segment if it is one before a slash that is added. -/
theorem stripConsole_eq_none_iff {path : Text} :
    stripConsole path = none ↔ ¬consolePrefix ++ ['/'] <+: path ++ ['/'] := by
  rw [List.prefix_concat_iff, List.append_left_inj, stripConsole]
  by_cases hsame : path = consolePrefix
  · simp [hsame]
  · rw [if_neg hsame, ← List.isPrefixOf_iff_prefix]
    by_cases hfront : (consolePrefix ++ ['/']).isPrefixOf path = true
    · simp [hfront]
    · simp [hfront, Ne.symm hsame]

theorem mem_of_stripConsole {path inner : Text} (hinner : stripConsole path = some inner) {c : Char}
    (hc : c ∈ inner) : c ∈ path := by
  rw [stripConsole] at hinner
  split at hinner
  · obtain rfl := Option.some.inj hinner
    simp at hc
  · split at hinner
    · obtain rfl := Option.some.inj hinner
      exact List.mem_of_mem_drop hc
    · simp at hinner

theorem matchMounts_of_console {inner : Text} (hinner : inner.head? = some '/')
    (hroot : lookup.matchMount (consolePrefix ++ inner) (consolePrefix ++ inner) = .ok none) :
    lookup.matchMounts (consolePrefix ++ inner) =
      lookup.matchMount inner (consolePrefix ++ inner) := by
  rw [matchMounts, hroot]
  simp only [stripConsole_append hinner]

theorem matchMounts_of_outside {path : Text} (hpath : stripConsole path = none) :
    lookup.matchMounts path = lookup.matchMount path path := by
  rw [matchMounts, hpath]
  split <;> simp_all

/-! ### Matches under a longer path -/

/-- A redirect adds the slash that is missing at the end. -/
theorem redirect_of_matchMount {inner path target : Text} {asset : Asset}
    (hmatch : lookup.matchMount inner path = .ok (some (.redirect asset target))) :
    target = path ++ ['/'] ∧ path.getLast? ≠ some '/' := by
  rw [matchMount] at hmatch
  split at hmatch
  · simp at hmatch
  · simp at hmatch
  · rename_i found hfind
    cases hentity : found.entity with
    | file content => simp [hentity] at hmatch
    | other => simp [hentity] at hmatch
    | directory =>
        simp only [hentity] at hmatch
        split at hmatch
        · split at hmatch
          · rename_i index _
            cases index <;> simp at hmatch
          · simp at hmatch
        · rename_i hslash
          simp only [Except.ok.injEq, Option.some.injEq, Match.redirect.injEq] at hmatch
          exact ⟨hmatch.2.symm, hslash⟩

theorem redirect_of_matchMounts {path target : Text} {asset : Asset}
    (hmatch : lookup.matchMounts path = .ok (some (.redirect asset target))) :
    target = path ++ ['/'] ∧ path.getLast? ≠ some '/' := by
  rw [matchMounts] at hmatch
  split at hmatch
  · simp at hmatch
  · rename_i found hroot
    obtain rfl := Option.some.inj (Except.ok.inj hmatch)
    exact redirect_of_matchMount hroot
  · split at hmatch
    · exact redirect_of_matchMount hmatch
    · simp at hmatch

/-- What a match becomes when more stands in front of the path. -/
def under (front : Text) : Match → Match
  | .serve file => .serve file
  | .redirect asset target => .redirect asset (front ++ target)

/-- A mount reads the path behind what stands in front of it, and only where it redirects the whole
path is given back. -/
theorem matchMount_append {path : Text} (hpath : path ≠ []) (inner front : Text) :
    lookup.matchMount inner (front ++ path) =
      (lookup.matchMount inner path).map (Option.map (under front)) := by
  have hlast : (front ++ path).getLast? = path.getLast? := by
    rw [List.getLast?_append, Option.or_of_isSome (by simpa using hpath)]
  rw [matchMount, matchMount, hlast]
  cases lookup.find inner with
  | error errno => rfl
  | ok found =>
      cases found with
      | none => rfl
      | some asset =>
          simp only
          cases asset.entity with
          | file content => rfl
          | other => rfl
          | directory =>
              simp only
              split
              · cases lookup.findFile (inner ++ '/' :: Bundle.indexFile) with
                | error errno => rfl
                | ok file => cases file <;> rfl
              · rw [List.append_assoc]
                rfl

/-! ### Lookups that do not fail -/

theorem exists_findFile (hfind : ∀ path, ∃ found, lookup.find path = .ok found) (path : Text) :
    ∃ found, lookup.findFile path = .ok found := by
  obtain ⟨found, hfound⟩ := hfind path
  exact ⟨_, by rw [findFile, hfound]⟩

theorem exists_matchMount (hfind : ∀ path, ∃ found, lookup.find path = .ok found)
    (inner path : Text) : ∃ found, lookup.matchMount inner path = .ok found := by
  rw [matchMount]
  obtain ⟨found, hfound⟩ := hfind inner
  rw [hfound]
  cases found with
  | none => exact ⟨_, rfl⟩
  | some asset =>
      obtain ⟨place, entity⟩ := asset
      cases entity with
      | file content => exact ⟨_, rfl⟩
      | other => exact ⟨_, rfl⟩
      | directory =>
          obtain ⟨file, hfile⟩ := exists_findFile hfind (inner ++ '/' :: Bundle.indexFile)
          simp only [hfile]
          split <;> exact ⟨_, rfl⟩

theorem exists_matchMounts (hfind : ∀ path, ∃ found, lookup.find path = .ok found) (path : Text) :
    ∃ found, lookup.matchMounts path = .ok found := by
  rw [matchMounts]
  obtain ⟨found, hfound⟩ := exists_matchMount hfind path path
  rw [hfound]
  cases found with
  | some found => exact ⟨_, rfl⟩
  | none =>
      cases stripConsole path with
      | none => exact ⟨_, rfl⟩
      | some inner => exact exists_matchMount hfind inner path

end SpaServer.Lookup
