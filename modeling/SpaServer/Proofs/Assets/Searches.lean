import SpaServer.Assets.Mount

/-!
# What is searched for a path

Matching a path asks for few paths, one after the other, and stops at the first that settles it:
the path at the root mount, the entry document in it if it is a directory that is asked for with a
slash, and if both miss the same below the console. `searched` lists them, `asked` tells what finding
a path asks the lookup, and `consulted` puts both together.

The lists are exact. What a path matches depends on the listed searches alone, and a listed search
that fails is the outcome, since nothing is searched behind it.
-/

namespace SpaServer.Lookup

variable {lookup other : Lookup} {inner path : Text} {errno : Errno}

/-! ### Finding one path -/

/-- The names that the lookup is asked for to find a path: none if one of them is kept from view. -/
def asked (path : Text) : List (List Text) :=
  if (assetNames path).any isHidden then [] else [assetNames path]

theorem find_congr_of_asked (hsame : ∀ names ∈ asked path, lookup names = other names) :
    lookup.find path = other.find path := by
  rw [find, find]
  split
  · rfl
  · rename_i hvisible
    rw [hsame _ (by simp [asked, hvisible])]

theorem find_of_failed {names : List Text} (hasked : names ∈ asked path)
    (hfailed : lookup names = .error (.system errno)) (hfault : errno ∉ absenceErrors) :
    lookup.find path = .error errno := by
  rw [asked] at hasked
  split at hasked
  · simp at hasked
  · rename_i hvisible
    obtain rfl := List.mem_singleton.1 hasked
    rw [find, if_neg hvisible]
    simp only [hfailed, if_neg hfault]

theorem findFile_of_failed (hfind : lookup.find path = .error errno) :
    lookup.findFile path = .error errno := by
  rw [findFile, hfind]

theorem findFile_congr_of_find (hsame : lookup.find path = other.find path) :
    lookup.findFile path = other.findFile path := by
  rw [findFile, findFile, hsame]

/-! ### Matching a path -/

/-- The paths that are searched at a mount, in order. -/
def searchedAt (lookup : Lookup) (inner path : Text) : List Text :=
  match lookup.find inner with
  | .ok (some ⟨_, .directory⟩) =>
    if path.getLast? = some '/' then [inner, inner ++ '/' :: Bundle.indexFile] else [inner]
  | _ => [inner]

/-- The paths that are searched at both mounts, in order. -/
def searched (lookup : Lookup) (path : Text) : List Text :=
  match lookup.matchMount path path, stripConsole path with
  | .ok none, some inner => lookup.searchedAt path path ++ lookup.searchedAt inner path
  | _, _ => lookup.searchedAt path path

/-- The names that the lookup is asked for to match a path, in order. -/
def consulted (lookup : Lookup) (path : Text) : List (List Text) :=
  (lookup.searched path).flatMap asked

theorem mem_searchedAt_self (lookup : Lookup) (inner path : Text) :
    inner ∈ lookup.searchedAt inner path := by
  rw [searchedAt]
  split
  · split <;> exact List.mem_cons_self
  · exact List.mem_cons_self

theorem mem_searchedAt_index {place : Place}
    (hfind : lookup.find inner = .ok (some ⟨place, .directory⟩)) (hslash : path.getLast? = some '/') :
    inner ++ '/' :: Bundle.indexFile ∈ lookup.searchedAt inner path := by
  simp [searchedAt, hfind, hslash]

theorem matchMount_congr_of_searched
    (hsame : ∀ path' ∈ lookup.searchedAt inner path, lookup.find path' = other.find path') :
    lookup.matchMount inner path = other.matchMount inner path := by
  rw [matchMount, matchMount, ← hsame inner (mem_searchedAt_self lookup inner path)]
  cases hfind : lookup.find inner with
  | error errno => rfl
  | ok found =>
      cases found with
      | none => rfl
      | some asset =>
          obtain ⟨place, entity⟩ := asset
          cases entity with
          | file content => rfl
          | other => rfl
          | directory =>
              simp only
              split
              · rename_i hslash
                rw [findFile_congr_of_find (hsame _ (mem_searchedAt_index hfind hslash))]
              · rfl

/-- A search at a mount that fails is the outcome there. -/
theorem matchMount_of_failed {path' : Text} (hsearched : path' ∈ lookup.searchedAt inner path)
    (hfailed : lookup.find path' = .error errno) : lookup.matchMount inner path = .error errno := by
  have hinner : path' = inner → lookup.matchMount inner path = .error errno := by
    rintro rfl
    rw [matchMount, hfailed]
  rw [searchedAt] at hsearched
  split at hsearched
  · rename_i place hfind
    split at hsearched
    · rename_i hslash
      rcases List.mem_cons.1 hsearched with hself | hindex
      · exact hinner hself
      · obtain rfl := List.mem_singleton.1 hindex
        rw [matchMount, hfind]
        simp only [if_pos hslash, findFile_of_failed hfailed]
    · exact hinner (List.mem_singleton.1 hsearched)
  · exact hinner (List.mem_singleton.1 hsearched)

theorem mem_searched_of_root {path' : Text} (hroot : path' ∈ lookup.searchedAt path path) :
    path' ∈ lookup.searched path := by
  rw [searched]
  split
  · exact List.mem_append_left _ hroot
  · exact hroot

theorem mem_searched_of_console {path' : Text} (hmiss : lookup.matchMount path path = .ok none)
    (hinner : stripConsole path = some inner) (hconsole : path' ∈ lookup.searchedAt inner path) :
    path' ∈ lookup.searched path := by
  simp [searched, hmiss, hinner, hconsole]

/-- **What a path matches depends on what is searched for it alone.** -/
theorem matchMounts_congr_of_searched
    (hsame : ∀ path' ∈ lookup.searched path, lookup.find path' = other.find path') :
    lookup.matchMounts path = other.matchMounts path := by
  have hroot : lookup.matchMount path path = other.matchMount path path :=
    matchMount_congr_of_searched fun path' hpath' => hsame path' (mem_searched_of_root hpath')
  rw [matchMounts, matchMounts, ← hroot]
  cases hmatch : lookup.matchMount path path with
  | error errno => rfl
  | ok found =>
      cases found with
      | some matched => rfl
      | none =>
          cases hinner : stripConsole path with
          | none => rfl
          | some inner =>
              exact matchMount_congr_of_searched fun path' hpath' =>
                hsame path' (mem_searched_of_console hmatch hinner hpath')

/-- **A search that fails is the outcome of matching.** -/
theorem matchMounts_of_failed {path' : Text} (hsearched : path' ∈ lookup.searched path)
    (hfailed : lookup.find path' = .error errno) : lookup.matchMounts path = .error errno := by
  have hroot : path' ∈ lookup.searchedAt path path → lookup.matchMounts path = .error errno := by
    intro hsearched
    rw [matchMounts, matchMount_of_failed hsearched hfailed]
  rw [searched] at hsearched
  split at hsearched
  · rename_i inner hmiss hinner
    rcases List.mem_append.1 hsearched with hsearched | hsearched
    · exact hroot hsearched
    · -- Nothing is searched below the console before the root mount has missed.
      rw [matchMounts, hmiss]
      simp only [hinner, matchMount_of_failed hsearched hfailed]
  · exact hroot hsearched

/-! ### Failures that mean absence -/

/-- The lookup that has nothing where the other one fails because there can be no such asset. -/
def forgiving (lookup : Lookup) : Lookup := fun names =>
  match lookup names with
  | .ok found => .ok found
  | .error .malformed => .ok none
  | .error (.system errno) => if errno ∈ absenceErrors then .ok none else .error (.system errno)

theorem find_forgiving (lookup : Lookup) (path : Text) :
    lookup.forgiving.find path = lookup.find path := by
  rw [find, find, forgiving]
  split
  · rfl
  · cases lookup (assetNames path) with
    | ok found => rfl
    | error error =>
        cases error with
        | malformed => rfl
        | system errno =>
            by_cases habsent : errno ∈ absenceErrors
            · simp only [if_pos habsent]
            · simp only [if_neg habsent]

end SpaServer.Lookup
