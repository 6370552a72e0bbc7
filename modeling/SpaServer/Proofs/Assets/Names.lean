import SpaServer.Assets.Find
import SpaServer.Proofs.Text.Cutting

/-!
# The names of a path

A path is looked up by its names alone, so paths with the same names are found alike. `assetPath`
writes names as a path, from which they are read again if they are names of files at all.
-/

namespace SpaServer

/-- A text that can be the name of a file. -/
structure FileName (name : Text) : Prop where
  ne_nil : name ≠ []
  noSlash : '/' ∉ name
  noNul : '\x00' ∉ name
  short : name.utf8.length ≤ Node.maxNameBytes

instance (name : Text) : Decidable (FileName name) :=
  decidable_of_iff
    (name ≠ [] ∧ '/' ∉ name ∧ '\x00' ∉ name ∧ name.utf8.length ≤ Node.maxNameBytes)
    ⟨fun ⟨hnil, hslash, hnul, hshort⟩ => ⟨hnil, hslash, hnul, hshort⟩,
      fun hname => ⟨hname.ne_nil, hname.noSlash, hname.noNul, hname.short⟩⟩

def assetPath (names : List Text) : Text := names.flatMap ('/' :: ·)

/-! ### Names of written paths -/

theorem assetNames_append_slash (front back : Text) :
    assetNames (front ++ '/' :: back) = assetNames front ++ assetNames back := by
  rw [assetNames, List.splitOn_append_cons_self, List.filter_append]
  rfl

theorem assetNames_nil : assetNames [] = [] := rfl

theorem assetNames_single {name : Text} (hnil : name ≠ []) (hslash : '/' ∉ name) :
    assetNames name = [name] := by
  rw [assetNames, List.splitOn_eq_singleton hslash]
  exact List.filter_cons_of_pos (by simpa using hnil)

theorem assetNames_slash_append {name back : Text} (hnil : name ≠ []) (hslash : '/' ∉ name)
    (hback : back = [] ∨ back.head? = some '/') :
    assetNames ('/' :: name ++ back) = name :: assetNames back := by
  have hfront := assetNames_append_slash [] (name ++ back)
  rw [List.nil_append, assetNames_nil, List.nil_append] at hfront
  rw [List.cons_append, hfront]
  cases back with
  | nil => rw [List.append_nil, assetNames_single hnil hslash, assetNames_nil]
  | cons first back =>
      obtain rfl : first = '/' := by simpa using hback
      have hnone := assetNames_append_slash [] back
      rw [List.nil_append, assetNames_nil, List.nil_append] at hnone
      rw [assetNames_append_slash, assetNames_single hnil hslash, hnone, List.singleton_append]

theorem assetPath_cons (name : Text) (names : List Text) :
    assetPath (name :: names) = '/' :: name ++ assetPath names := rfl

theorem assetPath_cases (names : List Text) :
    assetPath names = [] ∨ (assetPath names).head? = some '/' := by
  cases names with
  | nil => exact Or.inl rfl
  | cons name names => exact Or.inr rfl

/-- **The names of a path are those that it was written with.** -/
theorem assetNames_assetPath {names : List Text} (hnames : ∀ name ∈ names, FileName name) :
    assetNames (assetPath names) = names := by
  induction names with
  | nil => rfl
  | cons name names ih =>
      obtain ⟨hname, hnames⟩ := List.forall_mem_cons.1 hnames
      rw [assetPath_cons, assetNames_slash_append hname.ne_nil hname.noSlash
        (assetPath_cases names), ih hnames]

/-! ### Names of any path -/

theorem mem_assetNames {path name : Text} (hname : name ∈ assetNames path) :
    name ≠ [] ∧ '/' ∉ name ∧ ∀ c ∈ name, c ∈ path := by
  rw [assetNames, List.mem_filter] at hname
  obtain ⟨hpiece, hnil⟩ := hname
  exact ⟨by simpa using hnil, Text.mem_piece hpiece⟩

/-! ### Paths with the same names -/

theorem Lookup.find_congr (lookup : Lookup) {path other : Text}
    (hnames : assetNames path = assetNames other) : lookup.find path = lookup.find other := by
  rw [find, find, hnames]

theorem Lookup.findFile_congr (lookup : Lookup) {path other : Text}
    (hnames : assetNames path = assetNames other) :
    lookup.findFile path = lookup.findFile other := by
  rw [findFile, findFile, lookup.find_congr hnames]

end SpaServer
