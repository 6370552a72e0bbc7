import SpaServer.Assets.Lookup
import SpaServer.Proofs.Files.Resolution

/-!
# Lookups stay below the root

The lookup resolves a path, checks that the place is below the real root, and only then walks to it.
The walk may follow further links, so the check and the walk speak of the same file only if the
place is straight. It is if the resolution settles, and then the file stands below the root
(`contains_of_settled`). If a link was met again while the path was resolved, the file may stand
anywhere, and nothing can be said but where the walk ends. `Confines` puts the two cases together.
-/

namespace SpaServer

theorem Place.contains_self {root place : Place} (hplace : root.contains place) :
    root.contains root := by
  cases root with
  | doubled path => simp [contains] at hplace
  | inside path => exact List.isPrefixOf_iff_prefix.2 List.prefix_rfl
  | outside path => exact List.isPrefixOf_iff_prefix.2 List.prefix_rfl

namespace Node

variable {tree : Node} {root : Text} {names : List Text}

/-- What the resolution of a path from the working directory ends with. -/
def resolution (tree : Node) (names : List Text) : Resolved :=
  tree.resolve (tree.links.map .inside) [] .home names

theorem realPlace_of_settled {place : Place} {ends : List (Place × Place)}
    (hsettled : tree.resolution names = .settled place ends) : tree.realPlace names = place := by
  rw [resolution] at hsettled
  rw [realPlace, hsettled]

theorem realPlace_of_looping {place : Place} (hlooping : tree.resolution names = .looping place) :
    tree.realPlace names = place := by
  rw [resolution] at hlooping
  rw [realPlace, hlooping]

theorem isStraight_of_settled {place : Place} {ends : List (Place × Place)}
    (hsettled : tree.resolution names = .settled place ends) :
    tree.IsStraight place ∧ tree.SoundEnds ends :=
  resolve_settled (by simp [SoundEnds]) isStraight_home hsettled

/-- Whether names below the root cannot lead out of it. They cannot if their resolution ends without
meeting a link again. Otherwise what is left of the path has to lead to a place below the root. -/
def Confines (tree : Node) (root : Text) (names : List Text) : Prop :=
  match tree.resolution (root :: names) with
  | .settled _ _ => True
  | .looping place =>
    ∀ location, tree.Leads place.base place.path location →
      (tree.realPlace [root]).contains location

/-- What a successful lookup has seen: a place below the root, and the node that a walk to it
finds. -/
theorem lookup_eq_some {asset : Asset} (hlookup : tree.lookup root names = .ok (some asset)) :
    asset.place = tree.realPlace (root :: names) ∧
      (tree.realPlace [root]).contains asset.place ∧
      ∃ node, tree.stat asset.place = .ok node ∧ node.entity = asset.entity := by
  rw [lookup] at hlookup
  split at hlookup
  · simp at hlookup
  · split at hlookup
    · simp at hlookup
    · simp only at hlookup
      split at hlookup
      · rename_i hbelow
        split at hlookup
        · rename_i node hstat
          obtain rfl := Option.some.inj (Except.ok.inj hlookup)
          exact ⟨rfl, hbelow, node, hstat, rfl⟩
        all_goals simp at hlookup
      · simp at hlookup

theorem eq_file_of_entity {node : Node} {content : Bytes} (hentity : node.entity = .file content) :
    node = .file content := by
  cases node <;> simp_all [entity]

/-- **Where the resolution settles, what a lookup finds stands below the real root.** The place that
was checked is straight, so the walk to it ends at the place itself. -/
theorem contains_of_settled {asset : Asset} {settled location : Place}
    {ends : List (Place × Place)} (hlookup : tree.lookup root names = .ok (some asset))
    (hsettled : tree.resolution (root :: names) = .settled settled ends)
    (hleads : tree.Leads asset.place.base asset.place.path location) :
    (tree.realPlace [root]).contains location := by
  obtain ⟨hplace, hbelow, -⟩ := lookup_eq_some hlookup
  have hsettles := hplace.trans (realPlace_of_settled hsettled)
  have hstraight := (isStraight_of_settled hsettled).1
  rw [hsettles] at hleads hbelow
  rw [leads_of_straight hstraight hleads, settled.base_down_path]
  exact hbelow

/-- A file that a lookup finds stands below the real root exactly if its names are confined. Where
they loop, being confined means that and no more. -/
theorem lookup_file_location {place : Place} {content : Bytes}
    (hlookup : tree.lookup root names = .ok (some ⟨place, .file content⟩)) :
    ∃ location, tree.Leads place.base place.path location ∧
      tree.at? location = some (.file content) ∧
      ((tree.realPlace [root]).contains location ↔ tree.Confines root names) := by
  obtain ⟨hplace, -, node, hstat, hentity⟩ := lookup_eq_some hlookup
  obtain rfl := eq_file_of_entity hentity
  have hwalk : tree.walk maxLinks place.base place.path = .ok (.file content) := by
    rw [stat] at hstat
    split at hstat
    · simp at hstat
    · exact hstat
  obtain ⟨location, hleads, hfile⟩ := leads_of_walk hwalk
  refine ⟨location, hleads, hfile, ?_⟩
  rw [Confines]
  cases hresolution : tree.resolution (root :: names) with
  | settled settled ends =>
      exact iff_of_true (contains_of_settled hlookup hresolution hleads) trivial
  | looping left =>
      obtain rfl := hplace.trans (realPlace_of_looping hresolution)
      constructor
      · intro hcontains other hother
        rwa [← leads_unique hleads hother]
      · intro hall
        exact hall location hleads

end Node

end SpaServer
