import Mathlib
import SpaServer.Proofs.Assets.Confinement
import SpaServer.Proofs.Files.Provenance
import SpaServer.Proofs.Server.Bundle
import SpaServer.Proofs.Server.Course

/-!
# Files that are kept from view

No name that is looked up begins with a dot. But the names are looked at before links are resolved,
and a file is sent from wherever the links lead. A name of its place below the real root that begins
with a dot can therefore only be one that stands in the target of a link, and nothing but such a
name brings a file out that is kept from view.
-/

namespace SpaServer

/-! ### Places below a root -/

namespace Place

/-- The names of a place behind those of the root that it lies below. -/
def below (root place : Place) : List Text := place.path.drop root.path.length

/-- Whether the place lies below the root and none of its names there is kept from view. -/
def InSight (root place : Place) : Prop :=
  root.contains place = true ∧ ∀ name ∈ root.below place, ¬isHidden name

end Place

namespace Node

variable {tree : Node} {root : Text} {names : List Text}

def NamedByLink (tree : Node) (name : Text) : Prop :=
  ∃ place target, tree.at? place = some (.link target) ∧ name ∈ pathNames target

/-- Names that are kept from view are met in the targets of links and nowhere else. -/
theorem carries_namedByLink (tree : Node) :
    tree.Carries fun name => isHidden name → tree.NamedByLink name where
  above name hname hhidden := by
    obtain rfl := List.mem_singleton.1 hname
    exact absurd hhidden (by decide)
  links place target hlink name hname _ := ⟨place, target, hlink, hname⟩

/-- A name that is kept from view stands in the target of a link if it is on the way to what is
found under names that are not. -/
theorem namedByLink_of_lookup {asset : Asset} {location : Place} (hroot : ¬isHidden root)
    (hvisible : ∀ name ∈ names, ¬isHidden name)
    (hlookup : tree.lookup root names = .ok (some asset))
    (hleads : tree.Leads asset.place.base asset.place.path location) :
    ∀ name ∈ location.path, isHidden name → tree.NamedByLink name := by
  have hnames : ∀ name ∈ root :: names, isHidden name → tree.NamedByLink name := by
    intro name hname hhidden
    rcases List.mem_cons.1 hname with rfl | hname
    · exact absurd hhidden hroot
    · exact absurd hhidden (hvisible name hname)
  have hplace := realPlace_all tree.carries_namedByLink hnames
  rw [← (lookup_eq_some hlookup).1] at hplace
  exact leads_all tree.carries_namedByLink hleads (Place.all_base _) hplace

theorem inSight_iff {place location : Place} {content : Bytes} (hroot : ¬isHidden root)
    (hvisible : ∀ name ∈ names, ¬isHidden name)
    (hlookup : tree.lookup root names = .ok (some ⟨place, .file content⟩))
    (hleads : tree.Leads place.base place.path location) :
    (tree.realPlace [root]).InSight location ↔
      tree.Confines root names ∧
        ∀ name ∈ (tree.realPlace [root]).below location, tree.NamedByLink name → ¬isHidden name := by
  obtain ⟨found, hfound, _, hconfines⟩ := lookup_file_location hlookup
  obtain rfl := leads_unique hleads hfound
  rw [Place.InSight, hconfines]
  refine and_congr_right fun _ => ⟨fun hsight name hname _ => hsight name hname, ?_⟩
  intro hlinks name hname hhidden
  have hnamed := namedByLink_of_lookup hroot hvisible hlookup hleads name
    (List.drop_subset _ _ hname) hhidden
  exact hlinks name hname hnamed hhidden

end Node

theorem Settings.visible_assetRoot (settings : Settings) : ¬isHidden settings.assetRoot := by
  rcases settings.assetRoot_cases with hroot | hroot <;> rw [hroot] <;> decide

namespace App

/-- **What is sent is a file in sight of the asset root exactly if its names are confined and no
link named what is kept from view.** -/
theorem sent_file_in_sight_iff (app : App) (tree : Node) (request : Request) {response : Response}
    (hresponse : (app.answer (tree.lookup app.settings.assetRoot) request).response = response)
    (hstatus : response.status = 200 ∨ response.status = 206) :
    ∃ method names file location,
      Obtains (tree.lookup app.settings.assetRoot) request method file ∧
        (tree.lookup app.settings.assetRoot).Offers names file ∧
        Delivery.Sent ⟨200, file⟩ response ∧
        tree.Leads file.place.base file.place.path location ∧
        tree.at? location = some (.file file.content) ∧
        ((tree.realPlace [app.settings.assetRoot]).InSight location ↔
          tree.Confines app.settings.assetRoot names ∧
            ∀ name ∈ (tree.realPlace [app.settings.assetRoot]).below location,
              tree.NamedByLink name → ¬isHidden name) := by
  obtain ⟨method, file, hobtains, hsent⟩ := exists_obtained hresponse hstatus
  obtain ⟨path, hfind⟩ := hobtains.findFile
  obtain ⟨hlookup, hvisible⟩ := Lookup.offers_of_findFile hfind
  obtain ⟨location, hleads, hfile, _⟩ := Node.lookup_file_location hlookup
  exact ⟨method, assetNames path, file, location, hobtains, ⟨hlookup, hvisible⟩, hsent, hleads,
    hfile, Node.inSight_iff app.settings.visible_assetRoot hvisible hlookup hleads⟩

/-! ### A link to a file that is kept from view -/

/-- A bundle with a link to a file that is kept from view. -/
def revealingBundle : Node :=
  .dir [(Bundle.directory, .dir [(".env".toList, .file [0x73]),
    ("app.js".toList, .link ".env".toList)])]

theorem lookup_revealingBundle : revealingBundle.lookup Bundle.directory ["app.js".toList] =
    .ok (some ⟨.inside [Bundle.directory, ".env".toList], .file [0x73]⟩) := by
  cbv

theorem realPlace_revealingBundle :
    revealingBundle.realPlace [Bundle.directory] = .inside [Bundle.directory] := by
  cbv

theorem answer_revealingBundle :
    standard.answer (revealingBundle.lookup standard.settings.assetRoot)
        (.simple .get "/app.js".toList) =
      ⟨Delivery.whole ⟨200, .inside [Bundle.directory, ".env".toList], [0x73]⟩, [], none⟩ := by
  have hnames : assetNames "/app.js".toList = ["app.js".toList] := by decide
  have hfind : (revealingBundle.lookup standard.settings.assetRoot).find "/app.js".toList =
      .ok (some ⟨.inside [Bundle.directory, ".env".toList], .file [0x73]⟩) := by
    rw [assetRoot_standard, Lookup.find, hnames, if_neg (by decide), lookup_revealingBundle]
  exact answer_of_plain_match (Request.regular_simple .get _) rfl rfl (Request.decode_simple .get _)
    rfl (by decide) (Url.isPlainChar_of_all (by decide))
    (Lookup.matchMounts_of_root (Lookup.matchMount_of_file hfind))

theorem status_revealingBundle :
    (standard.answer (revealingBundle.lookup standard.settings.assetRoot)
      (.simple .get "/app.js".toList)).response.status = 200 := by
  rw [answer_revealingBundle]
  rfl

theorem exists_sent_file_revealingBundle :
    (standard.answer (revealingBundle.lookup standard.settings.assetRoot)
        (.simple .get "/app.js".toList)).response.status = 200 ∧
      ∃ method names file location,
        Obtains (revealingBundle.lookup standard.settings.assetRoot)
            (.simple .get "/app.js".toList) method file ∧
          (revealingBundle.lookup standard.settings.assetRoot).Offers names file ∧
          Delivery.Sent ⟨200, file⟩
            (standard.answer (revealingBundle.lookup standard.settings.assetRoot)
              (.simple .get "/app.js".toList)).response ∧
          revealingBundle.Leads file.place.base file.place.path location ∧
          revealingBundle.at? location = some (.file file.content) ∧
          ((revealingBundle.realPlace [standard.settings.assetRoot]).InSight location ↔
            revealingBundle.Confines standard.settings.assetRoot names ∧
              ∀ name ∈ (revealingBundle.realPlace [standard.settings.assetRoot]).below location,
                revealingBundle.NamedByLink name → ¬isHidden name) :=
  ⟨status_revealingBundle, sent_file_in_sight_iff standard revealingBundle
    (.simple .get "/app.js".toList) rfl (Or.inl status_revealingBundle)⟩

theorem eq_of_get?_revealingBundle {path : List Text} {content : Bytes}
    (hfile : revealingBundle.get? path = some (.file content)) :
    path = [Bundle.directory, ".env".toList] := by
  cases path with
  | nil => simp [Node.get?, revealingBundle] at hfile
  | cons build path =>
      obtain ⟨bundle, hbuild, hfile⟩ := Node.exists_entry_of_get? hfile
      obtain ⟨rfl, rfl⟩ := Prod.mk.inj (List.mem_singleton.1 hbuild)
      cases path with
      | nil => simp [Node.get?] at hfile
      | cons name path =>
          obtain ⟨asset, hasset, hfile⟩ := Node.exists_entry_of_get? hfile
          rcases List.mem_cons.1 hasset with hasset | hasset
          · obtain ⟨rfl, rfl⟩ := Prod.mk.inj hasset
            cases path <;> simp [Node.get?, Node.child?, Node.entries] at hfile ⊢
          · obtain ⟨rfl, rfl⟩ := Prod.mk.inj (List.mem_singleton.1 hasset)
            cases path <;> simp [Node.get?, Node.child?, Node.entries] at hfile

/-- No file of the bundle is in sight of its root, and still one is sent. -/
theorem link_reveals_file :
    (standard.answer (revealingBundle.lookup standard.settings.assetRoot)
        (.simple .get "/app.js".toList)).response.status = 200 ∧
      (standard.answer (revealingBundle.lookup standard.settings.assetRoot)
        (.simple .get "/app.js".toList)).response.body = [0x73] ∧
      ∀ location content, revealingBundle.at? location = some (.file content) →
        ¬(revealingBundle.realPlace [standard.settings.assetRoot]).InSight location := by
  refine ⟨status_revealingBundle, by rw [answer_revealingBundle]; rfl, ?_⟩
  intro location content hfile hsight
  rw [assetRoot_standard, realPlace_revealingBundle] at hsight
  cases location with
  | inside path =>
      obtain rfl := eq_of_get?_revealingBundle hfile
      exact hsight.2 ".env".toList (by decide) (by decide)
  | _ => simp [Place.InSight, Place.contains] at hsight

end App

end SpaServer
