import Mathlib
import SpaServer.Proofs.Assets.Confinement
import SpaServer.Proofs.Server.Bundle
import SpaServer.Proofs.Server.Course

/-!
# Answers stay below the asset root

Whatever is sent as a file is the content of one regular file, or spans of it, and the file stands
below the real asset root unless a link was met again while the path was resolved. In that case what
is left of the path may name a link that leads anywhere, and the check does not see it.
-/

namespace SpaServer.App

/-- **What is sent is a file below the asset root exactly if its names are confined.** -/
theorem answer_file_below_root (app : App) (tree : Node) (request : Request) {response : Response}
    (hresponse :
      (app.answer (tree.lookup app.settings.assetRoot) request).response = response)
    (hstatus : response.status = 200 ∨ response.status = 206) :
    ∃ names place content location,
      tree.lookup app.settings.assetRoot names = .ok (some ⟨place, .file content⟩) ∧
        Delivery.Sent ⟨200, ⟨place, content⟩⟩ response ∧
        tree.Leads place.base place.path location ∧
        tree.at? location = some (.file content) ∧
        ((tree.realPlace [app.settings.assetRoot]).contains location ↔
          tree.Confines app.settings.assetRoot names) := by
  obtain ⟨path, file, hfind, hsent⟩ := exists_sent_file hresponse hstatus
  obtain ⟨hlookup, _⟩ := Lookup.offers_of_findFile hfind
  obtain ⟨location, hleads, hfile, hbelow⟩ := Node.lookup_file_location hlookup
  exact ⟨assetNames path, file.place, file.content, location, hlookup, hsent, hleads, hfile, hbelow⟩

/-- A bundle whose entry document is a link over a loop to a link that leads out of it. -/
def loopedBundle : Node :=
  .dir [("secret".toList, .file [0x73]),
    (Bundle.directory, .dir [("loop".toList, .link "loop".toList),
      ("way".toList, .link "../secret".toList),
      (Bundle.indexFile, .link "loop/../way".toList)])]

theorem lookup_loopedBundle : loopedBundle.lookup Bundle.directory [Bundle.indexFile] =
    .ok (some ⟨.inside [Bundle.directory, "way".toList], .file [0x73]⟩) := by
  cbv

theorem answer_loopedBundle :
    standard.answer (loopedBundle.lookup standard.settings.assetRoot) (.simple .get ['/']) =
      ⟨Delivery.whole ⟨200, .inside [Bundle.directory, "way".toList], [0x73]⟩, [], none⟩ := by
  have hindex : (loopedBundle.lookup standard.settings.assetRoot).findFile Bundle.indexFile =
      .ok (some ⟨.inside [Bundle.directory, "way".toList], [0x73]⟩) := by
    rw [assetRoot_standard]
    refine Lookup.findFile_of_find ?_
    rw [Lookup.find, assetNames_indexFile, if_neg (by decide), lookup_loopedBundle]
  exact answer_of_plain_match (Request.regular_simple .get _) rfl rfl (Request.decode_simple .get _)
    rfl (by decide) (Url.isPlainChar_of_all (by decide))
    (Lookup.matchMounts_of_root (matchMount_root ['/'] ['/'] rfl rfl hindex))

theorem status_loopedBundle :
    (standard.answer (loopedBundle.lookup standard.settings.assetRoot)
      (.simple .get ['/'])).response.status = 200 := by
  rw [answer_loopedBundle]
  rfl

theorem exists_location_loopedBundle :
    (standard.answer (loopedBundle.lookup standard.settings.assetRoot)
        (.simple .get ['/'])).response.status = 200 ∧
      ∃ names place content location,
        loopedBundle.lookup standard.settings.assetRoot names =
            .ok (some ⟨place, .file content⟩) ∧
          Delivery.Sent ⟨200, ⟨place, content⟩⟩
            (standard.answer (loopedBundle.lookup standard.settings.assetRoot)
              (.simple .get ['/'])).response ∧
          loopedBundle.Leads place.base place.path location ∧
          loopedBundle.at? location = some (.file content) ∧
          ((loopedBundle.realPlace [standard.settings.assetRoot]).contains location ↔
            loopedBundle.Confines standard.settings.assetRoot names) :=
  ⟨status_loopedBundle, answer_file_below_root standard loopedBundle (.simple .get ['/']) rfl
    (Or.inl status_loopedBundle)⟩

theorem realPlace_loopedBundle :
    loopedBundle.realPlace [standard.settings.assetRoot] = .inside [Bundle.directory] := by
  rw [assetRoot_standard]
  cbv

theorem get?_ne_file {entries : List (Text × Node)} {names : List Text} {content : Bytes}
    (hlinks : ∀ entry ∈ entries, ∃ target, entry.2 = .link target) :
    (Node.dir entries).get? names ≠ some (.file content) := by
  cases names with
  | nil => simp [Node.get?]
  | cons name names =>
      intro hfile
      obtain ⟨child, hentry, hfile⟩ := Node.exists_entry_of_get? hfile
      obtain ⟨target, rfl⟩ := hlinks _ hentry
      cases names <;> simp [Node.get?, Node.child?, Node.entries] at hfile

/-- There is no file at all below the root of the bundle, and still one is sent. -/
theorem looped_bundle_escapes :
    (standard.answer (loopedBundle.lookup standard.settings.assetRoot)
        (.simple .get ['/'])).response.status = 200 ∧
      (standard.answer (loopedBundle.lookup standard.settings.assetRoot)
        (.simple .get ['/'])).response.body = [0x73] ∧
      ∀ location content,
        (loopedBundle.realPlace [standard.settings.assetRoot]).contains location →
          loopedBundle.at? location ≠ some (.file content) := by
  refine ⟨status_loopedBundle, by rw [answer_loopedBundle]; rfl, ?_⟩
  intro location content hcontains hfile
  rw [realPlace_loopedBundle] at hcontains
  cases location with
  | inside path =>
      rw [Place.contains, List.isPrefixOf_iff_prefix] at hcontains
      obtain ⟨names, rfl⟩ := hcontains
      have hlinks : ∀ entry ∈ [("loop".toList, Node.link "loop".toList),
          ("way".toList, .link "../secret".toList), (Bundle.indexFile, .link "loop/../way".toList)],
          ∃ target, entry.2 = .link target := by
        simp
      exact get?_ne_file hlinks hfile
  | _ => simp [Place.contains] at hcontains

end SpaServer.App
