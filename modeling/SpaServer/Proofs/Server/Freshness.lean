import Mathlib
import SpaServer.Proofs.Server.Bundle
import SpaServer.Proofs.Server.Course

/-!
# How long answers stay fresh

No answer carries a validator. An answer that sends a file says once how long it stays fresh, and
that depends on nothing but the real name of the file; no other answer says anything of the kind.

The entry document is treated like any other file. Where it is a link, it is taken for a document
only if the name that the link leads to is that of one, and otherwise it stays fresh for a day.
-/

namespace SpaServer

open Headers (values)

/-! ### Responses without a file -/

/-- Whether the response says nothing of validators and freshness. -/
structure Response.Bare (response : Response) : Prop where
  etag : values .etag response.headers = []
  lastModified : values .lastModified response.headers = []
  cacheControl : values .cacheControl response.headers = []

theorem Delivery.bare_refusal (delivery : Delivery) (error : RangeError) :
    (delivery.refusal error).Bare := by
  cases error <;> exact ⟨rfl, rfl, rfl⟩

theorem App.Fileless.bare {response : Response} (hfileless : Fileless response) :
    response.Bare := by
  cases hfileless <;> exact ⟨rfl, rfl, rfl⟩

namespace App

variable {tree : Node} {root : Text} {request : Request}

/-! ### Every answer -/

/-- What the headers of a response keep to. Where it sends a file, that is the one that the request
gets, under its real name. -/
structure KeepsPolicy (tree : Node) (root : Text) (request : Request) (response : Response) :
    Prop where
  noEtag : values .etag response.headers = []
  noLastModified : values .lastModified response.headers = []
  sending : response.status = 200 ∨ response.status = 206 →
    ∃ method file names, Obtains (tree.lookup root) request method file ∧
      file.place = tree.realPlace (root :: names) ∧ Delivery.Sent ⟨200, file⟩ response ∧
      values .cacheControl response.headers =
        [if MediaType.ofName file.place.name = MediaType.html then "public, max-age=0".toList
          else "public, max-age=86400".toList]
  other : response.status ≠ 200 → response.status ≠ 206 →
    values .cacheControl response.headers = []

theorem keepsPolicy_of_bare {response : Response} (hbare : response.Bare)
    (hstatus : response.status ≠ 200 ∧ response.status ≠ 206) :
    KeepsPolicy tree root request response where
  noEtag := hbare.etag
  noLastModified := hbare.lastModified
  sending hsending := by omega
  other _ _ := hbare.cacheControl

theorem values_cacheControl_of_sent {file : File} {response : Response}
    (hsent : Delivery.Sent ⟨200, file⟩ response) : values .cacheControl response.headers =
      [if MediaType.ofName file.place.name = MediaType.html then "public, max-age=0".toList
        else "public, max-age=86400".toList] := by
  rw [hsent.values (by decide), Delivery.values_cacheControl, Delivery.mediaType,
    MediaType.directive_ofName]

theorem exists_realPlace_of_obtains {method : Method} {file : File}
    (hobtains : Obtains (tree.lookup root) request method file) :
    ∃ names, file.place = tree.realPlace (root :: names) := by
  obtain ⟨path, hfind⟩ := hobtains.findFile
  exact ⟨_, (Node.lookup_eq_some (Lookup.offers_of_findFile hfind).1).1⟩

theorem keepsPolicy_of_obtains {method : Method} {file : File} {response : Response}
    (hobtains : Obtains (tree.lookup root) request method file)
    (hdeliver : deliver method request file = .ok response) :
    KeepsPolicy tree root request response := by
  rcases deliver_cases hdeliver with hsent | ⟨error, rfl⟩
  · obtain ⟨names, hplace⟩ := exists_realPlace_of_obtains hobtains
    refine ⟨?_, ?_, fun _ => ?_, ?_⟩
    · rw [hsent.values (by decide), Delivery.values_etag]
    · rw [hsent.values (by decide), Delivery.values_lastModified]
    · exact ⟨method, file, names, hobtains, hplace, hsent, values_cacheControl_of_sent hsent⟩
    · intro hwhole hpart
      rcases hsent.status with hstatus | hstatus
      · exact absurd hstatus hwhole
      · exact absurd hstatus hpart
  · have hstatus := Delivery.refusal_status ⟨200, file⟩ error
    exact keepsPolicy_of_bare (Delivery.bare_refusal _ error) (by omega)

/-- **Every answer keeps to the policy**, whatever the files, the settings and the request are. -/
theorem answer_keepsPolicy (app : App) (tree : Node) (request : Request) :
    KeepsPolicy tree app.settings.assetRoot request
      (app.answer (tree.lookup app.settings.assetRoot) request).response := by
  rcases answer_cases app (tree.lookup app.settings.assetRoot) request with
    ⟨method, file, hobtains, hdeliver⟩ | hfileless
  · exact keepsPolicy_of_obtains hobtains hdeliver
  · exact keepsPolicy_of_bare hfileless.bare hfileless.status

end App

/-! ### The entry document -/

/-- Whether the response is a document that has to be fetched anew each time. -/
structure Response.StaleDocument (response : Response) : Prop where
  cacheControl : values .cacheControl response.headers = ["public, max-age=0".toList]
  contentType : values .contentType response.headers = ["text/html; charset=utf-8".toList]

theorem Delivery.staleDocument_iff {delivery : Delivery} {response : Response}
    (hheaders : response.headers = delivery.headers) :
    response.StaleDocument ↔ delivery.mediaType = MediaType.html := by
  have hcache := delivery.values_cacheControl
  rw [mediaType, MediaType.directive_ofName, ← mediaType] at hcache
  constructor
  · rintro ⟨hstale, _⟩
    by_contra hother
    rw [hheaders, hcache, if_neg hother] at hstale
    exact absurd hstale (by decide)
  · intro hhtml
    refine ⟨by rw [hheaders, hcache, if_pos hhtml], ?_⟩
    rw [hheaders, values_contentType, contentType, hhtml]
    decide

theorem MediaType.ofName_indexFile : ofName Bundle.indexFile = html :=
  ofName_eq_html_iff.2 (by decide)

namespace App

theorem name_realPlace_indexFile {tree : Node} (settings : Settings)
    (hplain : tree.NoLinkAt ((tree.realPlace [settings.assetRoot]).child Bundle.indexFile)) :
    (tree.realPlace [settings.assetRoot, Bundle.indexFile]).name = Bundle.indexFile := by
  rw [Node.realPlace_pair settings.properName_assetRoot properName_indexFile, Node.name_child]
  intro place ends hsettled
  rwa [← Node.realPlace_of_settled hsettled]

/-- **The entry document has to be fetched anew exactly if its real name is that of a document**,
which it is wherever `index.html` is no link. -/
theorem entry_document_stale_iff {app : App} {tree : Node} {request : Request} {method : Method}
    (hserves : Serves request method)
    (hunmatched : Unmatched (tree.lookup app.settings.assetRoot) request method) {file : File}
    (hindex : (tree.lookup app.settings.assetRoot).findFile Bundle.indexFile = .ok (some file))
    {response : Response}
    (hresponse : (app.answer (tree.lookup app.settings.assetRoot) request).response = response)
    (hstatus : response.status = 200) :
    (response.StaleDocument ↔
      Text.lower (MediaType.decidingExtension
        (tree.realPlace [app.settings.assetRoot, Bundle.indexFile]).name) ∈
          [".htm".toList, ".html".toList]) ∧
      (tree.NoLinkAt ((tree.realPlace [app.settings.assetRoot]).child Bundle.indexFile) →
        response.StaleDocument) := by
  have hplace : file.place = tree.realPlace [app.settings.assetRoot, Bundle.indexFile] := by
    rw [← assetNames_indexFile]
    exact (Node.lookup_eq_some (Lookup.offers_of_findFile hindex).1).1
  have hobtains : Obtains (tree.lookup app.settings.assetRoot) request method file :=
    .entry hserves hunmatched hindex
  have hsent := hobtains.sent (Or.inl (by rw [hresponse, hstatus]))
  rw [hresponse] at hsent
  have hstale := Delivery.staleDocument_iff (hsent.headers_eq (by rw [hstatus]; decide))
  simp only [Delivery.mediaType, hplace] at hstale
  rw [hstale, MediaType.ofName_eq_html_iff]
  refine ⟨Iff.rfl, fun hplain => ?_⟩
  rw [name_realPlace_indexFile app.settings hplain, ← MediaType.ofName_eq_html_iff]
  exact MediaType.ofName_indexFile

theorem stale_smallBundle :
    (standard.answer (smallBundle.lookup standard.settings.assetRoot)
      (.simple .post "/users".toList)).response.StaleDocument := by
  have hindex := findFile_indexFile linkFree_smallBundle get?_smallBundle
  have hserves : Serves (.simple .post "/users".toList) .post :=
    ⟨by decide, Method.ofName?_name .post⟩
  have hstatus : (standard.answer (smallBundle.lookup standard.settings.assetRoot)
      (.simple .post "/users".toList)).response.status = 200 := by
    rw [answer_of_delivered (respond_of_entry standard.settings hserves (Or.inl rfl) hindex)]
    rfl
  exact (entry_document_stale_iff hserves (Or.inl rfl) hindex rfl hstatus).2
    (linkFree_smallBundle _)

/-- A bundle whose entry document is a link to a file under another name. -/
def renamedBundle : Node :=
  .dir [(Bundle.directory, .dir [("shell".toList, .file [0x68]),
    (Bundle.indexFile, .link "shell".toList)])]

theorem findFile_renamedBundle :
    (renamedBundle.lookup standard.settings.assetRoot).findFile Bundle.indexFile =
      .ok (some ⟨.inside [Bundle.directory, "shell".toList], [0x68]⟩) := by
  rw [assetRoot_standard]
  refine Lookup.findFile_of_find ?_
  rw [Lookup.find, assetNames_indexFile, if_neg (by decide)]
  cbv

theorem matchMounts_renamedBundle :
    (renamedBundle.lookup standard.settings.assetRoot).matchMounts "/users".toList = .ok none := by
  have hnames : assetNames "/users".toList = ["users".toList] := by decide
  have hmiss : (renamedBundle.lookup standard.settings.assetRoot).find "/users".toList =
      .ok none := by
    rw [assetRoot_standard, Lookup.find, hnames, if_neg (by decide)]
    cbv
  rw [Lookup.matchMounts, Lookup.matchMount_of_miss hmiss]
  rfl

/-- An entry document that is a link to a file of unknown kind stays fresh for a day. -/
theorem renamed_document_kept :
    (renamedBundle.lookup standard.settings.assetRoot).findFile Bundle.indexFile =
        .ok (some ⟨.inside [Bundle.directory, "shell".toList], [0x68]⟩) ∧
      Unmatched (renamedBundle.lookup standard.settings.assetRoot)
        (.simple .get "/users".toList) .get ∧
      (standard.answer (renamedBundle.lookup standard.settings.assetRoot)
        (.simple .get "/users".toList)).response =
          { status := 200
            headers := [(.acceptRanges, "bytes".toList),
              (.cacheControl, "public, max-age=86400".toList), (.contentLength, "1".toList),
              (.contentType, "application/octet-stream".toList)]
            body := [0x68] } := by
  have hurl : (Request.simple .get "/users".toList).url = .ok ⟨"/users".toList, []⟩ :=
    Request.url_simple rfl (by decide) (Url.isPlainChar_of_all (by decide))
  have hunmatched : Unmatched (renamedBundle.lookup standard.settings.assetRoot)
      (.simple .get "/users".toList) .get := Or.inr ⟨_, hurl, matchMounts_renamedBundle⟩
  have hserves : Serves (.simple .get "/users".toList) .get :=
    ⟨by decide, Method.ofName?_name .get⟩
  refine ⟨findFile_renamedBundle, hunmatched, ?_⟩
  have hobtains := Obtains.entry hserves hunmatched findFile_renamedBundle
  have htype : MediaType.ofName "shell".toList = MediaType.unknown := by decide +kernel
  have hday : CachePolicy.directive MediaType.unknown = "public, max-age=86400".toList := by decide
  rw [hobtains.answer_whole (by decide) (Or.inr rfl), Delivery.whole, Delivery.headers_eq,
    Delivery.contentType, Delivery.mediaType]
  have hname : (Place.inside [Bundle.directory, "shell".toList]).name = "shell".toList := rfl
  rw [hname, htype, hday]
  rfl

end App

end SpaServer
