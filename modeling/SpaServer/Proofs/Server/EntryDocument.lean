import SpaServer.Proofs.Server.Bundle
import SpaServer.Proofs.Server.Course

/-!
# The entry document is one response

There are many ways to the entry document: under its own name and as the document of the root, at
both mounts, under every path that matches nothing, and with every method that reads no assets. All
of them deliver the same file. Two answers differ only where a range header counts, which it does
for reading methods alone.
-/

namespace SpaServer.App

/-- The paths under which a reading request gets the entry document. -/
inductive LeadsToEntry (lookup : Lookup) : Text → Prop
  | root : LeadsToEntry lookup ['/']
  | name : LeadsToEntry lookup ('/' :: Bundle.indexFile)
  | consoleRoot
      (hroot : lookup.matchMount (consolePrefix ++ ['/']) (consolePrefix ++ ['/']) = .ok none) :
      LeadsToEntry lookup (consolePrefix ++ ['/'])
  | consoleName
      (hroot : lookup.matchMount (consolePrefix ++ '/' :: Bundle.indexFile)
        (consolePrefix ++ '/' :: Bundle.indexFile) = .ok none) :
      LeadsToEntry lookup (consolePrefix ++ '/' :: Bundle.indexFile)
  /-- The path is read as it is written, and matches nothing. -/
  | unmatched {path : Text} (hstart : path.head? = some '/')
      (hplain : ∀ c ∈ path, Url.isPlainChar c = true)
      (hmatch : lookup.matchMounts path = .ok none) : LeadsToEntry lookup path

inductive AsksEntry (lookup : Lookup) (request : Request) : Prop
  | reading (hmethod : request.method = Method.get.name) (hregular : request.Regular)
      (hserver : request.server.isSome = true) {query : Text}
      (hquery : Utf8.decode request.query = .ok query)
      (hpath : LeadsToEntry lookup request.path) : AsksEntry lookup request
  | other {method : Method} (hserves : Serves request method)
      (hother : method.readsAssets = false) : AsksEntry lookup request

variable {app : App} {tree : Node} {file : File} {request : Request}

theorem LeadsToEntry.plain {lookup : Lookup} {path : Text} (hpath : LeadsToEntry lookup path) :
    path.head? = some '/' ∧ ∀ c ∈ path, Url.isPlainChar c = true := by
  cases hpath with
  | root => exact ⟨rfl, Url.isPlainChar_of_all (by decide)⟩
  | name => exact ⟨rfl, Url.isPlainChar_of_all (by decide)⟩
  | consoleRoot => exact ⟨rfl, Url.isPlainChar_of_all (by decide)⟩
  | consoleName => exact ⟨rfl, Url.isPlainChar_of_all (by decide)⟩
  | unmatched hstart hplain => exact ⟨hstart, hplain⟩

theorem LeadsToEntry.matchMounts {path : Text}
    (hindex : (tree.lookup app.settings.assetRoot).findFile Bundle.indexFile = .ok (some file))
    (hpath : LeadsToEntry (tree.lookup app.settings.assetRoot) path) :
    (tree.lookup app.settings.assetRoot).matchMounts path = .ok (some (.serve file)) ∨
      (tree.lookup app.settings.assetRoot).matchMounts path = .ok none := by
  have hnames : assetNames ('/' :: Bundle.indexFile) = assetNames Bundle.indexFile :=
    (assetNames_slash_indexFile [] rfl).trans assetNames_indexFile.symm
  have hname := Lookup.find_of_findFile hindex
  rw [← Lookup.find_congr _ hnames] at hname
  cases hpath with
  | root => exact Or.inl (Lookup.matchMounts_of_root (matchMount_root _ _ rfl rfl hindex))
  | name => exact Or.inl (Lookup.matchMounts_of_root (Lookup.matchMount_of_file hname))
  | consoleRoot hroot =>
      rw [Lookup.matchMounts_of_console rfl hroot]
      exact Or.inl (matchMount_root _ _ rfl rfl hindex)
  | consoleName hroot =>
      rw [Lookup.matchMounts_of_console rfl hroot]
      exact Or.inl (Lookup.matchMount_of_file hname)
  | unmatched _ _ hmatch => exact Or.inr hmatch

theorem AsksEntry.respond
    (hindex : (tree.lookup app.settings.assetRoot).findFile Bundle.indexFile = .ok (some file))
    (hasks : AsksEntry (tree.lookup app.settings.assetRoot) request) :
    ∃ method, request.method = method.name ∧ (method = .get ∨ method.readsAssets = false) ∧
      respond app.settings (tree.lookup app.settings.assetRoot) request =
        delivered (deliver method request file) := by
  cases hasks with
  | reading hmethod hregular hserver hquery hpath =>
      obtain ⟨hstart, hplain⟩ := hpath.plain
      have hserves : Serves request .get :=
        ⟨onRoute_of_plain hstart hplain, by rw [hmethod, Method.ofName?_name]⟩
      have hurl := Request.url_of_server hregular hserver hstart hquery
      rw [Url.visiblePath_of_plain hplain] at hurl
      refine ⟨.get, hmethod, Or.inl rfl, ?_⟩
      rcases hpath.matchMounts hindex with hmatch | hmatch
      · exact respond_of_asset app.settings hserves rfl hurl hmatch
      · exact respond_of_entry app.settings hserves (Or.inr ⟨_, hurl, hmatch⟩) hindex
  | @other method hserves hother =>
      refine ⟨method, Method.name_of_ofName? hserves.ofName?, Or.inr hother, ?_⟩
      exact respond_of_entry app.settings hserves (Or.inl hother) hindex

theorem AsksEntry.answer_eq_whole
    (hindex : (tree.lookup app.settings.assetRoot).findFile Bundle.indexFile = .ok (some file))
    (hasks : AsksEntry (tree.lookup app.settings.assetRoot) request)
    (hrange : request.method ≠ Method.get.name ∨ request.range? = none) :
    app.answer (tree.lookup app.settings.assetRoot) request =
      ⟨Delivery.whole ⟨200, file⟩, [], none⟩ := by
  obtain ⟨method, hmethod, hkind, hrespond⟩ := hasks.respond hindex
  have hdeliver : deliver method request file = .ok (Delivery.whole ⟨200, file⟩) := by
    rcases hkind with rfl | hreads
    · exact deliver_whole (by decide) (Or.inr (hrange.resolve_left fun h => h hmethod))
    · exact deliver_whole (Method.ne_of_readsAssets hreads).2 (Or.inl hreads)
  rw [hdeliver] at hrespond
  exact answer_of_delivered hrespond

theorem AsksEntry.respond_get
    (hindex : (tree.lookup app.settings.assetRoot).findFile Bundle.indexFile = .ok (some file))
    (hasks : AsksEntry (tree.lookup app.settings.assetRoot) request)
    (hget : request.method = Method.get.name) :
    App.respond app.settings (tree.lookup app.settings.assetRoot) request =
      delivered (deliver .get request file) := by
  obtain ⟨method, hmethod, _, hrespond⟩ := hasks.respond hindex
  obtain rfl := Method.name_injective (hmethod.symm.trans hget)
  exact hrespond

theorem eq_whole_of_deliver_get {response : Response}
    (hdeliver : deliver .get request file = .ok response) (hstatus : response.status = 200) :
    response = Delivery.whole ⟨200, file⟩ := by
  rw [deliver, if_pos (by rfl)] at hdeliver
  split at hdeliver
  · rename_i sent sendsContent hrespond
    rw [if_neg (by simp)] at hdeliver
    obtain rfl := Except.ok.inj hdeliver
    exact Delivery.eq_whole_of_respond hrespond hstatus
  · simp at hdeliver

/-- An answer with the status of success is the whole document. -/
theorem AsksEntry.answer_eq_whole_iff
    (hindex : (tree.lookup app.settings.assetRoot).findFile Bundle.indexFile = .ok (some file))
    (hasks : AsksEntry (tree.lookup app.settings.assetRoot) request)
    (hget : request.method = Method.get.name) :
    app.answer (tree.lookup app.settings.assetRoot) request =
        ⟨Delivery.whole ⟨200, file⟩, [], none⟩ ↔
      (app.answer (tree.lookup app.settings.assetRoot) request).response.status = 200 := by
  have hrespond := hasks.respond_get hindex hget
  constructor
  · intro hanswer
    rw [hanswer]
    rfl
  · intro hstatus
    obtain ⟨response, hdeliver, hanswer⟩ := exists_answer_of_delivery hrespond (by omega)
    rw [hanswer] at hstatus ⊢
    rw [eq_whole_of_deliver_get hdeliver hstatus]

/-- **The entry document is one response however it is reached**, as far as range headers do not
tell a reading request from the others. -/
theorem entry_document_agrees
    (hindex : (tree.lookup app.settings.assetRoot).findFile Bundle.indexFile = .ok (some file))
    {first second : Request} (hfirst : AsksEntry (tree.lookup app.settings.assetRoot) first)
    (hsecond : AsksEntry (tree.lookup app.settings.assetRoot) second)
    (hheaders : first.headers = second.headers) :
    ((first.method = Method.get.name ↔ second.method = Method.get.name) →
        app.answer (tree.lookup app.settings.assetRoot) first =
          app.answer (tree.lookup app.settings.assetRoot) second) ∧
      (first.method = Method.get.name → second.method ≠ Method.get.name →
        (app.answer (tree.lookup app.settings.assetRoot) first =
            app.answer (tree.lookup app.settings.assetRoot) second ↔
          (app.answer (tree.lookup app.settings.assetRoot) first).response.status = 200)) ∧
      (first.range? = none →
        app.answer (tree.lookup app.settings.assetRoot) first =
          app.answer (tree.lookup app.settings.assetRoot) second) := by
  refine ⟨?_, ?_, ?_⟩
  · intro hsame
    by_cases hget : first.method = Method.get.name
    · rw [answer, answer, hfirst.respond_get hindex hget, hsecond.respond_get hindex (hsame.1 hget),
        deliver_congr hheaders]
    · rw [hfirst.answer_eq_whole hindex (Or.inl hget),
        hsecond.answer_eq_whole hindex (Or.inl fun h => hget (hsame.2 h))]
  · intro hget hother
    rw [hsecond.answer_eq_whole hindex (Or.inl hother), hfirst.answer_eq_whole_iff hindex hget]
  · intro hrange
    have hrange' : second.range? = none := by
      rwa [Request.range?, Request.header?, ← hheaders]
    rw [hfirst.answer_eq_whole hindex (Or.inr hrange),
      hsecond.answer_eq_whole hindex (Or.inr hrange')]

theorem findFile_smallBundle :
    (smallBundle.lookup standard.settings.assetRoot).findFile Bundle.indexFile =
      .ok (some ⟨.inside [standard.settings.assetRoot, Bundle.indexFile], [0x68]⟩) :=
  findFile_indexFile linkFree_smallBundle get?_smallBundle

theorem answer_smallBundle :
    standard.answer (smallBundle.lookup standard.settings.assetRoot) (.simple .get ['/']) =
      standard.answer (smallBundle.lookup standard.settings.assetRoot)
        (.simple .post "/users".toList) := by
  have hreading : AsksEntry (smallBundle.lookup standard.settings.assetRoot)
      (.simple .get ['/']) :=
    .reading rfl (Request.regular_simple .get _) rfl (Request.decode_simple .get _) .root
  have hother : AsksEntry (smallBundle.lookup standard.settings.assetRoot)
      (.simple .post "/users".toList) := .other ⟨by decide, Method.ofName?_name .post⟩ rfl
  exact (entry_document_agrees findFile_smallBundle hreading hother rfl).2.2 rfl

def firstByte (method : Method) : Request :=
  { Request.simple method ['/'] with headers := [("range".toList, "bytes=0-0".toList)] }

/-- A bundle with a file whose name is that of a path with a backslash, escaped. -/
def escapedBundle : Node :=
  .dir [(Bundle.directory, .dir [(Bundle.indexFile, .file [0x68]),
    ("a%5Cb".toList, .file [0x61])])]

theorem linkFree_escapedBundle : escapedBundle.LinkFree := Node.linkFree_of_links rfl

theorem read_firstByte : Range.read 1 "bytes=0-0".toList = .ok (some [⟨0, 1⟩]) := by
  have hcut : Text.cut '=' "bytes=0-0".toList = ("bytes".toList, some "0-0".toList) := by decide
  have hunit : Text.lower (Text.strip "bytes".toList) = "bytes".toList := by decide
  have hspans : ("0-0".toList.splitOn ',').filterMap (Range.span? 1) = [⟨0, 1⟩] := by decide
  have hcheck : Range.check 1 [⟨0, 1⟩] = .ok [⟨0, 1⟩] := by
    rw [Range.check, if_neg (by decide), if_neg (by decide), if_neg (by decide),
      List.mergeSort_singleton]
    rfl
  rw [Range.read, hcut]
  simp only
  rw [if_neg (by rw [hunit]; decide), if_neg (by decide), hspans, hcheck]
  rfl

theorem status_firstByte :
    (standard.answer (smallBundle.lookup standard.settings.assetRoot)
        (firstByte .get)).response.status = 206 ∧
      (standard.answer (smallBundle.lookup standard.settings.assetRoot)
        (firstByte .post)).response.status = 200 := by
  have hurl : (firstByte .get).url = .ok ⟨['/'], []⟩ :=
    Request.url_simple_headers _ rfl (by decide) (Url.isPlainChar_of_all (by decide))
  have hserves : ∀ method, Serves (firstByte method) method := fun method =>
    ⟨rfl, Method.ofName?_name method⟩
  have hreading := respond_of_asset standard.settings (hserves .get) rfl hurl
    (Lookup.matchMounts_of_root (matchMount_root _ _ rfl rfl findFile_smallBundle))
  have hother := respond_of_entry standard.settings (hserves .post) (Or.inl rfl)
    findFile_smallBundle
  have hrange : (firstByte .get).range? = some "bytes=0-0".toList := by decide
  have hifRange : (firstByte .get).ifRange? = none := by decide
  constructor
  · have hdeliver : ∀ place, deliver .get (firstByte .get) ⟨place, [0x68]⟩ =
        .ok (Delivery.single ⟨200, place, [0x68]⟩ ⟨0, 1⟩) := by
      intro place
      have hsize : Delivery.size ⟨200, place, [0x68]⟩ = 1 := rfl
      rw [deliver, if_pos (by rfl), hrange, hifRange, Delivery.respond, Delivery.respondRange,
        hsize, read_firstByte]
      rfl
    rw [hdeliver] at hreading
    rw [answer_of_delivered hreading]
    rfl
  · rw [deliver_whole (by decide) (Or.inl rfl)] at hother
    rw [answer_of_delivered hother]
    rfl

/-- A path with a backslash matches nothing, but it is read as the path of the other file. -/
theorem answer_escapedBundle :
    (escapedBundle.lookup standard.settings.assetRoot).matchMounts "/a\\b".toList = .ok none ∧
      (standard.answer (escapedBundle.lookup standard.settings.assetRoot)
        (.simple .get "/a\\b".toList)).response.body = [0x61] ∧
      (standard.answer (escapedBundle.lookup standard.settings.assetRoot)
        (.simple .post "/a\\b".toList)).response.body = [0x68] := by
  have hroot := assetRoot_standard
  have hindex : (escapedBundle.lookup standard.settings.assetRoot).findFile Bundle.indexFile =
      .ok (some ⟨.inside [standard.settings.assetRoot, Bundle.indexFile], [0x68]⟩) :=
    findFile_indexFile linkFree_escapedBundle (by rw [hroot]; rfl)
  refine ⟨?_, ?_, ?_⟩
  · rw [Lookup.matchMounts_of_outside (by decide)]
    exact matchMount_of_absent linkFree_escapedBundle (by rw [hroot]; rfl)
  · have hserves : Serves (.simple .get "/a\\b".toList) .get :=
      ⟨by decide, Method.ofName?_name .get⟩
    have hurl := Request.url_of_server (Request.regular_simple .get "/a\\b".toList) rfl rfl
      (Request.decode_simple .get _)
    have haskable : Askable standard.settings.assetRoot (assetNames "/a%5Cb".toList) := by
      rw [hroot]
      exact ⟨by decide, by decide, by decide, by decide⟩
    have hmatch : (escapedBundle.lookup standard.settings.assetRoot).matchMounts
        "/a%5Cb".toList =
          .ok (some (.serve ⟨.inside [standard.settings.assetRoot, "a%5Cb".toList], [0x61]⟩)) :=
      Lookup.matchMounts_of_root
        (matchMount_of_get? linkFree_escapedBundle haskable (by rw [hroot]; rfl))
    have hobtains := Obtains.asset hserves rfl hurl hmatch
    rw [hobtains.answer_whole (by decide) (Or.inr rfl)]
    rfl
  · have hserves : Serves (.simple .post "/a\\b".toList) .post :=
      ⟨by decide, Method.ofName?_name .post⟩
    have hobtains := Obtains.entry hserves (Or.inl rfl) hindex
    rw [hobtains.answer_whole (by decide) (Or.inl rfl)]
    rfl

/-- A range header tells reading requests from the others, and a backslash makes a path that matches
nothing that of an asset. -/
theorem entry_document_differs :
    ((standard.answer (smallBundle.lookup standard.settings.assetRoot)
          (firstByte .get)).response.status = 206 ∧
        (standard.answer (smallBundle.lookup standard.settings.assetRoot)
          (firstByte .post)).response.status = 200) ∧
      (escapedBundle.lookup standard.settings.assetRoot).matchMounts "/a\\b".toList = .ok none ∧
      (standard.answer (escapedBundle.lookup standard.settings.assetRoot)
        (.simple .get "/a\\b".toList)).response.body = [0x61] ∧
      (standard.answer (escapedBundle.lookup standard.settings.assetRoot)
        (.simple .post "/a\\b".toList)).response.body = [0x68] :=
  ⟨status_firstByte, answer_escapedBundle⟩

end SpaServer.App
