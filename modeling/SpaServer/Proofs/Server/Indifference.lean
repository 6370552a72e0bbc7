import SpaServer.Proofs.Server.Bundle
import SpaServer.Proofs.Server.Course
import SpaServer.Proofs.Text.Utf8

/-!
# What an answer does not depend on

An answer is a function of the files and of what was asked for: the method, the path, the query and
the range headers. All else in a request could count only through the URL that its path is read
from, and it does count there in two ways. Without an authority, a path that begins with two slashes
is read as another one. And a client that is sent to a path with other slashes at its end is given a
whole URL.
-/

namespace SpaServer

/-- Whether two requests ask for the same, whatever else they carry and wherever they come in. -/
structure Request.AsksSame (first second : Request) : Prop where
  method : first.method = second.method
  path : first.path = second.path
  query : first.query = second.query
  range? : first.range? = second.range?
  ifRange? : first.ifRange? = second.ifRange?

namespace Request

variable {first second : Request}

theorem AsksSame.symm (hsame : first.AsksSame second) : second.AsksSame first :=
  ⟨hsame.method.symm, hsame.path.symm, hsame.query.symm, hsame.range?.symm, hsame.ifRange?.symm⟩

/-- The request to a server that does not know its address, over the other scheme. -/
def withoutAddress (request : Request) : Request :=
  { request with server := none, scheme := "https".toList }

theorem asksSame_withoutAddress (request : Request) : request.AsksSame request.withoutAddress :=
  ⟨rfl, rfl, rfl, rfl, rfl⟩

theorem regular_withoutAddress (request : Request) : request.withoutAddress.Regular where
  scheme := by
    change (Authority.defaultPort? "https".toList).isSome = true
    decide
  server := by
    intro host port standard hserver
    simp [withoutAddress] at hserver

theorem url_congr (hsame : first.AsksSame second) (hfirst : first.Regular)
    (hsecond : second.Regular) (hplaced : first.IsPlaced ↔ second.IsPlaced)
    (hpath : first.path.head? = some '/') : first.url = second.url := by
  cases hquery : Utf8.decode first.query with
  | error fault =>
      rw [url_of_undecodable hfirst hquery, url_of_undecodable hsecond (hsame.query ▸ hquery)]
  | ok query =>
      have hquery' : Utf8.decode second.query = .ok query := by rw [← hsame.query, hquery]
      by_cases hknown : first.IsPlaced
      · rw [url_of_placed hfirst hknown hpath hquery,
          url_of_placed hsecond (hplaced.1 hknown) (hsame.path ▸ hpath) hquery', hsame.path]
      · rw [url, url, urlTo_of_unplaced hfirst hknown hquery,
          urlTo_of_unplaced hsecond (fun h => hknown (hplaced.2 h)) hquery', hsame.path]
        -- Without an authority the scheme is not written either.
        rfl

theorem url_congr_of_not_doubled (hsame : first.AsksSame second) (hfirst : first.Regular)
    (hsecond : second.Regular) (hpath : first.path.head? = some '/')
    (hdoubled : ¬['/', '/'] <+: Url.visiblePath first.path) : first.url = second.url := by
  cases hquery : Utf8.decode first.query with
  | error fault =>
      rw [url_of_undecodable hfirst hquery, url_of_undecodable hsecond (hsame.query ▸ hquery)]
  | ok query =>
      rw [url_of_not_doubled hfirst hpath hdoubled hquery,
        url_of_not_doubled hsecond (hsame.path ▸ hpath) (hsame.path ▸ hdoubled)
          (hsame.query ▸ hquery), hsame.path]

theorem exists_urlTo {request : Request} (hregular : request.Regular) {query : Text}
    (hquery : Utf8.decode request.query = .ok query) (path : Text) :
    ∃ url, request.urlTo path = .ok url := by
  obtain ⟨authority, hauthority, _⟩ := hregular.authority?
  exact ⟨_, by simp only [urlTo, hauthority, hquery]; rfl⟩

end Request

namespace App

variable {app : App} {settings : Settings} {lookup : Lookup} {first second : Request}

/-! ### Requests with the same URL -/

theorem serve_congr_of_url (hsame : first.AsksSame second) (hurl : first.url = second.url)
    (method : Method) :
    serve settings lookup method first = serve settings lookup method second := by
  have hdeliver : ∀ file, deliver method first file = deliver method second file :=
    deliver_congr_of_ranges hsame.range? hsame.ifRange? method
  simp only [serve, fallback, hurl, hdeliver]

/-- **On the route nothing but the URL tells requests for the same apart.** -/
theorem answer_congr_of_url (hsame : first.AsksSame second) (hurl : first.url = second.url)
    (hroute : onRoute first.path = true) : app.answer lookup first = app.answer lookup second := by
  have hrespond : respond app.settings lookup first = respond app.settings lookup second := by
    rw [respond, respond, ← hsame.path, ← hsame.method, if_pos hroute, if_pos hroute]
    cases Method.ofName? first.method with
    | none => rfl
    | some method => exact serve_congr_of_url hsame hurl method
  rw [answer, answer, hrespond]

/-! ### Requests with different URLs -/

theorem missingIndexResponse_injective {path other : Text}
    (hsame : missingIndexResponse settings path = missingIndexResponse settings other) :
    path = other := by
  have hbytes : Text.utf8 _ = Text.utf8 _ := congrArg Response.body hsame
  exact List.append_cancel_left (List.append_cancel_right (Text.utf8_injective hbytes))

/-- Where there is nothing, a path that is read is given back. -/
theorem response_empty {request : Request} {method : Method} (hserves : Serves request method)
    {url : Url.Parts} (hurl : request.url = .ok url) :
    (app.answer (Node.empty.lookup app.settings.assetRoot) request).response =
      missingIndexResponse app.settings url.path := by
  have hunmatched : Unmatched (Node.empty.lookup app.settings.assetRoot) request method :=
    Or.inr ⟨url, hurl, matchMounts_empty app.settings url.path⟩
  rw [answer, respond_of_noEntry app.settings hserves hunmatched (findFile_indexFile_empty _) hurl]

theorem response_empty_of_url_error {request : Request} {method : Method}
    (hserves : Serves request method) {error : Request.UrlError}
    (hurl : request.url = .error error) :
    (app.answer (Node.empty.lookup app.settings.assetRoot) request).response = .internalError := by
  cases hreads : method.readsAssets with
  | true => rw [answer, respond_of_urlFailed app.settings hserves hreads hurl]
  | false =>
      have hindex := findFile_indexFile_empty app.settings
      rw [answer, respond_of_noEntryFailed app.settings hserves (Or.inl hreads) hindex hurl]

/-- An empty tree is enough to tell a request with an authority from one without, if the path begins
with two slashes. -/
theorem response_empty_ne {method : Method} (hsame : first.AsksSame second)
    (hserves : Serves first method) (hfirst : first.Regular) (hsecond : second.Regular)
    (hplaced : first.IsPlaced) (hunplaced : ¬second.IsPlaced)
    (hdoubled : ['/', '/'] <+: Url.visiblePath first.path) {query : Text}
    (hquery : Utf8.decode first.query = .ok query) :
    (app.answer (Node.empty.lookup app.settings.assetRoot) first).response ≠
      (app.answer (Node.empty.lookup app.settings.assetRoot) second).response := by
  have hpath := head?_of_onRoute hserves.onRoute
  have hserves' : Serves second method :=
    ⟨hsame.path ▸ hserves.onRoute, hsame.method ▸ hserves.ofName?⟩
  rw [response_empty hserves (Request.url_of_placed hfirst hplaced hpath hquery)]
  cases hurl : second.url with
  | error error =>
      rw [response_empty_of_url_error hserves' hurl]
      intro hresponse
      exact absurd (congrArg Response.status hresponse) (by simp [missingIndexResponse,
        Response.internalError, Response.plain])
  | ok parts =>
      rw [response_empty hserves' hurl]
      intro hresponse
      have hread := Request.path_ne_of_unplaced hsecond hunplaced (hsame.path ▸ hpath)
        (hsame.path ▸ hdoubled) hurl
      rw [← hsame.path] at hread
      exact hread (missingIndexResponse_injective hresponse).symm

/-! ### What requests for the same have to agree in -/

/-- Whether two requests for the same are answered alike, in whatever tree. -/
inductive Interchangeable (first second : Request) : Prop
  /-- The query cannot be read, whatever URL it stands in. -/
  | undecodable {fault : Utf8.Fault} (hquery : Utf8.decode first.query = .error fault)
  | unknownMethod (hroute : onRoute first.path = true)
      (hmethod : Method.ofName? first.method = none)
  /-- Both have an authority before their path, or neither has. -/
  | placed (hroute : onRoute first.path = true) (hplaced : first.IsPlaced ↔ second.IsPlaced)
  /-- The path does not begin like an authority. -/
  | single (hroute : onRoute first.path = true)
      (hdoubled : ¬['/', '/'] <+: Url.visiblePath first.path)
  | offRoute (hroute : onRoute first.path = false)
      (hother : onRoute (otherSlashes first.path) = false)
  /-- Both are sent to the same URL. -/
  | slashes (hroute : onRoute first.path = false) {url other : Text}
      (hurl : first.urlTo (otherSlashes first.path) = .ok url)
      (hother : second.urlTo (otherSlashes first.path) = .ok other)
      (hsame : Percent.encode url = Percent.encode other)

/-- Off the route nothing but the URL that a client is sent to tells requests for the same apart. -/
theorem answer_congr_of_location (hsame : first.AsksSame second)
    (hroute : onRoute first.path = false)
    (hlocation : onRoute (otherSlashes first.path) = true →
      (first.urlTo (otherSlashes first.path)).map Percent.encode =
        (second.urlTo (otherSlashes first.path)).map Percent.encode) :
    app.answer lookup first = app.answer lookup second := by
  have hrespond : respond app.settings lookup first = respond app.settings lookup second := by
    rw [respond, respond, ← hsame.path, hroute, if_neg Bool.false_ne_true,
      if_neg Bool.false_ne_true]
    cases hother : onRoute (otherSlashes first.path) with
    | false => rfl
    | true =>
        have hmoved := hlocation hother
        cases hfirst : first.urlTo (otherSlashes first.path) with
        | error error =>
            cases hsecond : second.urlTo (otherSlashes first.path) with
            | error other =>
                rw [hfirst, hsecond] at hmoved
                rw [Except.error.inj hmoved]
            | ok other => simp [hfirst, hsecond, Except.map] at hmoved
        | ok url =>
            cases hsecond : second.urlTo (otherSlashes first.path) with
            | error other => simp [hfirst, hsecond, Except.map] at hmoved
            | ok other =>
                rw [hfirst, hsecond] at hmoved
                simp only [Except.ok.inj hmoved]
  rw [answer, answer, hrespond]

theorem answer_congr_of_interchangeable (hsame : first.AsksSame second) (hfirst : first.Regular)
    (hsecond : second.Regular) (hpath : first.path.head? = some '/')
    (hboth : Interchangeable first second) :
    app.answer lookup first = app.answer lookup second := by
  cases hboth with
  | undecodable hquery =>
      have hquery' : Utf8.decode second.query = _ := hsame.query ▸ hquery
      cases hroute : onRoute first.path with
      | true =>
          refine answer_congr_of_url hsame ?_ hroute
          rw [Request.url_of_undecodable hfirst hquery, Request.url_of_undecodable hsecond hquery']
      | false =>
          refine answer_congr_of_location hsame hroute fun _ => ?_
          rw [Request.urlTo_of_undecodable hfirst hquery,
            Request.urlTo_of_undecodable hsecond hquery']
  | unknownMethod hroute hmethod =>
      rw [answer, answer, respond_of_unknownMethod hroute hmethod,
        respond_of_unknownMethod (hsame.path ▸ hroute) (hsame.method ▸ hmethod)]
  | placed hroute hplaced =>
      exact answer_congr_of_url hsame (Request.url_congr hsame hfirst hsecond hplaced hpath) hroute
  | single hroute hdoubled =>
      have hurl := Request.url_congr_of_not_doubled hsame hfirst hsecond hpath hdoubled
      exact answer_congr_of_url hsame hurl hroute
  | offRoute hroute hother =>
      exact answer_congr_of_location hsame hroute fun hon =>
        absurd (hother.symm.trans hon) Bool.false_ne_true
  | slashes hroute hurl hother hlocation =>
      refine answer_congr_of_location hsame hroute fun _ => ?_
      rw [hurl, hother]
      exact congrArg Except.ok hlocation

/-- Where there is nothing, requests for the same are answered alike only if they are
interchangeable. -/
theorem interchangeable_of_empty (hsame : first.AsksSame second) (hfirst : first.Regular)
    (hsecond : second.Regular)
    (hempty : (app.answer (Node.empty.lookup app.settings.assetRoot) first).response =
      (app.answer (Node.empty.lookup app.settings.assetRoot) second).response) :
    Interchangeable first second := by
  cases hquery : Utf8.decode first.query with
  | error fault => exact .undecodable hquery
  | ok query =>
  have hquery' : Utf8.decode second.query = .ok query := hsame.query ▸ hquery
  cases hroute : onRoute first.path with
  | true =>
      cases hmethod : Method.ofName? first.method with
      | none => exact .unknownMethod hroute hmethod
      | some method =>
          have hserves : Serves first method := ⟨hroute, hmethod⟩
          have hserves' : Serves second method := ⟨hsame.path ▸ hroute, hsame.method ▸ hmethod⟩
          by_cases hdoubled : ['/', '/'] <+: Url.visiblePath first.path
          · refine .placed hroute ⟨fun hplaced => ?_, fun hplaced => ?_⟩
            · by_contra hother
              exact response_empty_ne hsame hserves hfirst hsecond hplaced hother hdoubled hquery
                hempty
            · by_contra hother
              exact response_empty_ne hsame.symm hserves' hsecond hfirst hplaced hother
                (hsame.path ▸ hdoubled) hquery' hempty.symm
          · exact .single hroute hdoubled
  | false =>
      cases hother : onRoute (otherSlashes first.path) with
      | false => exact .offRoute hroute hother
      | true =>
          obtain ⟨url, hurl⟩ := Request.exists_urlTo hfirst hquery (otherSlashes first.path)
          obtain ⟨other, hurl'⟩ := Request.exists_urlTo hsecond hquery' (otherSlashes first.path)
          refine .slashes hroute hurl hurl' ?_
          have hto := hurl'
          rw [hsame.path] at hto
          rw [answer, answer, respond_of_slashes hroute hother hurl,
            respond_of_slashes (hsame.path ▸ hroute) (hsame.path ▸ hother) hto] at hempty
          simpa [Response.redirect] using hempty

/-- **Requests for the same get the same response in every tree exactly if they are
interchangeable.** On the route a request with the same URL gets the same response whatever address
the server has. -/
theorem same_response_iff (app : App) {first second : Request} (hsame : first.AsksSame second)
    (hpath : first.path.head? = some '/') :
    (first.Regular → second.Regular →
        ((∀ tree : Node, (app.answer (tree.lookup app.settings.assetRoot) first).response =
            (app.answer (tree.lookup app.settings.assetRoot) second).response) ↔
          Interchangeable first second)) ∧
      (onRoute first.path = true → first.url = second.url → ∀ lookup,
        app.answer lookup first = app.answer lookup second) := by
  constructor
  · intro hfirst hsecond
    refine ⟨fun hall => ?_, fun hboth tree => ?_⟩
    · exact interchangeable_of_empty hsame hfirst hsecond (hall Node.empty)
    · rw [answer_congr_of_interchangeable hsame hfirst hsecond hpath hboth]
  · intro hroute hurl lookup
    exact answer_congr_of_url hsame hurl hroute

/-! ### A server that does not know its address -/

theorem same_response_withoutAddress :
    (Request.simple .get "/users".toList).AsksSame
        (Request.simple .get "/users".toList).withoutAddress ∧
      (Request.simple .get "/users".toList).path.head? = some '/' ∧
      ∀ tree : Node,
        (standard.answer (tree.lookup standard.settings.assetRoot)
            (Request.simple .get "/users".toList)).response =
          (standard.answer (tree.lookup standard.settings.assetRoot)
            (Request.simple .get "/users".toList).withoutAddress).response := by
  have hroute : onRoute (Request.simple .get "/users".toList).path = true := by decide
  have hboth : Interchangeable (.simple .get "/users".toList)
      (Request.simple .get "/users".toList).withoutAddress := .single hroute (by decide)
  refine ⟨Request.asksSame_withoutAddress _, rfl, ?_⟩
  exact ((same_response_iff standard (Request.asksSame_withoutAddress _) rfl).1
    (Request.regular_simple .get _) (Request.regular_withoutAddress _)).2 hboth

def letterBundle : Node :=
  .dir [(Bundle.directory, .dir [(Bundle.indexFile, .file [0x68]), ("a".toList, .file [0x78])])]

theorem linkFree_letterBundle : letterBundle.LinkFree := Node.linkFree_of_links rfl

theorem matchMounts_letterBundle :
    (letterBundle.lookup standard.settings.assetRoot).matchMounts "//a".toList =
      .ok (some (.serve ⟨.inside [standard.settings.assetRoot, "a".toList], [0x78]⟩)) := by
  refine Lookup.matchMounts_of_root (matchMount_of_get? linkFree_letterBundle ?_ ?_)
  · rw [assetRoot_standard]
    exact ⟨by decide, by decide, by decide, by decide⟩
  · rw [assetRoot_standard]
    rfl

/-- The asset behind two slashes is sent only by a server that knows its address. -/
theorem missing_address_hides_asset :
    (Request.simple .get "//a".toList).AsksSame
        (Request.simple .get "//a".toList).withoutAddress ∧
      (standard.answer (letterBundle.lookup standard.settings.assetRoot)
        (Request.simple .get "//a".toList)).response.body = [0x78] ∧
      (standard.answer (letterBundle.lookup standard.settings.assetRoot)
        (Request.simple .get "//a".toList).withoutAddress).response.body = [0x68] := by
  have hserves : Serves (.simple .get "//a".toList) .get :=
    ⟨by decide, Method.ofName?_name .get⟩
  have hquery := Request.decode_simple .get "//a".toList
  refine ⟨Request.asksSame_withoutAddress _, ?_, ?_⟩
  · have hurl := Request.url_of_server (Request.regular_simple .get "//a".toList) rfl rfl hquery
    have hobtains := Obtains.asset hserves rfl hurl matchMounts_letterBundle
    rw [hobtains.answer_whole (by decide) (Or.inr rfl)]
    rfl
  · have hserves' : Serves (Request.simple .get "//a".toList).withoutAddress .get :=
      ⟨hserves.1, hserves.2⟩
    have hurl : (Request.simple .get "//a".toList).withoutAddress.url =
        .ok ⟨"/%2Fa".toList, []⟩ := by
      have hunplaced : ¬(Request.simple .get "//a".toList).withoutAddress.IsPlaced := by
        rintro (hhost | hserver)
        · exact absurd hhost Bool.false_ne_true
        · exact absurd hserver Bool.false_ne_true
      have hregular := Request.regular_withoutAddress (Request.simple .get "//a".toList)
      rw [Request.url, Request.urlTo_of_unplaced hregular hunplaced hquery]
      rfl
    have hmatch : (letterBundle.lookup standard.settings.assetRoot).matchMounts
        "/%2Fa".toList = .ok none := by
      rw [Lookup.matchMounts_of_outside (by decide)]
      exact matchMount_of_absent linkFree_letterBundle (by rw [assetRoot_standard]; rfl)
    have hindex : (letterBundle.lookup standard.settings.assetRoot).findFile Bundle.indexFile =
        .ok (some ⟨.inside [standard.settings.assetRoot, Bundle.indexFile], [0x68]⟩) :=
      findFile_indexFile linkFree_letterBundle (by rw [assetRoot_standard]; rfl)
    have hobtains := Obtains.entry hserves' (Or.inr ⟨_, hurl, hmatch⟩) hindex
    rw [hobtains.answer_whole (by decide) (Or.inr rfl)]
    rfl

end App

end SpaServer
