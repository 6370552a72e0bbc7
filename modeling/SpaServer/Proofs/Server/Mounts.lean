import SpaServer.Proofs.Server.Bundle
import SpaServer.Proofs.Server.Course

/-!
# The two mounts

A path below the console that the root mount misses is answered as the path without the prefix is.
The prefix shows only where a path is given back: in a redirect, and in the text that no entry
document was found. A path that the root mount matches gets that match, whatever else there is.

Both are said of the path as it is read from the URL. That is the path of the request if it is free
of question marks, hash signs and backslashes.
-/

namespace SpaServer

def Request.underConsole (request : Request) : Request :=
  { request with path := consolePrefix ++ request.path }

namespace Request

variable {request : Request}

theorem Regular.underConsole (hregular : request.Regular) : request.underConsole.Regular :=
  ⟨hregular.scheme, hregular.server⟩

theorem visiblePath_underConsole :
    Url.visiblePath request.underConsole.path = consolePrefix ++ Url.visiblePath request.path := by
  rw [underConsole, Url.visiblePath_append]
  rfl

theorem kept_underConsole (hkept : ∀ c ∈ request.path, Url.isDropped c = false) :
    ∀ c ∈ request.underConsole.path, Url.isDropped c = false := by
  intro c hc
  rcases List.mem_append.1 hc with hc | hc
  · exact Url.isKept_of_all (by decide) c hc
  · exact hkept c hc

end Request

theorem Url.stripConsole_visiblePath {path : Text} (hpath : stripConsole path = none)
    (hkept : ∀ c ∈ path, isDropped c = false) : stripConsole (visiblePath path) = none := by
  rw [Lookup.stripConsole_eq_none_iff] at hpath ⊢
  intro hprefix
  refine hpath (prefix_of_escapePath (by decide) ?_)
  rw [visiblePath_of_kept hkept] at hprefix
  rw [escapePath, List.flatMap_append, ← escapePath]
  exact hprefix

namespace App

/-- Whether an answer below the console is like the one at the root, where the path is read as
given. They are the same but for the path where it is given back. -/
inductive Corresponds (settings : Settings) (path : Text) : Exchange → Exchange → Prop
  | same (exchange : Exchange) : Corresponds settings path exchange exchange
  | redirected (rest : Text) : Corresponds settings path
      ⟨.redirect 301 (consolePrefix ++ (Percent.encode path ++ rest)), [], none⟩
      ⟨.redirect 301 (Percent.encode path ++ rest), [], none⟩
  | missing (method : Method) : Corresponds settings path
      ⟨missingIndexResponse settings (consolePrefix ++ path),
        [missingIndexLog settings method (consolePrefix ++ path)], none⟩
      ⟨missingIndexResponse settings path, [missingIndexLog settings method path], none⟩

variable {app : App} {lookup : Lookup} {request : Request} {method : Method} {path : Text}

theorem corresponds_of_respond {first second : Request}
    (hsame : respond app.settings lookup first = respond app.settings lookup second) :
    Corresponds app.settings path (app.answer lookup first) (app.answer lookup second) := by
  rw [answer, answer, hsame]
  exact .same _

theorem corresponds_of_directory {query : Text} {first second : Request}
    (hfirst : respond app.settings lookup first =
      .ok (directoryRedirect (consolePrefix ++ (path ++ ['/'])) query, []))
    (hsecond : respond app.settings lookup second =
      .ok (directoryRedirect (path ++ ['/']) query, [])) :
    Corresponds app.settings path (app.answer lookup first) (app.answer lookup second) := by
  have hplain : Percent.encode consolePrefix = consolePrefix := by decide
  rw [answer, answer, hfirst, hsecond]
  simp only [directoryRedirect_eq, Percent.encode_append, hplain, List.append_assoc]
  exact .redirected _

/-- The entry document is the same for both, and where there is none each path is given back. -/
theorem corresponds_of_unmatched {query : Text} {first second : Request}
    (hheaders : first.headers = second.headers)
    (hfirst : respond app.settings lookup first = fallback app.settings lookup method first)
    (hsecond : respond app.settings lookup second = fallback app.settings lookup method second)
    (hfirstUrl : first.url = .ok ⟨consolePrefix ++ path, query⟩)
    (hsecondUrl : second.url = .ok ⟨path, query⟩) :
    Corresponds app.settings path (app.answer lookup first) (app.answer lookup second) := by
  cases hindex : lookup.findFile Bundle.indexFile with
  | error errno =>
      refine corresponds_of_respond ?_
      simp only [hfirst, hsecond, fallback, hindex]
  | ok found =>
      cases found with
      | some file =>
          refine corresponds_of_respond ?_
          simp only [hfirst, hsecond, fallback, hindex, deliver_congr hheaders]
      | none =>
          rw [answer, answer, hfirst, hsecond]
          simp only [fallback, hindex, hfirstUrl, hsecondUrl]
          exact .missing method

theorem Corresponds.of_matchMounts {query : Text} (hfirst : Serves request.underConsole method)
    (hsecond : Serves request method) (hreads : method.readsAssets = true)
    (hfirstUrl : request.underConsole.url = .ok ⟨consolePrefix ++ path, query⟩)
    (hsecondUrl : request.url = .ok ⟨path, query⟩) (hpath : path.head? = some '/')
    (hstrip : stripConsole path = none)
    (hroot : lookup.matchMount (consolePrefix ++ path) (consolePrefix ++ path) = .ok none) :
    Corresponds app.settings path (app.answer lookup request.underConsole)
      (app.answer lookup request) := by
  have hnil : path ≠ [] := by
    rintro rfl
    simp at hpath
  have hunder := Lookup.matchMounts_of_console hpath hroot
  rw [Lookup.matchMount_append hnil, ← Lookup.matchMounts_of_outside hstrip] at hunder
  cases hmatch : lookup.matchMounts path with
  | error errno =>
      rw [hmatch] at hunder
      refine corresponds_of_respond ?_
      rw [respond_of_matchFailed app.settings hfirst hreads hfirstUrl hunder,
        respond_of_matchFailed app.settings hsecond hreads hsecondUrl hmatch]
  | ok found =>
      rw [hmatch] at hunder
      cases found with
      | none =>
          exact corresponds_of_unmatched rfl
            (respond_of_unmatched app.settings hfirst (Or.inr ⟨_, hfirstUrl, hunder⟩))
            (respond_of_unmatched app.settings hsecond (Or.inr ⟨_, hsecondUrl, hmatch⟩))
            hfirstUrl hsecondUrl
      | some matched =>
          cases matched with
          | serve file =>
              refine corresponds_of_respond ?_
              rw [respond_of_asset app.settings hfirst hreads hfirstUrl hunder,
                respond_of_asset app.settings hsecond hreads hsecondUrl hmatch]
              rfl
          | redirect asset target =>
              obtain ⟨rfl, _⟩ := Lookup.redirect_of_matchMounts hmatch
              have hto := respond_of_directory app.settings hsecond hreads hsecondUrl hmatch
              have htoUnder := respond_of_directory app.settings hfirst hreads hfirstUrl hunder
              exact corresponds_of_directory htoUnder hto

/-! ### Paths that the root mount matches -/

def matchOutcome (method : Method) (request : Request) (query : Text) :
    Match → Except Failure (Response × List LogEntry)
  | .serve file => delivered (deliver method request file)
  | .redirect _ target => .ok (directoryRedirect target query, [])

theorem respond_of_match (settings : Settings) {url : Url.Parts} {found : Match}
    (hserves : Serves request method) (hreads : method.readsAssets = true)
    (hurl : request.url = .ok url) (hmatch : lookup.matchMounts url.path = .ok (some found)) :
    respond settings lookup request = matchOutcome method request url.query found := by
  cases found with
  | serve file => exact respond_of_asset settings hserves hreads hurl hmatch
  | redirect asset target => exact respond_of_directory settings hserves hreads hurl hmatch

/-! ### Both mounts -/

theorem serves_of_kept (hmethod : Method.ofName? request.method = some method)
    (hstart : request.path.head? = some '/')
    (hkept : ∀ c ∈ request.path, Url.isDropped c = false) : Serves request method := by
  refine ⟨(onRoute_iff hstart).2 fun hfeed => ?_, hmethod⟩
  exact absurd (hkept '\n' (List.dropLast_subset _ hfeed)) (by decide)

/-- **A path below the console is answered like the path behind the prefix if the root mount misses
it, and otherwise by what the root mount has.** -/
theorem mounts_agree {app : App} {lookup : Lookup} {request : Request} {method : Method}
    (hmethod : Method.ofName? request.method = some method) (hreads : method.readsAssets = true)
    (hregular : request.Regular) (hserver : request.server.isSome = true)
    (hstart : request.path.head? = some '/')
    (hkept : ∀ c ∈ request.path, Url.isDropped c = false)
    (hstrip : stripConsole request.path = none) {path : Text}
    (hpath : Url.visiblePath request.path = path) :
    (lookup.matchMount (consolePrefix ++ path) (consolePrefix ++ path) = .ok none →
        Corresponds app.settings path (app.answer lookup request.underConsole)
          (app.answer lookup request)) ∧
      (∀ found, lookup.matchMount (consolePrefix ++ path) (consolePrefix ++ path) =
          .ok (some found) →
        (∀ query, Utf8.decode request.query = .ok query →
          respond app.settings lookup request.underConsole =
            matchOutcome method request.underConsole (Url.visibleQuery query) found) ∧
        ∀ other : Lookup, other.matchMount (consolePrefix ++ path) (consolePrefix ++ path) =
            .ok (some found) →
          app.answer other request.underConsole = app.answer lookup request.underConsole) ∧
      (path = request.path ↔ ∀ c ∈ request.path, Url.isPlainChar c = true) := by
  have hfirst : Serves request.underConsole method :=
    serves_of_kept hmethod rfl (Request.kept_underConsole hkept)
  have hsecond : Serves request method := serves_of_kept hmethod hstart hkept
  have hself : path = request.path ↔ ∀ c ∈ request.path, Url.isPlainChar c = true := by
    rw [← hpath]
    exact Url.visiblePath_eq_self_iff
  cases hquery : Utf8.decode request.query with
  | error fault =>
      have hfirstUrl := Request.url_of_undecodable hregular.underConsole hquery
      have hsecondUrl := Request.url_of_undecodable hregular hquery
      refine ⟨fun _ => corresponds_of_respond ?_, fun found _ => ⟨by simp, fun other _ => ?_⟩, hself⟩
      · rw [respond_of_urlFailed app.settings hfirst hreads hfirstUrl,
          respond_of_urlFailed app.settings hsecond hreads hsecondUrl]
      · rw [answer, answer, respond_of_urlFailed app.settings hfirst hreads hfirstUrl,
          respond_of_urlFailed app.settings hfirst hreads hfirstUrl]
  | ok query =>
      have hfirstUrl := Request.url_of_server hregular.underConsole hserver rfl hquery
      have hsecondUrl := Request.url_of_server hregular hserver hstart hquery
      rw [Request.visiblePath_underConsole, hpath] at hfirstUrl
      rw [hpath] at hsecondUrl
      refine ⟨fun hroot => ?_, fun found hroot => ⟨?_, fun other hother => ?_⟩, hself⟩
      · refine .of_matchMounts hfirst hsecond hreads hfirstUrl hsecondUrl ?_ ?_ hroot
        · rw [← hpath]
          exact Url.head?_visiblePath hstart
        · rw [← hpath]
          exact Url.stripConsole_visiblePath hstrip hkept
      · rintro _ ⟨⟩
        exact respond_of_match app.settings hfirst hreads hfirstUrl
          (Lookup.matchMounts_of_root hroot)
      · rw [answer, answer, respond_of_match app.settings hfirst hreads hfirstUrl
            (Lookup.matchMounts_of_root hroot),
          respond_of_match app.settings hfirst hreads hfirstUrl
            (Lookup.matchMounts_of_root hother)]

/-! ### A bundle that shadows a path of the second mount -/

/-- A bundle with a file below the console, under the name of a path with a backslash, escaped. -/
def shadowingBundle : Node :=
  .dir [(Bundle.directory, .dir [(Bundle.indexFile, .file [0x68]),
    ("console".toList, .dir [("a%5Cb".toList, .file [0x78])])])]

theorem linkFree_shadowingBundle : shadowingBundle.LinkFree := Node.linkFree_of_links rfl

theorem matchMount_shadowingBundle :
    (shadowingBundle.lookup standard.settings.assetRoot).matchMount "/console/a%5Cb".toList
        "/console/a%5Cb".toList =
      .ok (some (.serve ⟨.inside [standard.settings.assetRoot, "console".toList, "a%5Cb".toList],
        [0x78]⟩)) := by
  refine matchMount_of_get? linkFree_shadowingBundle ?_ ?_
  · rw [assetRoot_standard]
    exact ⟨by decide, by decide, by decide, by decide⟩
  · rw [assetRoot_standard]
    rfl

theorem answers_shadowingBundle :
    Corresponds standard.settings "/users".toList
        (standard.answer (shadowingBundle.lookup standard.settings.assetRoot)
          (Request.simple .get "/users".toList).underConsole)
        (standard.answer (shadowingBundle.lookup standard.settings.assetRoot)
          (.simple .get "/users".toList)) ∧
      respond standard.settings (shadowingBundle.lookup standard.settings.assetRoot)
          (Request.simple .get "/a%5Cb".toList).underConsole =
        delivered (deliver .get (Request.simple .get "/a%5Cb".toList).underConsole
          ⟨.inside [standard.settings.assetRoot, "console".toList, "a%5Cb".toList], [0x78]⟩) := by
  constructor
  · exact (mounts_agree (Method.ofName?_name .get) rfl (Request.regular_simple .get _) rfl rfl
      (Url.isKept_of_all (by decide)) (by decide) (by decide)).1
      (matchMount_of_absent linkFree_shadowingBundle (by rw [assetRoot_standard]; rfl))
  · exact ((mounts_agree (Method.ofName?_name .get) rfl (Request.regular_simple .get _) rfl rfl
      (Url.isKept_of_all (by decide)) (by decide) (by decide)).2.1 _
        matchMount_shadowingBundle).1 [] (Request.decode_simple .get _)

/-- The root mount misses a path with a backslash as it is written, and has it as it is read. -/
theorem backslash_parts_mounts :
    stripConsole "/a\\b".toList = none ∧
      (shadowingBundle.lookup standard.settings.assetRoot).matchMount
        (consolePrefix ++ "/a\\b".toList) (consolePrefix ++ "/a\\b".toList) = .ok none ∧
      standard.answer (shadowingBundle.lookup standard.settings.assetRoot)
          (Request.simple .get "/a\\b".toList).underConsole =
        ⟨Delivery.whole ⟨200, .inside [standard.settings.assetRoot, "console".toList,
          "a%5Cb".toList], [0x78]⟩, [], none⟩ ∧
      standard.answer (shadowingBundle.lookup standard.settings.assetRoot)
          (.simple .get "/a\\b".toList) =
        ⟨Delivery.whole ⟨200, .inside [standard.settings.assetRoot, Bundle.indexFile], [0x68]⟩,
          [], none⟩ := by
  have hregular := Request.regular_simple .get "/a\\b".toList
  have hquery := Request.decode_simple .get "/a\\b".toList
  refine ⟨by decide, ?_, ?_, ?_⟩
  · exact matchMount_of_absent linkFree_shadowingBundle (by rw [assetRoot_standard]; rfl)
  · have hserves : Serves (Request.simple .get "/a\\b".toList).underConsole .get :=
      ⟨by decide, Method.ofName?_name .get⟩
    have hurl := Request.url_of_server hregular.underConsole rfl rfl hquery
    have hmatch := Lookup.matchMounts_of_root matchMount_shadowingBundle
    exact (Obtains.asset hserves rfl hurl hmatch).answer_whole (by decide) (Or.inr rfl)
  · have hserves : Serves (.simple .get "/a\\b".toList) .get :=
      ⟨by decide, Method.ofName?_name .get⟩
    have hurl := Request.url_of_server hregular rfl rfl hquery
    have hmatch : (shadowingBundle.lookup standard.settings.assetRoot).matchMounts
        "/a%5Cb".toList = .ok none := by
      rw [Lookup.matchMounts_of_outside (by decide)]
      exact matchMount_of_absent linkFree_shadowingBundle (by rw [assetRoot_standard]; rfl)
    have hindex : (shadowingBundle.lookup standard.settings.assetRoot).findFile Bundle.indexFile =
        .ok (some ⟨.inside [standard.settings.assetRoot, Bundle.indexFile], [0x68]⟩) :=
      findFile_indexFile linkFree_shadowingBundle (by rw [assetRoot_standard]; rfl)
    have hobtains := Obtains.entry hserves (Or.inr ⟨_, hurl, hmatch⟩) hindex
    exact hobtains.answer_whole (by decide) (Or.inr rfl)

end App

end SpaServer
