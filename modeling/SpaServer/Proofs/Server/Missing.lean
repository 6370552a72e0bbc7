import SpaServer.Proofs.Server.Bundle
import SpaServer.Proofs.Server.Course

/-!
# What is not found

On the route one thing can be missing, the entry document, and only a request that is left to it
finds out. The client and the log are told of it with the path as it was read, and nothing else is
ever logged.
-/

namespace SpaServer.App

variable {app : App} {lookup : Lookup} {request : Request} {method : Method}

/-- Whether the client and the log are told that there is no entry document. -/
structure ReportsMissing (settings : Settings) (method : Method) (path : Text)
    (exchange : Exchange) : Prop where
  status : exchange.response.status = 404
  contentType : exchange.response.headers.values .contentType =
    ["text/plain; charset=utf-8".toList]
  body : exchange.response.body = Text.utf8 ("Cannot find ".toList ++ settings.indexPath ++
    " (requested ".toList ++ path ++ [')'])
  logs : exchange.logs = [⟨"console_server.main".toList, .warning, "Cannot find ".toList ++
    settings.indexPath ++ " for ".toList ++ method.name ++ ' ' :: path⟩]
  raised : exchange.raised = none

theorem reportsMissing_of_noEntry {url : Url.Parts} (hserves : Serves request method)
    (hunmatched : Unmatched lookup request method)
    (hindex : lookup.findFile Bundle.indexFile = .ok none) (hurl : request.url = .ok url) :
    ReportsMissing app.settings method url.path (app.answer lookup request) := by
  rw [answer, respond_of_noEntry app.settings hserves hunmatched hindex hurl]
  exact ⟨rfl, rfl, rfl, rfl, rfl⟩

theorem silent_of_delivered {file : File}
    (hrespond : respond app.settings lookup request = delivered (deliver method request file)) :
    (app.answer lookup request).response.status ≠ 404 ∧
      (app.answer lookup request).logs = [] := by
  cases hdeliver : deliver method request file with
  | error failure =>
      rw [answer_of_undelivered (hdeliver ▸ hrespond)]
      exact ⟨by simp [Response.internalError, Response.plain], rfl⟩
  | ok response =>
      have hstatus := status_of_deliver hdeliver
      rw [answer_of_delivered (hdeliver ▸ hrespond)]
      refine ⟨fun hmissing => ?_, rfl⟩
      rw [hmissing] at hstatus
      exact absurd hstatus (by decide)

/-- Every answer on the route reports a missing entry document, or it is about something else and
leaves the log alone. -/
theorem missing_or_silent (app : App) (lookup : Lookup) (hroute : onRoute request.path = true) :
    (∃ method, Serves request method ∧ Unmatched lookup request method ∧
        lookup.findFile Bundle.indexFile = .ok none) ∨
      ((app.answer lookup request).response.status ≠ 404 ∧
        (app.answer lookup request).logs = []) := by
  have hcourse := respond_course app.settings lookup request
  generalize hrespond : respond app.settings lookup request = outcome at hcourse
  cases hcourse with
  | noEntry hserves hunmatched hindex => exact Or.inl ⟨_, hserves, hunmatched, hindex⟩
  | asset => exact Or.inr (silent_of_delivered hrespond)
  | entry => exact Or.inr (silent_of_delivered hrespond)
  | offRoute hoff | slashes hoff | slashesFailed hoff =>
      exact absurd (hoff.symm.trans hroute) Bool.false_ne_true
  | unknownMethod | directory | urlFailed | matchFailed | entryFailed | noEntryFailed =>
      right
      rw [answer, hrespond]
      exact ⟨by simp [methodNotAllowed, Response.json, directoryRedirect, Response.redirect,
        Response.internalError, Response.plain], rfl⟩

/-- On the route a request is not found exactly if it is left to an entry document that is missing,
whatever the lookup is. -/
theorem status_eq_not_found_iff (app : App) (lookup : Lookup) {url : Url.Parts}
    (hserves : Serves request method) (hurl : request.url = .ok url) :
    (app.answer lookup request).response.status = 404 ↔
      lookup.findFile Bundle.indexFile = .ok none ∧
        (method.readsAssets = false ∨ lookup.matchMounts url.path = .ok none) := by
  constructor
  · intro hstatus
    rcases missing_or_silent app lookup hserves.onRoute with
      ⟨other, hother, hunmatched, hindex⟩ | ⟨hfound, _⟩
    · obtain rfl : other = method :=
        Option.some.inj (hother.ofName?.symm.trans hserves.ofName?)
      refine ⟨hindex, hunmatched.imp_right ?_⟩
      rintro ⟨read, hread, hmatch⟩
      obtain rfl := Except.ok.inj (hurl.symm.trans hread)
      exact hmatch
    · exact absurd hstatus hfound
  · rintro ⟨hindex, hleft⟩
    have hunmatched : Unmatched lookup request method :=
      hleft.imp_right fun hmatch => ⟨url, hurl, hmatch⟩
    exact (reportsMissing_of_noEntry hserves hunmatched hindex hurl).status

/-- **A request is not found exactly if there is no entry document and the path that was read leads
to nothing, or is not looked up.** Then that path is reported. It is the path of the request if that
one is free of the characters that a URL does not keep. -/
theorem not_found_iff (app : App) {tree : Node} (hfree : tree.LinkFree) {request : Request}
    (hregular : request.Regular) (hserver : request.server.isSome = true) {method : Method}
    (hmethod : Method.ofName? request.method = some method)
    (hstart : request.path.head? = some '/') (hfeed : '\n' ∉ request.path.dropLast) {query : Text}
    (hquery : Utf8.decode request.query = .ok query) {path : Text}
    (hpath : Url.visiblePath request.path = path) {exchange : Exchange}
    (hexchange : app.answer (tree.lookup app.settings.assetRoot) request = exchange) :
    (exchange.response.status = 404 ↔
        (∀ content,
          tree.get? [app.settings.assetRoot, Bundle.indexFile] ≠ some (.file content)) ∧
        (method.readsAssets = false ∨
          (tree.lookup app.settings.assetRoot).matchMounts path = .ok none)) ∧
      (exchange.response.status = 404 → ReportsMissing app.settings method path exchange) ∧
      (exchange.response.status ≠ 404 → exchange.logs = []) ∧
      (path = request.path ↔ ∀ c ∈ request.path, Url.isPlainChar c = true) := by
  subst hpath hexchange
  have hserves : Serves request method := ⟨(onRoute_iff hstart).2 hfeed, hmethod⟩
  have hurl := Request.url_of_server hregular hserver hstart hquery
  have hmissing := status_eq_not_found_iff app (tree.lookup app.settings.assetRoot) hserves hurl
  refine ⟨?_, fun hstatus => ?_, fun hstatus => ?_, Url.visiblePath_eq_self_iff⟩
  · rw [hmissing, findFile_indexFile_eq_none_iff hfree]
  · obtain ⟨hindex, hleft⟩ := hmissing.1 hstatus
    exact reportsMissing_of_noEntry hserves (hleft.imp_right fun hmatch => ⟨_, hurl, hmatch⟩)
      hindex hurl
  · rcases missing_or_silent app (tree.lookup app.settings.assetRoot) hserves.onRoute with
      ⟨other, hother, hunmatched, hindex⟩ | ⟨_, hsilent⟩
    · exact absurd (reportsMissing_of_noEntry hother hunmatched hindex hurl).status hstatus
    · exact hsilent

/-! ### Trees without an entry document -/

theorem reportsMissing_empty : Node.empty.LinkFree ∧
    ReportsMissing standard.settings .head "/users".toList
      (standard.answer (Node.empty.lookup standard.settings.assetRoot)
        (.simple .head "/users".toList)) := by
  have hfree : Node.empty.LinkFree := Node.linkFree_of_links rfl
  have hpath : Url.visiblePath "/users".toList = "/users".toList := by decide
  have hindex := (findFile_indexFile_eq_none_iff hfree).1
    (findFile_indexFile_empty standard.settings)
  obtain ⟨hmissing, hreports, _⟩ := not_found_iff standard hfree (Request.regular_simple .head _)
    rfl (Method.ofName?_name .head) rfl (by decide) (Request.decode_simple .head _) hpath rfl
  exact ⟨hfree, hreports (hmissing.2 ⟨hindex, Or.inr (matchMounts_empty _ _)⟩)⟩

/-- A bundle with one asset, under the name of a path with a backslash, escaped. -/
def maskedBundle : Node :=
  .dir [(Bundle.directory, .dir [("a%5Cb".toList, .file [0x78])])]

/-- A path that leads to nothing is answered with what it leads to as it is read. -/
theorem backslash_found : maskedBundle.LinkFree ∧
    (∀ content, maskedBundle.get? [standard.settings.assetRoot, Bundle.indexFile] ≠
      some (.file content)) ∧
    (maskedBundle.lookup standard.settings.assetRoot).matchMounts "/a\\b".toList = .ok none ∧
    (standard.answer (maskedBundle.lookup standard.settings.assetRoot)
      (.simple .get "/a\\b".toList)).response.status = 200 := by
  have hfree : maskedBundle.LinkFree := Node.linkFree_of_links rfl
  refine ⟨hfree, ?_, ?_, ?_⟩
  · rw [assetRoot_standard]
    exact fun content => nofun
  · rw [Lookup.matchMounts_of_outside (by decide)]
    exact matchMount_of_absent hfree (by rw [assetRoot_standard]; rfl)
  · have hserves : Serves (.simple .get "/a\\b".toList) .get :=
      ⟨by decide, Method.ofName?_name .get⟩
    have hurl := Request.url_of_server (Request.regular_simple .get "/a\\b".toList) rfl rfl
      (Request.decode_simple .get _)
    have haskable : Askable standard.settings.assetRoot (assetNames "/a%5Cb".toList) := by
      rw [assetRoot_standard]
      exact ⟨by decide, by decide, by decide, by decide⟩
    have hmatch : (maskedBundle.lookup standard.settings.assetRoot).matchMounts
        "/a%5Cb".toList =
          .ok (some (.serve ⟨.inside [standard.settings.assetRoot, "a%5Cb".toList], [0x78]⟩)) :=
      Lookup.matchMounts_of_root
        (matchMount_of_get? hfree haskable (by rw [assetRoot_standard]; rfl))
    have hobtains := Obtains.asset hserves rfl hurl hmatch
    rw [hobtains.answer_whole (by decide) (Or.inr rfl)]
    rfl

end SpaServer.App
