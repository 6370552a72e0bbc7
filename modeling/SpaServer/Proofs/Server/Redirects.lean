import SpaServer.Proofs.Server.Bundle
import SpaServer.Proofs.Server.Course

/-!
# Redirects to directories

A directory that is asked for without a slash at its end is moved to the path with the slash, as the
path was read. Slashes at the beginning of the path are kept, although the lookup takes several for
one, and so a path that begins with two of them is moved to another host. All other redirects stay
on the server.
-/

namespace SpaServer.App

variable {lookup : Lookup} {request : Request}

/-- **A redirect to a directory stays on the server exactly if the path that was read begins with
one slash.** Of a regular request that is the visible path, and it begins with a slash anyway. -/
theorem redirect_isLocal_iff (app : App) (lookup : Lookup) (request : Request) {response : Response}
    (hresponse : (app.answer lookup request).response = response) (hmoved : response.status = 301) :
    ∃ url location, request.url = .ok url ∧
      location = Percent.encode (url.path ++ '/' :: Url.queryPart url.query) ∧
      response.headers.values .location = [location] ∧
      (Url.IsLocal location ↔
        (url.path = [] ∨ url.path.head? = some '/') ∧ ¬['/', '/'] <+: url.path) ∧
      (request.Regular → request.path.head? = some '/' →
        (url.path = [] ∨ url.path.head? = some '/') ∧
        (request.server.isSome = true → url.path = Url.visiblePath request.path)) := by
  subst hresponse
  obtain ⟨url, asset, target, hurl, hmatch, hresponse⟩ := directory_of_moved hmoved
  obtain ⟨rfl, hlast⟩ := Lookup.redirect_of_matchMounts hmatch
  rw [directoryRedirect_eq, List.append_assoc, List.singleton_append] at hresponse
  refine ⟨url, _, hurl, rfl, by rw [hresponse]; rfl, Url.isLocal_directory_iff hlast url.query, ?_⟩
  intro hregular hpath
  exact ⟨Request.head?_of_url hregular hpath hurl,
    fun hserver => Request.path_of_url_of_server hregular hserver hpath hurl⟩

/-! ### An empty directory -/

/-- A bundle with nothing but an empty directory. -/
def hollowBundle : Node := .dir [(Bundle.directory, .dir [("js".toList, .dir [])])]

/-- However many slashes stand before its name, the directory is found. -/
theorem answer_hollowBundle {path : Text} (hstart : path.head? = some '/')
    (hlast : path.getLast? ≠ some '/') (hplain : ∀ c ∈ path, Url.isPlainChar c = true)
    (hnames : assetNames path = ["js".toList]) :
    standard.answer (hollowBundle.lookup standard.settings.assetRoot) (.simple .get path) =
      ⟨directoryRedirect (path ++ ['/']) [], [], none⟩ := by
  have hserves : Serves (.simple .get path) .get :=
    ⟨onRoute_of_plain hstart hplain, Method.ofName?_name .get⟩
  have hurl := Request.url_of_server (Request.regular_simple .get path) rfl hstart
    (Request.decode_simple .get path)
  have haskable : Askable standard.settings.assetRoot (assetNames path) := by
    rw [hnames, assetRoot_standard]
    exact ⟨by decide, by decide, by decide, by decide⟩
  have hfree : hollowBundle.LinkFree := Node.linkFree_of_links rfl
  have hmatch := matchMounts_of_directory hfree haskable
    (by rw [hnames, assetRoot_standard]; rfl) hlast
  have hvisible : Url.visiblePath (Request.simple .get path).path = path :=
    Url.visiblePath_of_plain hplain
  rw [hvisible] at hurl
  rw [answer, respond_of_directory standard.settings hserves rfl hurl hmatch]
  rfl

theorem redirect_hollowBundle :
    (standard.answer (hollowBundle.lookup standard.settings.assetRoot)
        (.simple .get "/js".toList)).response.status = 301 ∧
      ∃ url location, (Request.simple .get "/js".toList).url = .ok url ∧
        location = Percent.encode (url.path ++ '/' :: Url.queryPart url.query) ∧
        (standard.answer (hollowBundle.lookup standard.settings.assetRoot)
          (.simple .get "/js".toList)).response.headers.values .location = [location] ∧
        (Url.IsLocal location ↔
          (url.path = [] ∨ url.path.head? = some '/') ∧ ¬['/', '/'] <+: url.path) ∧
        ((Request.simple .get "/js".toList).Regular →
          (Request.simple .get "/js".toList).path.head? = some '/' →
          (url.path = [] ∨ url.path.head? = some '/') ∧
          ((Request.simple .get "/js".toList).server.isSome = true →
            url.path = Url.visiblePath (Request.simple .get "/js".toList).path)) := by
  have hanswer : standard.answer (hollowBundle.lookup standard.settings.assetRoot)
      (.simple .get "/js".toList) = ⟨directoryRedirect "/js/".toList [], [], none⟩ :=
    answer_hollowBundle rfl (by decide) (Url.isPlainChar_of_all (by decide)) (by decide)
  have hmoved : (standard.answer (hollowBundle.lookup standard.settings.assetRoot)
      (.simple .get "/js".toList)).response.status = 301 := by
    rw [hanswer]
    rfl
  exact ⟨hmoved, redirect_isLocal_iff standard _ _ rfl hmoved⟩

/-- A directory behind two slashes is moved to a host of its name. -/
theorem doubled_slash_leaves_server :
    (standard.answer (hollowBundle.lookup standard.settings.assetRoot)
        (.simple .get "//js".toList)).response =
      .redirect 301 "//js/".toList ∧ ¬Url.IsLocal "//js/".toList := by
  constructor
  · rw [answer_hollowBundle rfl (by decide) (Url.isPlainChar_of_all (by decide)) (by decide)]
    decide
  · intro hlocal
    exact hlocal.single rfl

end SpaServer.App
