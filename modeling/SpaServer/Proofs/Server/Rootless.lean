import SpaServer.Proofs.Assets.Moves
import SpaServer.Proofs.Server.Isolation
import SpaServer.Proofs.Server.Missing

/-!
# An asset root that is no directory

Where the asset root is no directory an application is made with a warning, and nothing lies below
the root. A path that names nothing leads to the root itself all the same, and if this is a regular
file a reading request gets it. Every other request on the route is told that there is no entry
document.
-/

namespace SpaServer

/-! ### Paths that name nothing -/

theorem assetNames_eq_nil_iff {path : Text} :
    assetNames path = [] ↔ ∃ n, path = List.replicate n '/' := by
  constructor
  · intro hnames
    refine ⟨path.length, List.eq_replicate_of_mem fun c hc => ?_⟩
    rcases Text.mem_splitOn '/' hc with hslash | ⟨piece, hpiece, hc⟩
    · exact hslash
    · have hname : piece ∈ assetNames path :=
        List.mem_filter.2 ⟨hpiece, by simpa using List.ne_nil_of_mem hc⟩
      rw [hnames] at hname
      exact absurd hname List.not_mem_nil
  · rintro ⟨n, rfl⟩
    induction n with
    | zero => rfl
    | succ n ih =>
        have hfront := assetNames_append_slash [] (List.replicate n '/')
        rwa [ih, List.append_nil, List.nil_append] at hfront

/-- The paths that name nothing behind a mount. -/
inductive Nameless : Text → Prop
  | root (n : Nat) : Nameless (List.replicate n '/')
  | console (n : Nat) : Nameless (consolePrefix ++ List.replicate n '/')

theorem stripConsole_append_slashes (n : Nat) :
    stripConsole (consolePrefix ++ List.replicate n '/') = some (List.replicate n '/') := by
  cases n with
  | zero => rw [List.replicate_zero, List.append_nil, stripConsole, if_pos rfl]
  | succ n => exact Lookup.stripConsole_append rfl

theorem Nameless.of_inner {path inner : Text} (hinner : stripConsole path = some inner)
    (hnames : assetNames inner = []) : Nameless path := by
  obtain ⟨n, rfl⟩ := assetNames_eq_nil_iff.1 hnames
  rw [(Lookup.eq_append_of_stripConsole hinner).1]
  exact .console n

theorem Nameless.of_names {path : Text} (hnames : assetNames path = []) : Nameless path := by
  obtain ⟨n, rfl⟩ := assetNames_eq_nil_iff.1 hnames
  exact .root n

/-! ### What there is to find -/

theorem Node.get?_below_no_dir {tree : Node} {root : Text}
    (hroot : ∀ entries, tree.get? [root] ≠ some (.dir entries)) (name : Text)
    (names : List Text) : tree.get? (root :: name :: names) = none := by
  rw [Node.get?]
  cases hchild : tree.child? root with
  | none => rfl
  | some child =>
      simp only
      cases child with
      | dir entries =>
          refine absurd ?_ (hroot entries)
          rw [Node.get?, hchild]
          rfl
      | _ => rfl

namespace App

variable {tree : Node} {settings : Settings} {path inner : Text} {content : Bytes}

theorem askable_nil (settings : Settings) : Askable settings.assetRoot [] :=
  ⟨by simp, by simp, by simp, settings.fits_assetRoot⟩

/-- A mount misses all names, and the asset root too unless this is a regular file. -/
theorem matchMount_rootless (hfree : tree.LinkFree)
    (hroot : ∀ entries, tree.get? [settings.assetRoot] ≠ some (.dir entries))
    (hfile : assetNames inner = [] →
      ∀ content, tree.get? [settings.assetRoot] ≠ some (.file content)) :
    (tree.lookup settings.assetRoot).matchMount inner path = .ok none := by
  rcases Node.find_linkFree_cases hfree settings.properName_assetRoot inner with
    ⟨_, node, hnode, hfind⟩ | ⟨_, hfind⟩
  · cases hnames : assetNames inner with
    | cons name names =>
        rw [hnames, Node.get?_below_no_dir hroot] at hnode
        simp at hnode
    | nil =>
        rw [hnames] at hnode
        rw [Lookup.matchMount, hfind]
        cases node with
        | file content => exact absurd hnode (hfile hnames content)
        | dir entries => exact absurd hnode (hroot entries)
        | _ => rfl
  · exact Lookup.matchMount_of_miss hfind

theorem matchMounts_rootless (hfree : tree.LinkFree)
    (hroot : ∀ entries, tree.get? [settings.assetRoot] ≠ some (.dir entries))
    (hfile : Nameless path → ∀ content, tree.get? [settings.assetRoot] ≠ some (.file content)) :
    (tree.lookup settings.assetRoot).matchMounts path = .ok none := by
  rw [Lookup.matchMounts, matchMount_rootless hfree hroot fun hnames => hfile (.of_names hnames)]
  cases hinner : stripConsole path with
  | none => rfl
  | some inner =>
      exact matchMount_rootless hfree hroot fun hnames => hfile (.of_inner hinner hnames)

theorem matchMount_rootFile (hfree : tree.LinkFree) (hnames : assetNames inner = [])
    (hfile : tree.get? [settings.assetRoot] = some (.file content)) :
    (tree.lookup settings.assetRoot).matchMount inner path =
      .ok (some (.serve ⟨.inside [settings.assetRoot], content⟩)) := by
  have hmatch : (tree.lookup settings.assetRoot).matchMount inner path =
      .ok (some (.serve ⟨.inside (settings.assetRoot :: assetNames inner), content⟩)) :=
    matchMount_of_get? hfree (hnames ▸ askable_nil settings) (hnames ▸ hfile)
  rwa [hnames] at hmatch

theorem matchMounts_rootFile (hfree : tree.LinkFree) (hpath : Nameless path)
    (hfile : tree.get? [settings.assetRoot] = some (.file content)) :
    (tree.lookup settings.assetRoot).matchMounts path =
      .ok (some (.serve ⟨.inside [settings.assetRoot], content⟩)) := by
  cases hpath with
  | root n =>
      have hnames := assetNames_eq_nil_iff.2 ⟨n, rfl⟩
      exact Lookup.matchMounts_of_root (matchMount_rootFile hfree hnames hfile)
  | console n =>
      have hroot : ∀ entries, tree.get? [settings.assetRoot] ≠ some (.dir entries) := by
        rw [hfile]
        exact nofun
      have hprefix : assetNames (consolePrefix ++ List.replicate n '/') ≠ [] := by
        intro hnames
        obtain ⟨m, hslashes⟩ := assetNames_eq_nil_iff.1 hnames
        have hmem : 'c' ∈ consolePrefix ++ List.replicate n '/' :=
          List.mem_append_left _ (by decide)
        rw [hslashes] at hmem
        exact absurd (List.eq_of_mem_replicate hmem) (by decide)
      rw [Lookup.matchMounts, matchMount_rootless hfree hroot fun hnames => absurd hnames hprefix,
        stripConsole_append_slashes]
      exact matchMount_rootFile hfree (assetNames_eq_nil_iff.2 ⟨n, rfl⟩) hfile

theorem missingRootLog_inside (logger root : Text) :
    missingRootLog logger (.inside [root]) = ⟨logger, .warning,
      "Asset root <CWD>/".toList ++ root ++ " does not exist".toList⟩ := by
  simp [missingRootLog, Place.absolute, List.intercalate]

/-- **Where the asset root is no directory there is a warning, and every request is told that there
is no entry document**, but for a reading one of a path that names nothing where the root is a
regular file: it gets this file. -/
theorem rootless_missing_iff (app : App) {tree : Node} (hfree : tree.LinkFree)
    (hroot : ∀ entries, tree.get? [app.settings.assetRoot] ≠ some (.dir entries))
    {request : Request} (hregular : request.Regular) (hserver : request.server.isSome = true)
    {method : Method} (hmethod : Method.ofName? request.method = some method)
    (hstart : request.path.head? = some '/') (hfeed : '\n' ∉ request.path.dropLast) {query : Text}
    (hquery : Utf8.decode request.query = .ok query) {path : Text}
    (hpath : Url.visiblePath request.path = path) {exchange : Exchange}
    (hexchange : app.answer (tree.lookup app.settings.assetRoot) request = exchange) :
    (∀ logger, App.create logger app.settings tree = .ok (app, [⟨logger, .warning,
        "Asset root <CWD>/".toList ++ app.settings.assetRoot ++ " does not exist".toList⟩])) ∧
      (ReportsMissing app.settings method path exchange ↔
        ¬(method.readsAssets = true ∧ Nameless path ∧
          ∃ content, tree.get? [app.settings.assetRoot] = some (.file content))) ∧
      (∀ content, method.readsAssets = true → Nameless path →
        tree.get? [app.settings.assetRoot] = some (.file content) →
          Obtains (tree.lookup app.settings.assetRoot) request method
            ⟨.inside [app.settings.assetRoot], content⟩) ∧
      (path = request.path ↔ ∀ c ∈ request.path, Url.isPlainChar c = true) := by
  subst hpath hexchange
  have hserves : Serves request method := ⟨(onRoute_iff hstart).2 hfeed, hmethod⟩
  have hurl := Request.url_of_server hregular hserver hstart hquery
  have hobtains : ∀ content, method.readsAssets = true →
      Nameless (Url.visiblePath request.path) →
      tree.get? [app.settings.assetRoot] = some (.file content) →
        Obtains (tree.lookup app.settings.assetRoot) request method
          ⟨.inside [app.settings.assetRoot], content⟩ :=
    fun content hreads hnameless hfile =>
      .asset hserves hreads hurl (matchMounts_rootFile hfree hnameless hfile)
  refine ⟨fun logger => ?_, ⟨?_, ?_⟩, hobtains, Url.visiblePath_eq_self_iff⟩
  · rw [← missingRootLog_inside, create_linkFree hfree, if_neg]
    intro hdirectory
    obtain ⟨node, hnode, hentity⟩ := Option.map_eq_some_iff.1 hdirectory
    cases node with
    | dir entries => exact hroot entries hnode
    | _ => simp [Node.entity] at hentity
  · rintro hmissing ⟨hreads, hnameless, content, hfile⟩
    have hrespond := (hobtains content hreads hnameless hfile).respond app.settings
    exact (silent_of_delivered hrespond).1 hmissing.status
  · intro hother
    have hindex : (tree.lookup app.settings.assetRoot).findFile Bundle.indexFile = .ok none := by
      rw [findFile_indexFile_eq_none_iff hfree, Node.get?_below_no_dir hroot]
      simp
    refine reportsMissing_of_noEntry hserves ?_ hindex hurl
    cases hreads : method.readsAssets with
    | false => exact Or.inl hreads
    | true =>
        refine Or.inr ⟨_, hurl, matchMounts_rootless hfree hroot fun hnameless content hfile => ?_⟩
        exact hother ⟨hreads, hnameless, content, hfile⟩

/-! ### A file in the place of a bundle -/

def fileRoot : Node := .dir [(Bundle.directory, .file [0x78])]

theorem linkFree_fileRoot : fileRoot.LinkFree := Node.linkFree_of_links rfl

theorem get?_fileRoot :
    fileRoot.get? [standard.settings.assetRoot] = some (.file [0x78]) := by
  rw [assetRoot_standard]
  rfl

theorem not_directory_fileRoot (entries : List (Text × Node)) :
    fileRoot.get? [standard.settings.assetRoot] ≠ some (.dir entries) := by
  rw [get?_fileRoot]
  exact nofun

theorem not_nameless_asset : ¬Nameless "/console/app.js".toList := by
  intro hnameless
  generalize hpath : "/console/app.js".toList = path at hnameless
  have hmem : 'j' ∈ path := by
    rw [← hpath]
    decide
  cases hnameless with
  | root n => exact absurd (List.eq_of_mem_replicate hmem) (by decide)
  | console n =>
      rcases List.mem_append.1 hmem with hmem | hmem
      · exact absurd hmem (by decide)
      · exact absurd (List.eq_of_mem_replicate hmem) (by decide)

theorem reportsMissing_fileRoot : fileRoot.LinkFree ∧
    ReportsMissing standard.settings .get "/console/app.js".toList
      (standard.answer (fileRoot.lookup standard.settings.assetRoot)
        (.simple .get "/console/app.js".toList)) := by
  have hpath : Url.visiblePath "/console/app.js".toList = "/console/app.js".toList := by decide
  obtain ⟨_, hreports, _⟩ := rootless_missing_iff standard linkFree_fileRoot not_directory_fileRoot
    (Request.regular_simple .get _) rfl (Method.ofName?_name .get) rfl (by decide)
    (Request.decode_simple .get _) hpath rfl
  exact ⟨linkFree_fileRoot, hreports.2 fun hfile => not_nameless_asset hfile.2.1⟩

/-- The warning says that there is no asset root, and then the asset root is sent. -/
theorem root_file_sent :
    App.create App.logger standard.settings fileRoot = .ok (standard,
        [⟨App.logger, .warning, "Asset root <CWD>/dist does not exist".toList⟩]) ∧
      (standard.answer (fileRoot.lookup standard.settings.assetRoot)
        (.simple .get ['/'])).response.status = 200 ∧
      (standard.answer (fileRoot.lookup standard.settings.assetRoot)
        (.simple .get ['/'])).response.body = [0x78] := by
  have hobtains : Obtains (fileRoot.lookup standard.settings.assetRoot) (.simple .get ['/']) .get
      ⟨.inside [standard.settings.assetRoot], [0x78]⟩ :=
    .asset ⟨rfl, Method.ofName?_name .get⟩ rfl
      (Request.url_simple rfl (by decide) (Url.isPlainChar_of_all (by decide)))
      (matchMounts_rootFile linkFree_fileRoot (.root 1) get?_fileRoot)
  refine ⟨?_, ?_, ?_⟩
  · rw [create_linkFree linkFree_fileRoot, get?_fileRoot]
    rfl
  · rw [hobtains.answer_whole (by decide) (Or.inr rfl)]
    rfl
  · rw [hobtains.answer_whole (by decide) (Or.inr rfl)]
    rfl

end App

end SpaServer
