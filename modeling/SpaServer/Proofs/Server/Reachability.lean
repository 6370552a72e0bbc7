import SpaServer.Proofs.Server.Agreement
import SpaServer.Proofs.Server.Bundle

/-!
# Assets under their own names

In a tree without links every asset is sent under its own path at both mounts, if its names have
only plain characters, its path is not too long for the file system and the query of the request can
be read. Otherwise nothing that is sent depends on the asset: it makes no difference what it holds,
nor whether it is there at all.
-/

namespace SpaServer

/-- Whether an asset is within reach of a URL. -/
structure Addressable (root : Text) (names : List Text) : Prop where
  plain : ∀ name ∈ names, ∀ c ∈ name, Url.isPlainChar c = true
  fits : Node.pathBytes (.inside (root :: names)) ≤ Node.maxPathBytes

/-- The name of the directory that the second mount shadows. -/
def consoleName : Text := "console".toList

theorem assetPath_console (names : List Text) :
    assetPath (consoleName :: names) = consolePrefix ++ assetPath names := rfl

theorem fileName_console : FileName consoleName :=
  ⟨by decide, by decide, by decide, by decide⟩

variable {root : Text} {names : List Text}

theorem isPlainChar_of_mem_assetPath (hplain : ∀ name ∈ names, ∀ c ∈ name, Url.isPlainChar c = true)
    {c : Char} (hc : c ∈ assetPath names) : Url.isPlainChar c = true := by
  rw [assetPath, List.mem_flatMap] at hc
  obtain ⟨name, hname, hc⟩ := hc
  rcases List.mem_cons.1 hc with rfl | hc
  · decide
  · exact hplain name hname c hc

theorem head?_assetPath (hnames : names ≠ []) : (assetPath names).head? = some '/' := by
  cases names with
  | nil => exact absurd rfl hnames
  | cons name names => rfl

theorem not_doubled_assetPath (hnames : ∀ name ∈ names, FileName name) :
    ¬['/', '/'] <+: assetPath names := by
  cases names with
  | nil => decide
  | cons name names =>
      obtain ⟨hname, _⟩ := List.forall_mem_cons.1 hnames
      cases name with
      | nil => exact absurd rfl hname.ne_nil
      | cons first name =>
          intro hdoubled
          rw [assetPath_cons] at hdoubled
          obtain rfl : '/' = first := by simpa using hdoubled
          exact hname.noSlash List.mem_cons_self

theorem Addressable.askable (haddress : Addressable root names)
    (hroot : root.utf8.length ≤ Node.maxNameBytes) (hnames : ∀ name ∈ names, FileName name)
    (hvisible : ∀ name ∈ names, ¬isHidden name) : Askable root names := by
  refine ⟨hvisible, ?_, fun name hname => (hnames name hname).noNul, haddress.fits, ?_⟩
  · intro hbackslash
    obtain ⟨name, hname, hfirst⟩ := Option.bind_eq_some_iff.1 hbackslash
    exact absurd (haddress.plain name (List.mem_of_head? hname) '\\' (List.mem_of_head? hfirst))
      (by decide)
  · exact List.forall_mem_cons.2 ⟨hroot, fun name hname => (hnames name hname).short⟩

namespace App

variable {app : App} {tree : Node} {content : Bytes} {request : Request}

/-- An asset that cannot be asked for makes no difference to any answer. -/
theorem answer_congr_of_sameBut {other : Node} (hfree : tree.LinkFree) (hother : other.LinkFree)
    (hsame : Node.SameBut (app.settings.assetRoot :: names) tree other)
    (hunreachable : ¬Addressable app.settings.assetRoot names) (hregular : request.Regular) :
    app.answer (tree.lookup app.settings.assetRoot) request =
      app.answer (other.lookup app.settings.assetRoot) request := by
  have hagree : (tree.lookup app.settings.assetRoot).AgreesOnPlain
      (other.lookup app.settings.assetRoot) := by
    intro path hplain
    refine Node.find_congr_of_sameBut hfree hother app.settings.properName_assetRoot hsame ?_
    rintro rfl haskable
    refine hunreachable ⟨?_, haskable.fits.1⟩
    intro name hname c hc
    exact hplain c ((mem_assetNames hname).2.2 c hc)
  rw [answer, answer, respond_congr hagree hregular]

theorem find_assetPath (hfree : tree.LinkFree) (hnames : ∀ name ∈ names, FileName name)
    (hvisible : ∀ name ∈ names, ¬isHidden name)
    (hfile : tree.get? (app.settings.assetRoot :: names) = some (.file content))
    (haddress : Addressable app.settings.assetRoot names) :
    (tree.lookup app.settings.assetRoot).find (assetPath names) =
      .ok (some ⟨.inside (app.settings.assetRoot :: names), .file content⟩) := by
  refine (Node.find_linkFree hfree app.settings.properName_assetRoot).2 ?_
  rw [assetNames_assetPath hnames]
  exact ⟨haddress.askable app.settings.short_assetRoot hnames hvisible, _, hfile, rfl⟩

/-- Where nothing stands under the console's name the second mount leads to the same asset. -/
theorem matchMounts_consolePath {place : Place} (hfree : tree.LinkFree) (hnonempty : names ≠ [])
    (hnames : ∀ name ∈ names, FileName name)
    (hshadow : tree.get? (app.settings.assetRoot :: consoleName :: names) = none)
    (hfind : (tree.lookup app.settings.assetRoot).find (assetPath names) =
      .ok (some ⟨place, .file content⟩)) :
    (tree.lookup app.settings.assetRoot).matchMounts (consolePrefix ++ assetPath names) =
      .ok (some (.serve ⟨place, content⟩)) := by
  have hmiss : (tree.lookup app.settings.assetRoot).matchMount (assetPath (consoleName :: names))
      (assetPath (consoleName :: names)) = .ok none := by
    refine matchMount_of_absent hfree ?_
    rw [assetNames_assetPath (List.forall_mem_cons.2 ⟨fileName_console, hnames⟩), hshadow]
  rw [assetPath_console] at hmiss
  rw [Lookup.matchMounts_of_console (head?_assetPath hnonempty) hmiss,
    Lookup.matchMount_of_file hfind]

/-- **An asset is sent under its own path at both mounts exactly if it is within reach.** -/
theorem answer_asset (app : App) {tree : Node} (hfree : tree.LinkFree) {names : List Text}
    (hnonempty : names ≠ []) (hnames : ∀ name ∈ names, FileName name)
    (hvisible : ∀ name ∈ names, ¬isHidden name) {content : Bytes}
    (hfile : tree.get? (app.settings.assetRoot :: names) = some (.file content))
    {request : Request} (hregular : request.Regular) (hget : request.method = Method.get.name)
    (hrange : request.range? = none) :
    (Addressable app.settings.assetRoot names → (∃ query, Utf8.decode request.query = .ok query) →
        (request.path = assetPath names ∨ request.path = consolePrefix ++ assetPath names ∧
          tree.get? (app.settings.assetRoot :: consoleName :: names) = none) →
        app.answer (tree.lookup app.settings.assetRoot) request =
          ⟨Delivery.whole ⟨200, .inside (app.settings.assetRoot :: names), content⟩, [], none⟩) ∧
      (¬(Addressable app.settings.assetRoot names ∧
          ∃ query, Utf8.decode request.query = .ok query) →
        ∀ other : Node, other.LinkFree →
          Node.SameBut (app.settings.assetRoot :: names) tree other →
          app.answer (tree.lookup app.settings.assetRoot) request =
            app.answer (other.lookup app.settings.assetRoot) request) := by
  constructor
  · rintro haddress ⟨query, hquery⟩ hpath
    have hfind := find_assetPath hfree hnames hvisible hfile haddress
    rcases hpath with hpath | ⟨hpath, hshadow⟩
    · refine answer_of_plain_match hregular hget hrange hquery ?_ ?_ ?_ ?_ <;> rw [hpath]
      · exact head?_assetPath hnonempty
      · exact not_doubled_assetPath hnames
      · exact fun c hc => isPlainChar_of_mem_assetPath haddress.plain hc
      · exact Lookup.matchMounts_of_root (Lookup.matchMount_of_file hfind)
    · have hnames' : ∀ name ∈ consoleName :: names, FileName name :=
        List.forall_mem_cons.2 ⟨fileName_console, hnames⟩
      have hplain' : ∀ name ∈ consoleName :: names, ∀ c ∈ name, Url.isPlainChar c = true :=
        List.forall_mem_cons.2 ⟨Url.isPlainChar_of_all (by decide), haddress.plain⟩
      have hmatch := matchMounts_consolePath hfree hnonempty hnames hshadow hfind
      rw [← assetPath_console] at hpath hmatch
      refine answer_of_plain_match hregular hget hrange hquery ?_ ?_ ?_ ?_ <;> rw [hpath]
      · rfl
      · exact not_doubled_assetPath hnames'
      · exact fun c hc => isPlainChar_of_mem_assetPath hplain' hc
      · exact hmatch
  · intro hunreachable other hother hsame
    by_cases haddress : Addressable app.settings.assetRoot names
    · cases hquery : Utf8.decode request.query with
      | ok query => exact absurd ⟨haddress, query, hquery⟩ hunreachable
      | error fault =>
          have hmethod : Method.ofName? request.method = some .get := by
            rw [hget, Method.ofName?_name]
          rw [answer, answer, respond_congr_of_url_error hmethod rfl
            (Request.url_of_undecodable hregular hquery)]
    · exact answer_congr_of_sameBut hfree hother hsame haddress hregular

def nestedBundle : Node :=
  .dir [(Bundle.directory, .dir [("js".toList, .dir [("app.js".toList, .file [0x6a])])])]

theorem answer_nestedBundle :
    standard.answer (nestedBundle.lookup standard.settings.assetRoot)
        (.simple .get "/js/app.js".toList) =
      ⟨Delivery.whole ⟨200, .inside [standard.settings.assetRoot, "js".toList, "app.js".toList],
        [0x6a]⟩, [], none⟩ ∧
    standard.answer (nestedBundle.lookup standard.settings.assetRoot)
        (.simple .get "/console/js/app.js".toList) =
      ⟨Delivery.whole ⟨200, .inside [standard.settings.assetRoot, "js".toList, "app.js".toList],
        [0x6a]⟩, [], none⟩ := by
  have hfree : nestedBundle.LinkFree := Node.linkFree_of_links rfl
  have hnames : ∀ name ∈ ["js".toList, "app.js".toList], FileName name :=
    List.forall_mem_cons.2 ⟨⟨by decide, by decide, by decide, by decide⟩,
      List.forall_mem_cons.2 ⟨⟨by decide, by decide, by decide, by decide⟩, by simp⟩⟩
  have hfile : nestedBundle.get? [standard.settings.assetRoot, "js".toList, "app.js".toList] =
      some (.file [0x6a]) := by
    rw [assetRoot_standard]
    rfl
  have hshadow : nestedBundle.get? [standard.settings.assetRoot, consoleName, "js".toList,
      "app.js".toList] = none := by
    rw [assetRoot_standard]
    rfl
  have haddress : Addressable standard.settings.assetRoot ["js".toList, "app.js".toList] := by
    rw [assetRoot_standard]
    have hplain : ∀ name ∈ ["js".toList, "app.js".toList], name.all Url.isPlainChar = true := by
      decide
    exact ⟨fun name hname => Url.isPlainChar_of_all (hplain name hname), by decide⟩
  constructor
  · exact (answer_asset standard hfree (by simp) hnames (by decide) hfile
      (Request.regular_simple .get _) rfl rfl).1 haddress ⟨_, Request.decode_simple .get _⟩
      (Or.inl (by decide))
  · exact (answer_asset standard hfree (by simp) hnames (by decide) hfile
      (Request.regular_simple .get _) rfl rfl).1 haddress ⟨_, Request.decode_simple .get _⟩
      (Or.inr ⟨by decide, hshadow⟩)

def questionBundle : Node :=
  .dir [(Bundle.directory, .dir [(Bundle.indexFile, .file [0x68]), ("a?b".toList, .file [0x78])])]

/-- The path of an asset with a question mark is read as another one, and the entry document is sent
in its place. -/
theorem question_mark_hides_asset :
    questionBundle.LinkFree ∧ FileName "a?b".toList ∧ ¬isHidden "a?b".toList ∧
      questionBundle.get? [standard.settings.assetRoot, "a?b".toList] = some (.file [0x78]) ∧
      (standard.answer (questionBundle.lookup standard.settings.assetRoot)
        (.simple .get "/a?b".toList)).response.body = [0x68] := by
  have hfree : questionBundle.LinkFree := Node.linkFree_of_links rfl
  have hindex : questionBundle.get? [standard.settings.assetRoot, Bundle.indexFile] =
      some (.file [0x68]) := by
    rw [assetRoot_standard]
    rfl
  have hfile : questionBundle.get? [standard.settings.assetRoot, "a?b".toList] =
      some (.file [0x78]) := by
    rw [assetRoot_standard]
    rfl
  refine ⟨hfree, ⟨by decide, by decide, by decide, by decide⟩, by decide, hfile, ?_⟩
  have hserves : Serves (.simple .get "/a?b".toList) .get := ⟨by decide, Method.ofName?_name .get⟩
  have hurl := Request.url_of_server (Request.regular_simple .get "/a?b".toList) rfl rfl
    (Request.decode_simple .get _)
  have hmatch : (questionBundle.lookup standard.settings.assetRoot).matchMounts "/a%3Fb".toList =
      .ok none := by
    rw [Lookup.matchMounts_of_outside (by decide)]
    exact matchMount_of_absent hfree (by rw [assetRoot_standard]; rfl)
  have hobtains := Obtains.entry hserves (Or.inr ⟨_, hurl, hmatch⟩)
    (findFile_indexFile hfree hindex)
  rw [hobtains.answer_whole (by decide) (Or.inr rfl)]
  rfl

end App

end SpaServer
