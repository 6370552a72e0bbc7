import Mathlib
import SpaServer.Proofs.Server.Bundle
import SpaServer.Proofs.Server.Course
import SpaServer.Proofs.Text.Cutting
import SpaServer.Proofs.Url.Unescaping

/-!
# Where a location leads

A client that is moved to a directory asks for the location that it was given, up to a question mark
as a path and behind it as a query. The server reads the path as an encoded text. It then comes to
the directory, unless there are escapes in the decoded path of the request already: these were not
escaped again, and are read as what they mean.
-/

namespace SpaServer

namespace Percent

theorem not_mem_encode {text : Text} (htext : '?' ∉ text) : '?' ∉ encode text := by
  intro hmem
  rcases mem_encode hmem with ⟨hmem, _⟩ | hpercent | hhex
  · exact htext hmem
  · exact absurd hpercent (by decide)
  · exact absurd hhex (by decide)

/-- The first question mark of a location is the one before its query. -/
theorem cut_encode {path : Text} (hpath : '?' ∉ path) (query : Text) :
    Text.cut '?' (encode (path ++ Url.queryPart query)) =
      (encode path, if query = [] then none else some (encode query)) := by
  rw [encode_append, Url.queryPart]
  split
  · have hnil : encode [] = [] := rfl
    rw [hnil, List.append_nil, Text.cut_of_not_mem (not_mem_encode hpath)]
  · have hmark : encode ('?' :: query) = '?' :: encode query := by
      have hplain : encodeChar '?' = ['?'] := by decide
      rw [encode, List.flatMap_cons, hplain]
      rfl
    rw [hmark, Text.cut_append _ (not_mem_encode hpath)]

end Percent

namespace Url

/-- Whether a character of a query is read from a URL as it was written. -/
def isPlainQueryChar (c : Char) : Bool := c != '#' && !isDropped c

theorem visibleQuery_of_plain {query : Text} (hquery : ∀ c ∈ query, isPlainQueryChar c = true) :
    visibleQuery query = query := by
  have hkept : query.filter (!isDropped ·) = query := by
    rw [List.filter_eq_self]
    intro c hc
    have hplain := hquery c hc
    rw [isPlainQueryChar, Bool.and_eq_true] at hplain
    exact hplain.2
  have hhash : '#' ∉ query := fun hmem => absurd (hquery '#' hmem) (by decide)
  rw [visibleQuery, hkept, Text.cut_of_not_mem hhash]

/-- A path is written in a URL as what it means. -/
theorem read_visiblePath {path : Text} (hkept : ∀ c ∈ path, isDropped c = false) :
    Percent.read (visiblePath path) = Percent.read path := by
  rw [visiblePath_of_kept hkept, Percent.read, Percent.read, escapePath,
    Percent.escapes_escapePathChar.decode_flatMap]

end Url

namespace App

variable {lookup : Lookup} {request : Request}

/-- **The location of a moved directory means the path with a slash at its end, and the query.** It
is read as exactly this path if and only if there is no escape in it, and so is the query. -/
theorem location_means_directory {app : App} (hregular : request.Regular)
    (hserver : request.server.isSome = true) (hstart : request.path.head? = some '/')
    (hpath : ∀ c ∈ request.path, Url.isDropped c = false) {query : Text}
    (hdecode : Utf8.decode request.query = .ok query)
    (hquery : ∀ c ∈ query, Url.isPlainQueryChar c = true)
    (hmoved : (app.answer lookup request).response.status = 301) :
    ∃ location target rest,
      (app.answer lookup request).response.headers.values .location = [location] ∧
      location.IsAscii ∧ Text.cut '?' location = (target, rest) ∧
      Percent.read target = Percent.read (request.path ++ ['/']) ∧
      (Percent.read target = request.path ++ ['/'] ↔ ¬Percent.HasEscape request.path) ∧
      (rest = none ↔ query = []) ∧
      ∀ tail, rest = some tail → Percent.read tail = Percent.read query ∧
        (Percent.read tail = query ↔ ¬Percent.HasEscape query) := by
  obtain ⟨url, asset, target, hurl, hmatch, hresponse⟩ := directory_of_moved hmoved
  obtain ⟨rfl, -⟩ := Lookup.redirect_of_matchMounts hmatch
  rw [Request.url_of_server hregular hserver hstart hdecode,
    Url.visibleQuery_of_plain hquery] at hurl
  obtain rfl := Except.ok.inj hurl
  have hslash : Url.visiblePath request.path ++ ['/'] = Url.visiblePath (request.path ++ ['/']) :=
    (Url.visiblePath_append request.path ['/']).symm
  rw [directoryRedirect_eq, hslash] at hresponse
  have hmark : '?' ∉ Url.visiblePath (request.path ++ ['/']) := fun hmem =>
    absurd (Url.isPlainChar_of_mem_visiblePath hmem) (by decide)
  have hread : Percent.read (Percent.encode (Url.visiblePath (request.path ++ ['/']))) =
      Percent.read (request.path ++ ['/']) := by
    rw [Percent.read_encode, Url.read_visiblePath]
    intro c hc
    rcases List.mem_append.1 hc with hc | hc
    · exact hpath c hc
    · rw [List.mem_singleton.1 hc]
      rfl
  refine ⟨_, _, _, by rw [hresponse]; rfl, Percent.isAscii_encode _, Percent.cut_encode hmark query,
    hread, ?_, by simp, ?_⟩
  · rw [hread, Percent.read_eq_self_iff, Percent.hasEscape_append_slash]
  · intro tail htail
    obtain rfl : Percent.encode query = tail := by
      split at htail
      · simp at htail
      · exact Option.some.inj htail
    rw [Percent.read_encode]
    exact ⟨rfl, Percent.read_eq_self_iff⟩

/-! ### A directory with a name of its own -/

def directoryBundle (name : Text) : Node :=
  .dir [(Bundle.directory, .dir [(name, .dir [])])]

theorem linkFree_directoryBundle (name : Text) : (directoryBundle name).LinkFree :=
  Node.linkFree_of_links rfl

theorem get?_directoryBundle (name : Text) :
    (directoryBundle name).get? [Bundle.directory, name] = some (.dir []) := by
  change (Node.dir [(name, .dir [])]).get? [name] = some (.dir [])
  rw [Node.get?, Node.child?, Node.entries, List.lookup_cons_self]
  rfl

/-- The request for the directory of the name, with a query. -/
def forDirectory (name query : Text) : Request :=
  { Request.simple .get ('/' :: name) with query := query.utf8 }

theorem regular_forDirectory (name query : Text) : (forDirectory name query).Regular :=
  ⟨(Request.regular_simple .get ('/' :: name)).scheme,
    (Request.regular_simple .get ('/' :: name)).server⟩

theorem answer_directoryBundle {name query : Text} (hnames : assetNames ('/' :: name) = [name])
    (haskable : Askable Bundle.directory [name])
    (hlast : ('/' :: name).getLast? ≠ some '/')
    (hplain : ∀ c ∈ '/' :: name, Url.isPlainChar c = true)
    (hquery : ∀ c ∈ query, Url.isPlainQueryChar c = true) :
    standard.answer ((directoryBundle name).lookup standard.settings.assetRoot)
        (forDirectory name query) =
      ⟨directoryRedirect ('/' :: name ++ ['/']) query, [], none⟩ := by
  have hserves : Serves (forDirectory name query) .get :=
    ⟨onRoute_of_plain rfl hplain, Method.ofName?_name .get⟩
  have hurl := Request.url_of_server (regular_forDirectory name query) rfl rfl
    (Utf8.decode_eq_ok_iff.2 rfl)
  have hvisible : Url.visiblePath (forDirectory name query).path = '/' :: name :=
    Url.visiblePath_of_plain hplain
  rw [hvisible, Url.visibleQuery_of_plain hquery] at hurl
  have hasked : Askable standard.settings.assetRoot (assetNames ('/' :: name)) := by
    rwa [hnames, assetRoot_standard]
  have hmatch := matchMounts_of_directory (linkFree_directoryBundle name) hasked
    (by rw [hnames, assetRoot_standard, get?_directoryBundle]) hlast
  rw [answer, respond_of_directory standard.settings hserves rfl hurl hmatch]

theorem moved_accented :
    (standard.answer ((directoryBundle "é".toList).lookup standard.settings.assetRoot)
        (forDirectory "é".toList "q=%41ü".toList)).response.status = 301 ∧
      ∃ location target rest,
        (standard.answer ((directoryBundle "é".toList).lookup standard.settings.assetRoot)
          (forDirectory "é".toList "q=%41ü".toList)).response.headers.values .location =
            [location] ∧
        location.IsAscii ∧ Text.cut '?' location = (target, rest) ∧
        Percent.read target = Percent.read ("/é".toList ++ ['/']) ∧
        (Percent.read target = "/é".toList ++ ['/'] ↔ ¬Percent.HasEscape "/é".toList) ∧
        (rest = none ↔ "q=%41ü".toList = []) ∧
        ∀ tail, rest = some tail → Percent.read tail = Percent.read "q=%41ü".toList ∧
          (Percent.read tail = "q=%41ü".toList ↔ ¬Percent.HasEscape "q=%41ü".toList) := by
  have hquery : ∀ c ∈ "q=%41ü".toList, Url.isPlainQueryChar c = true :=
    List.all_eq_true.1 (by decide)
  have hmoved : (standard.answer ((directoryBundle "é".toList).lookup standard.settings.assetRoot)
      (forDirectory "é".toList "q=%41ü".toList)).response.status = 301 := by
    rw [answer_directoryBundle (by decide) ⟨by decide, by decide, by decide, by decide⟩
      (by decide) (Url.isPlainChar_of_all (by decide)) hquery]
    rfl
  exact ⟨hmoved, location_means_directory (regular_forDirectory _ _) rfl rfl
    (Url.isKept_of_all (by decide)) (Utf8.decode_eq_ok_iff.2 rfl) hquery hmoved⟩

/-- A directory whose name holds an escape is moved to another one. -/
theorem escape_moved_elsewhere :
    (standard.answer ((directoryBundle "a%41".toList).lookup standard.settings.assetRoot)
        (forDirectory "a%41".toList [])).response = .redirect 301 "/a%41/".toList ∧
      Percent.read "/a%41/".toList = "/aA/".toList := by
  constructor
  · rw [answer_directoryBundle (by decide) ⟨by decide, by decide, by decide, by decide⟩
      (by decide) (Url.isPlainChar_of_all (by decide)) (by simp)]
    decide
  · cbv

end App

end SpaServer
