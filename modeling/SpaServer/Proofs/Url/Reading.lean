import Mathlib.Data.List.Basic
import SpaServer.Proofs.Url.Authority

/-!
# What is read from a URL

A URL that is put together from a path and a query is taken apart into the visible path and the
visible query. The visible path is the path itself if all its characters are plain. A question mark,
a hash sign and a backslash become escapes that nothing takes back, and tabs and line breaks vanish,
so that a path with any of them is read as another one.
-/

namespace SpaServer.Url

/-! ### Plain characters -/

/-- Whether a character of a path is read from a URL as it was written. -/
def isPlainChar (c : Char) : Bool := c != '?' && c != '#' && c != '\\' && !isDropped c

/-- The path that is read from a URL with the given path. -/
def visiblePath (path : Text) : Text := (escapePath path).filter (!isDropped ·)

def visibleQuery (query : Text) : Text := (Text.cut '#' (query.filter (!isDropped ·))).1

theorem escapePathChar_of_plain {c : Char} (hc : isPlainChar c = true) :
    escapePathChar c = [c] := by
  rw [escapePathChar.eq_def]
  split
  · simp [isPlainChar] at hc
  · simp [isPlainChar] at hc
  · simp [isPlainChar] at hc
  · rfl

theorem isPlainChar_of_all {text : Text} (htext : text.all isPlainChar = true) :
    ∀ c ∈ text, isPlainChar c = true :=
  List.all_eq_true.1 htext

theorem isKept_of_all {text : Text} (htext : text.all (!isDropped ·) = true) :
    ∀ c ∈ text, isDropped c = false := fun c hc => by
  simpa using List.all_eq_true.1 htext c hc

theorem visiblePath_of_plain {path : Text} (hpath : ∀ c ∈ path, isPlainChar c = true) :
    visiblePath path = path := by
  have hescape : escapePath path = path := by
    rw [escapePath, List.flatMap_congr (g := fun c => [c]) fun c hc =>
      escapePathChar_of_plain (hpath c hc)]
    simp
  rw [visiblePath, hescape, List.filter_eq_self]
  intro c hc
  have hplain := hpath c hc
  simp only [isPlainChar, Bool.and_eq_true] at hplain
  exact hplain.2

/-- Whatever an escape is made of needs no escape. -/
theorem mem_escapePath {path : Text} {c : Char} (hc : c ∈ escapePath path) :
    c ≠ '?' ∧ c ≠ '#' ∧ c ≠ '\\' := by
  rw [escapePath, List.mem_flatMap] at hc
  obtain ⟨origin, _, hc⟩ := hc
  have hescape : ∀ text ∈ ["%3F".toList, "%23".toList, "%5C".toList], c ∈ text →
      c ≠ '?' ∧ c ≠ '#' ∧ c ≠ '\\' := by
    intro text htext hc
    have hall : ∀ text ∈ ["%3F".toList, "%23".toList, "%5C".toList],
        text.all (fun c => c != '?' && c != '#' && c != '\\') = true := by
      decide
    simpa [and_assoc] using List.all_eq_true.1 (hall text htext) c hc
  rw [escapePathChar.eq_def] at hc
  split at hc
  · exact hescape _ (by simp) hc
  · exact hescape _ (by simp) hc
  · exact hescape _ (by simp) hc
  · rw [List.mem_singleton] at hc
    subst hc
    exact ⟨by assumption, by assumption, by assumption⟩

theorem isPlainChar_of_mem_visiblePath {path : Text} {c : Char} (hc : c ∈ visiblePath path) :
    isPlainChar c = true := by
  rw [visiblePath, List.mem_filter] at hc
  obtain ⟨hquestion, hhash, hbackslash⟩ := mem_escapePath hc.1
  simp only [isPlainChar, Bool.and_eq_true, bne_iff_ne]
  exact ⟨⟨⟨hquestion, hhash⟩, hbackslash⟩, hc.2⟩

theorem head?_escapePath {path : Text} (hpath : path.head? = some '/') :
    (escapePath path).head? = some '/' := by
  cases path with
  | nil => simp at hpath
  | cons first rest =>
      obtain rfl := Option.some.inj hpath
      rfl

theorem head?_filter_dropped {path : Text} (hpath : path.head? = some '/') :
    (path.filter (!isDropped ·)).head? = some '/' := by
  cases path with
  | nil => simp at hpath
  | cons first rest =>
      obtain rfl := Option.some.inj hpath
      rfl

theorem head?_visiblePath {path : Text} (hpath : path.head? = some '/') :
    (visiblePath path).head? = some '/' :=
  head?_filter_dropped (head?_escapePath hpath)

/-- The characters that are read as they were written are those of all paths that are. -/
theorem visiblePath_eq_self_iff {path : Text} :
    visiblePath path = path ↔ ∀ c ∈ path, isPlainChar c = true := by
  refine ⟨?_, visiblePath_of_plain⟩
  intro hself c hc
  rw [← hself] at hc
  exact isPlainChar_of_mem_visiblePath hc

theorem visiblePath_append (front back : Text) :
    visiblePath (front ++ back) = visiblePath front ++ visiblePath back := by
  rw [visiblePath, escapePath, List.flatMap_append, List.filter_append]
  rfl

theorem escapePathChar_cases (c : Char) :
    escapePathChar c = [c] ∨ ∃ digits, escapePathChar c = '%' :: digits := by
  rw [escapePathChar.eq_def]
  split
  · exact Or.inr ⟨_, rfl⟩
  · exact Or.inr ⟨_, rfl⟩
  · exact Or.inr ⟨_, rfl⟩
  · exact Or.inl rfl

/-- What a path seems to begin with it does begin with, if there is no percent sign in it. -/
theorem prefix_of_escapePath {front path : Text} (hfront : '%' ∉ front)
    (hescape : front <+: escapePath path) : front <+: path := by
  induction path generalizing front with
  | nil => simpa [escapePath] using hescape
  | cons c path ih =>
      rw [escapePath, List.flatMap_cons, ← escapePath] at hescape
      cases front with
      | nil => exact List.nil_prefix
      | cons first front =>
          rw [List.mem_cons, not_or] at hfront
          rcases escapePathChar_cases c with hsame | ⟨digits, hdigits⟩
          · rw [hsame, List.singleton_append, List.cons_prefix_cons] at hescape
            obtain ⟨rfl, hrest⟩ := hescape
            exact List.cons_prefix_cons.2 ⟨rfl, ih hfront.2 hrest⟩
          · rw [hdigits, List.cons_append, List.cons_prefix_cons] at hescape
            exact absurd hescape.1.symm hfront.1

theorem visiblePath_of_kept {path : Text} (hkept : ∀ c ∈ path, isDropped c = false) :
    visiblePath path = escapePath path := by
  rw [visiblePath, List.filter_eq_self]
  intro c hc
  rw [escapePath, List.mem_flatMap] at hc
  obtain ⟨origin, horigin, hc⟩ := hc
  have hescape : ∀ text ∈ ["%3F".toList, "%23".toList, "%5C".toList],
      text.all (!isDropped ·) = true := by
    decide
  rw [escapePathChar.eq_def] at hc
  split at hc
  · exact List.all_eq_true.1 (hescape _ (by simp)) c hc
  · exact List.all_eq_true.1 (hescape _ (by simp)) c hc
  · exact List.all_eq_true.1 (hescape _ (by simp)) c hc
  · obtain rfl := List.mem_singleton.1 hc
    rw [hkept c horigin]
    rfl

/-! ### The end of a URL -/

def queryPart (query : Text) : Text := if query = [] then [] else '?' :: query

/-- A query as it stands behind a path that is read. -/
def keptQuery (query : Text) : Text := (queryPart query).filter (!isDropped ·)

theorem keptQuery_cases (query : Text) :
    keptQuery query = [] ∨ keptQuery query = '?' :: query.filter (!isDropped ·) := by
  rw [keptQuery, queryPart]
  split
  · exact Or.inl rfl
  · exact Or.inr rfl

theorem ofText_append_keptQuery {path : Text} (query : Text)
    (hplain : ∀ c ∈ path, isPlainChar c = true) :
    Parts.ofText (path ++ keptQuery query) = ⟨path, visibleQuery query⟩ := by
  have hquestion : '?' ∉ path := fun hmark => absurd (hplain '?' hmark) (by decide)
  have hhash : '#' ∉ path := fun hmark => absurd (hplain '#' hmark) (by decide)
  rw [keptQuery, queryPart]
  split
  · rename_i hnone
    rw [List.filter_nil, List.append_nil, Parts.ofText, Text.cut_of_not_mem hhash,
      Text.cut_of_not_mem hquestion, hnone]
    rfl
  · rw [List.filter_cons_of_pos (by decide), Parts.ofText]
    have hcut : (Text.cut '#' (path ++ '?' :: query.filter (!isDropped ·))).1 =
        path ++ '?' :: visibleQuery query := by
      have hkept : ∀ c ∈ path, (c != '#') = true := by
        intro c hc
        rw [bne_iff_ne]
        rintro rfl
        exact hhash hc
      rw [Text.cut, List.takeWhile_append_of_pos hkept, visibleQuery, Text.cut]
      rfl
    rw [hcut, Text.cut_append _ hquestion]
    rfl

/-! ### URLs with an authority -/

structure IsScheme (scheme : Text) : Prop where
  starts : scheme.head?.any Char.isAlpha = true
  chars : ∀ c ∈ scheme, isSchemeChar c = true ∧ isDropped c = false
  visible : scheme.head?.all (0x20 < ·.toNat) = true

theorem isScheme_of_defaultPort? {scheme : Text}
    (hscheme : (Authority.defaultPort? scheme).isSome = true) : IsScheme scheme := by
  have hknown : scheme ∈ ["http".toList, "ws".toList, "https".toList, "wss".toList] := by
    rw [Authority.defaultPort?] at hscheme
    simp only [List.mem_cons, List.not_mem_nil, or_false] at hscheme ⊢
    split at hscheme
    · tauto
    · split at hscheme
      · tauto
      · simp at hscheme
  have hall : ∀ scheme ∈ ["http".toList, "ws".toList, "https".toList, "wss".toList],
      scheme.head?.any Char.isAlpha = true ∧
        scheme.all (fun c => isSchemeChar c && !isDropped c) = true ∧
        scheme.head?.all (0x20 < ·.toNat) = true := by
    decide
  obtain ⟨hstarts, hchars, hvisible⟩ := hall scheme hknown
  exact ⟨hstarts, fun c hc => by simpa using List.all_eq_true.1 hchars c hc, hvisible⟩

theorem dropScheme_append {scheme : Text} (hscheme : IsScheme scheme) (rest : Text) :
    dropScheme (scheme ++ ':' :: rest) = rest := by
  have hchars : ∀ c ∈ scheme, isSchemeChar c = true := fun c hc => (hscheme.chars c hc).1
  rw [dropScheme, List.takeWhile_append_of_pos hchars, List.dropWhile_append_of_pos hchars,
    List.takeWhile_cons_of_neg (by decide), List.dropWhile_cons_of_neg (by decide), List.append_nil]
  have hstarts := hscheme.starts
  cases scheme with
  | nil => simp at hstarts
  | cons first others => exact if_pos (by simpa using hstarts)

theorem cutAuthority_append {authority path : Text}
    (hauthority : ∀ c ∈ authority, Authority.isSafeChar c = true) (hpath : path.head? = some '/') :
    cutAuthority ('/' :: '/' :: (authority ++ path)) = (authority, path) := by
  have hchars : ∀ c ∈ authority, isAuthorityChar c = true := by
    intro c hc
    have hsafe := hauthority c hc
    simp only [Authority.isSafeChar, Bool.and_eq_true] at hsafe
    exact hsafe.1.1.2
  cases path with
  | nil => simp at hpath
  | cons first rest =>
      obtain rfl := Option.some.inj hpath
      rw [cutAuthority, List.takeWhile_append_of_pos hchars, List.dropWhile_append_of_pos hchars,
        List.takeWhile_cons_of_neg (by decide), List.dropWhile_cons_of_neg (by decide),
        List.append_nil]

theorem write_some {scheme authority : Text} (path query : Text) (hscheme : IsScheme scheme)
    (hauthority : authority ≠ []) : write scheme (some authority) path query =
      scheme ++ ':' :: '/' :: '/' :: (authority ++ (escapePath path ++ queryPart query)) := by
  have hnil : scheme ≠ [] := by
    rintro rfl
    exact absurd hscheme.starts (by decide)
  have hempty : ¬(authority = [] ∧ ['/', '/'].isPrefixOf path) := fun h => hauthority h.1
  rw [write, schemePart, if_neg hnil, authorityPart, if_neg hempty, queryPart]
  split <;> simp

/-- **Taking apart a URL gives the visible parts of what it was put together from.** -/
theorem split_write {scheme authority path : Text} (query : Text) (hscheme : IsScheme scheme)
    (hauthority : Authority.Readable authority) (hpath : path.head? = some '/') :
    split (write scheme (some authority) path query) =
      .ok ⟨visiblePath path, visibleQuery query⟩ := by
  have hsafe := hauthority.safe
  have hstart : ∀ rest : Text, (scheme ++ rest).dropWhile (·.toNat ≤ 0x20) = scheme ++ rest := by
    intro rest
    have hstarts := hscheme.starts
    have hvisible := hscheme.visible
    cases scheme with
    | nil => simp at hstarts
    | cons first others =>
        have hfirst : 0x20 < first.toNat := by simpa using hvisible
        exact List.dropWhile_cons_of_neg (by simpa using hfirst)
  have hkept : (scheme ++ ':' :: '/' :: '/' ::
        (authority ++ (escapePath path ++ queryPart query))).filter (!isDropped ·) =
      scheme ++ ':' :: '/' :: '/' ::
        (authority ++ (visiblePath path ++ keptQuery query)) := by
    have hscheme' : scheme.filter (!isDropped ·) = scheme := by
      rw [List.filter_eq_self]
      intro c hc
      rw [(hscheme.chars c hc).2]
      rfl
    have hauthority' : authority.filter (!isDropped ·) = authority := by
      rw [List.filter_eq_self]
      intro c hc
      have hc := hsafe c hc
      simp only [Authority.isSafeChar, Bool.and_eq_true] at hc
      exact hc.1.2
    rw [List.filter_append, hscheme', List.filter_cons_of_pos (by decide),
      List.filter_cons_of_pos (by decide), List.filter_cons_of_pos (by decide),
      List.filter_append, hauthority', List.filter_append, visiblePath, keptQuery]
  have hrest : (visiblePath path ++ keptQuery query).head? = some '/' := by
    rw [List.head?_append, head?_visiblePath hpath, Option.some_or]
  rw [write_some path query hscheme hauthority.ne_nil, split]
  simp only [hstart, hkept, dropScheme_append hscheme, cutAuthority_append hsafe hrest,
    hauthority.accepted]
  rw [ofText_append_keptQuery query fun _ => isPlainChar_of_mem_visiblePath]

/-! ### URLs without an authority -/

/-- A path as it is kept where there is no authority before it. -/
def guardedPath (path : Text) : Text := (guardPath (escapePath path)).filter (!isDropped ·)

theorem head?_guardPath {path : Text} (hpath : path.head? = some '/') :
    (guardPath path).head? = some '/' := by
  rw [guardPath.eq_def]
  split
  · rfl
  · exact hpath

theorem head?_guardedPath {path : Text} (hpath : path.head? = some '/') :
    (guardedPath path).head? = some '/' :=
  head?_filter_dropped (head?_guardPath (head?_escapePath hpath))

theorem mem_guardPath {path : Text} {c : Char} (hc : c ∈ guardPath path) :
    c ∈ path ∨ c ∈ "/%2F".toList := by
  rw [guardPath.eq_def] at hc
  split at hc
  · rcases List.mem_append.1 hc with hc | hc
    · exact Or.inr hc
    · exact Or.inl (List.mem_cons_of_mem _ (List.mem_cons_of_mem _ hc))
  · exact Or.inl hc

theorem isPlainChar_of_mem_guardedPath {path : Text} {c : Char} (hc : c ∈ guardedPath path) :
    isPlainChar c = true := by
  rw [guardedPath, List.mem_filter] at hc
  rcases mem_guardPath hc.1 with hfront | hguard
  · exact isPlainChar_of_mem_visiblePath (List.mem_filter.2 ⟨hfront, hc.2⟩)
  · exact isPlainChar_of_all (by decide) c hguard

/-- Where no authority is written the guarded path stands first in the URL. -/
theorem split_write_guarded (scheme : Text) {path : Text} (query : Text)
    (hpath : path.head? = some '/') : split (write scheme none path query) =
      (Authority.check (cutAuthority (guardedPath path ++ keptQuery query)).1).map fun _ =>
        .ofText (cutAuthority (guardedPath path ++ keptQuery query)).2 := by
  have hwrite : write scheme none path query = guardPath (escapePath path) ++ queryPart query := by
    rw [write, queryPart]
    split <;> simp
  have hstart : (guardPath (escapePath path) ++ queryPart query).dropWhile (·.toNat ≤ 0x20) =
      guardPath (escapePath path) ++ queryPart query := by
    have hhead := head?_guardPath (head?_escapePath hpath)
    cases hfront : guardPath (escapePath path) with
    | nil => simp [hfront] at hhead
    | cons first rest =>
        obtain rfl : first = '/' := by simpa [hfront] using hhead
        exact List.dropWhile_cons_of_neg (by decide)
  have hscheme : dropScheme (guardedPath path ++ keptQuery query) =
      guardedPath path ++ keptQuery query := by
    have hhead := head?_guardedPath hpath
    cases hfront : guardedPath path with
    | nil => simp [hfront] at hhead
    | cons first rest =>
        obtain rfl : first = '/' := by simpa [hfront] using hhead
        rfl
  have hkept : (guardPath (escapePath path) ++ queryPart query).filter (!isDropped ·) =
      guardedPath path ++ keptQuery query := by
    rw [List.filter_append]
    rfl
  rw [hwrite, split]
  simp only [hstart, hkept, hscheme]
  cases Authority.check (cutAuthority (guardedPath path ++ keptQuery query)).1 <;> rfl

theorem cutAuthority_of_not_doubled {url : Text} (hurl : ¬['/', '/'] <+: url) :
    cutAuthority url = ([], url) := by
  rw [cutAuthority.eq_def]
  split
  · exact absurd (List.prefix_append ['/', '/'] _) hurl
  · rfl

theorem guardedPath_of_not_doubled {path : Text} (hdoubled : ¬['/', '/'] <+: visiblePath path) :
    guardedPath path = visiblePath path := by
  have hguard : guardPath (escapePath path) = escapePath path := by
    rw [guardPath.eq_def]
    split
    · rename_i rest hescape
      refine absurd ⟨rest.filter (!isDropped ·), ?_⟩ hdoubled
      rw [visiblePath, hescape]
      rfl
    · rfl
  rw [guardedPath, hguard, visiblePath]

/-- Two slashes at the beginning are those of the path, since a query begins with a question
mark. -/
theorem doubled_of_append_keptQuery {path : Text} (query : Text) (hpath : path.head? = some '/')
    (hdoubled : ['/', '/'] <+: path ++ keptQuery query) : ['/', '/'] <+: path := by
  cases path with
  | nil => simp at hpath
  | cons first rest =>
      cases rest with
      | cons second rest => simpa using hdoubled
      | nil => rcases keptQuery_cases query with hkept | hkept <;> simp [hkept] at hdoubled

/-- **Without an authority a path is read as it is visible, unless it begins like an authority.** -/
theorem split_write_none (scheme : Text) {path : Text} (query : Text)
    (hpath : path.head? = some '/') (hdoubled : ¬['/', '/'] <+: visiblePath path) :
    split (write scheme none path query) = .ok ⟨visiblePath path, visibleQuery query⟩ := by
  have hcut := cutAuthority_of_not_doubled fun h =>
    hdoubled (doubled_of_append_keptQuery query (head?_visiblePath hpath) h)
  have hcheck : Authority.check [] = .ok () := rfl
  rw [split_write_guarded scheme query hpath, guardedPath_of_not_doubled hdoubled, hcut, hcheck,
    ofText_append_keptQuery query fun _ => isPlainChar_of_mem_visiblePath]
  rfl

/-- Whatever stands for the authority, what is left of the path stands before the query, and it
begins where an authority ends. That is all of the path if it does not begin like an authority. -/
theorem cutAuthority_append_keptQuery {front : Text} (query : Text)
    (hfront : front.head? = some '/') : ∃ rest, rest <:+ front ∧
      (∀ c, rest.head? = some c → isAuthorityChar c = false) ∧
      (rest = front ↔ ¬['/', '/'] <+: front) ∧
      (cutAuthority (front ++ keptQuery query)).2 = rest ++ keptQuery query := by
  by_cases hdoubled : ['/', '/'] <+: front
  · obtain ⟨back, rfl⟩ := hdoubled
    have hsuffix := List.dropWhile_suffix isAuthorityChar (l := back)
    refine ⟨back.dropWhile isAuthorityChar, ?_, ?_, ?_, ?_⟩
    · exact hsuffix.trans (List.suffix_append _ _)
    · exact Text.not_head_dropWhile isAuthorityChar back
    · refine iff_of_false (fun hall => ?_) (not_not.2 (List.prefix_append _ _))
      have hlength := hsuffix.length_le
      rw [hall, List.length_append, List.length_cons, List.length_cons] at hlength
      omega
    · simp only [List.cons_append, List.nil_append, cutAuthority]
      rw [List.dropWhile_append]
      split
      · rename_i hempty
        rw [List.isEmpty_iff.1 hempty, List.nil_append]
        rcases keptQuery_cases query with hkept | hkept
        · rw [hkept, List.dropWhile_nil]
        · rw [hkept, List.dropWhile_cons_of_neg (by decide)]
      · rfl
  · refine ⟨front, List.suffix_rfl, ?_, iff_of_true rfl hdoubled, ?_⟩
    · intro c hc
      obtain rfl : '/' = c := by simpa [hfront] using hc
      decide
    · rw [cutAuthority_of_not_doubled fun h => hdoubled (doubled_of_append_keptQuery query hfront h)]

theorem path_of_split_write_none {scheme path query : Text} {parts : Parts}
    (hpath : path.head? = some '/') (hsplit : split (write scheme none path query) = .ok parts) :
    parts.path <:+ guardedPath path ∧
      (∀ c, parts.path.head? = some c → isAuthorityChar c = false) ∧
      (parts.path = guardedPath path ↔ ¬['/', '/'] <+: guardedPath path) := by
  obtain ⟨rest, hsuffix, hhead, hall, hrest⟩ :=
    cutAuthority_append_keptQuery query (head?_guardedPath hpath)
  have hplain : ∀ c ∈ rest, isPlainChar c = true := fun c hc =>
    isPlainChar_of_mem_guardedPath (hsuffix.subset hc)
  rw [split_write_guarded scheme query hpath, hrest, ofText_append_keptQuery query hplain] at hsplit
  cases hcheck : Authority.check (cutAuthority (guardedPath path ++ keptQuery query)).1 with
  | error error => simp [hcheck, Except.map] at hsplit
  | ok _ =>
      rw [hcheck] at hsplit
      obtain rfl := Except.ok.inj hsplit
      exact ⟨hsuffix, hhead, hall⟩

/-- A path that begins like an authority is guarded, or begins so only where tabs and line breaks
have vanished. -/
theorem guardedPath_cases (path : Text) :
    guardedPath path = visiblePath path ∨ ¬['/', '/'] <+: guardedPath path := by
  rw [guardedPath, guardPath.eq_def]
  split
  · right
    rw [List.filter_append]
    simp [isDropped]
  · exact Or.inl rfl

/-- **Without an authority a path that begins like one is read as another path.** -/
theorem path_ne_of_split_write_none {scheme path query : Text} {parts : Parts}
    (hpath : path.head? = some '/') (hdoubled : ['/', '/'] <+: visiblePath path)
    (hsplit : split (write scheme none path query) = .ok parts) :
    parts.path ≠ visiblePath path := by
  intro hsame
  obtain ⟨_, _, hall⟩ := path_of_split_write_none hpath hsplit
  rcases guardedPath_cases path with hguarded | hguarded
  · rw [hguarded] at hall
    exact hall.1 hsame hdoubled
  · rw [← hall.2 hguarded, hsame] at hguarded
    exact hguarded hdoubled

theorem isPlainChar_of_split_write_none {scheme path query : Text} {parts : Parts}
    (hpath : path.head? = some '/') (hsplit : split (write scheme none path query) = .ok parts)
    {c : Char} (hc : c ∈ parts.path) : isPlainChar c = true :=
  isPlainChar_of_mem_guardedPath ((path_of_split_write_none hpath hsplit).1.subset hc)

/-- The path that is read begins with a slash, if there is one at all. -/
theorem head?_of_split_write_none {scheme path query : Text} {parts : Parts}
    (hpath : path.head? = some '/') (hsplit : split (write scheme none path query) = .ok parts) :
    parts.path = [] ∨ parts.path.head? = some '/' := by
  obtain ⟨_, hhead, _⟩ := path_of_split_write_none hpath hsplit
  have hplain := fun c => isPlainChar_of_split_write_none hpath hsplit (c := c)
  cases hread : parts.path with
  | nil => exact Or.inl rfl
  | cons first rest =>
      rw [hread] at hhead hplain
      have hend := hhead first rfl
      have hfirst := hplain first List.mem_cons_self
      simp only [isAuthorityChar, isPlainChar, Bool.and_eq_true, Bool.and_eq_false_iff, bne_iff_ne,
        bne_eq_false_iff_eq] at hend hfirst
      rcases hend with (rfl | hmark) | hmark
      · exact Or.inr rfl
      · exact absurd hmark hfirst.1.1.1
      · exact absurd hmark hfirst.1.1.2

end SpaServer.Url
