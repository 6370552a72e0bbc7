import Mathlib.Data.List.TakeWhile
import SpaServer.Proofs.EnvFile.Quoting
import SpaServer.Proofs.Text.Trimming

/-!
# Environment files that are longer

A statement that is well formed is read without a look beyond the end of its last line, so it is
the same whatever follows that line (`next_append`). A text in which all statements are well formed
is therefore not disturbed by what is appended to it, and what is appended is read as it is alone
(`statements_append`, and `statements_plainText_append` for the text of a file). The reader uses any
text up: every statement has a stretch of the text to itself (`exists_usedUp`).
-/

namespace SpaServer.EnvFile

/-! ### Texts that end with a line -/

/-- Whether the last line of a text has its end. -/
def EndsLine (text : Text) : Prop := text.getLast? = some '\n'

variable {text after rest : Text}

namespace EndsLine

theorem ne_nil (hends : EndsLine text) : text ≠ [] := by
  rintro rfl
  simp [EndsLine] at hends

theorem mem (hends : EndsLine text) : '\n' ∈ text := List.mem_of_getLast? hends

theorem of_suffix (hends : EndsLine text) (hsuffix : rest <:+ text) (hrest : rest ≠ []) :
    EndsLine rest := by
  obtain ⟨front, rfl⟩ := hsuffix
  rw [EndsLine, List.getLast?_append, Option.or_of_isSome (by simpa using hrest)] at hends
  exact hends

theorem tail {c : Char} (hends : EndsLine (c :: rest)) (hc : c ≠ '\n') : EndsLine rest := by
  refine hends.of_suffix (List.suffix_cons c rest) ?_
  rintro rfl
  exact hc (by simpa [EndsLine] using hends)

variable {p : Char → Bool}

theorem dropWhile_ne_nil (hends : EndsLine text) (hp : p '\n' = false) : text.dropWhile p ≠ [] := by
  rw [ne_eq, List.dropWhile_eq_nil_iff]
  intro hall
  have hdropped := hall _ hends.mem
  simp [hp] at hdropped

theorem dropWhile (hends : EndsLine text) (hp : p '\n' = false) : EndsLine (text.dropWhile p) :=
  hends.of_suffix (List.dropWhile_suffix p) (hends.dropWhile_ne_nil hp)

end EndsLine

theorem dropWhile_append_of_ne_nil {p : Char → Bool} (hdrop : text.dropWhile p ≠ [])
    (more : Text) : (text ++ more).dropWhile p = text.dropWhile p ++ more := by
  rw [List.dropWhile_append, if_neg (by simpa using hdrop)]

theorem takeWhile_append_of_ne_nil {p : Char → Bool} (hdrop : text.dropWhile p ≠ [])
    (more : Text) : (text ++ more).takeWhile p = text.takeWhile p := by
  rw [List.takeWhile_append, if_neg]
  intro hlength
  have hsplit := congrArg List.length (List.takeWhile_append_dropWhile (p := p) (l := text))
  rw [List.length_append] at hsplit
  exact hdrop (List.eq_nil_of_length_eq_zero (by omega))

/-! ### Blanks, comments and ends of lines -/

theorem skipBlanks_append (hends : EndsLine text) (more : Text) :
    skipBlanks (text ++ more) = skipBlanks text ++ more :=
  dropWhile_append_of_ne_nil (hends.dropWhile_ne_nil rfl) more

theorem EndsLine.skipBlanks (hends : EndsLine text) : EndsLine (skipBlanks text) :=
  hends.dropWhile rfl

theorem skipExport_word (c : Char) (rest : Text) :
    skipExport ("export".toList ++ c :: rest) =
      if isLineBlank c then skipBlanks rest else "export".toList ++ c :: rest := by
  rw [skipExport, if_pos (by simp)]
  rfl

theorem skipExport_of_noWord (hword : ¬ "export".toList <+: text) : skipExport text = text := by
  rw [skipExport, if_neg (by rwa [List.isPrefixOf_iff_prefix])]

theorem skipExport_append (hends : EndsLine text) (more : Text) :
    skipExport (text ++ more) = skipExport text ++ more ∧ EndsLine (skipExport text) := by
  by_cases hword : "export".toList <+: text
  · obtain ⟨rest, rfl⟩ := hword
    cases rest with
    | nil => exact absurd hends (by simp [EndsLine])
    | cons c rest =>
        rw [List.append_assoc, List.cons_append, skipExport_word, skipExport_word]
        by_cases hc : isLineBlank c = true
        · have hrest : EndsLine rest := by
            refine EndsLine.tail (hends.of_suffix (List.suffix_append _ _) (by simp)) ?_
            rintro rfl
            exact absurd hc (by decide)
          rw [if_pos hc, if_pos hc]
          exact ⟨skipBlanks_append hrest more, hrest.skipBlanks⟩
        · rw [if_neg hc, if_neg hc, List.append_assoc]
          exact ⟨rfl, hends⟩
  · -- The word holds no line feed, so it does not reach beyond the text.
    have hword' : ¬ "export".toList <+: text ++ more := by
      intro hprefix
      rcases List.prefix_or_prefix_of_prefix hprefix (List.prefix_append text more) with
        hshort | hlong
      · exact hword hshort
      · exact absurd (hlong.mem hends.mem) (by decide)
    rw [skipExport_of_noWord hword, skipExport_of_noWord hword']
    exact ⟨rfl, hends⟩

theorem skipComment_append (hends : EndsLine text) (more : Text) :
    skipComment (text ++ more) = skipComment text ++ more ∧ EndsLine (skipComment text) := by
  have hblanks := hends.skipBlanks
  rw [skipComment, skipComment, skipBlanks_append hends]
  cases hstart : skipBlanks text with
  | nil => exact absurd hstart hblanks.ne_nil
  | cons c rest =>
      rw [hstart] at hblanks
      by_cases hc : c = '#'
      · obtain rfl := hc
        have hrest : EndsLine rest := hblanks.tail (by decide)
        have hdrop := hrest.dropWhile_ne_nil (p := (· != '\n')) rfl
        exact ⟨dropWhile_append_of_ne_nil hdrop more, hrest.dropWhile rfl⟩
      · simp [hc, hends]

theorem skipLineEnd?_append (hends : EndsLine text) (hread : skipLineEnd? text = some rest)
    (more : Text) :
    skipLineEnd? (text ++ more) = some (rest ++ more) ∧ (rest = [] ∨ EndsLine rest) := by
  have hblanks := hends.skipBlanks
  rw [skipLineEnd?, skipBlanks_append hends]
  rw [skipLineEnd?] at hread
  split at hread
  next hstart => exact absurd hstart hblanks.ne_nil
  next rest' hstart =>
    obtain rfl := Option.some.inj hread
    rw [hstart] at hblanks ⊢
    refine ⟨rfl, or_iff_not_imp_left.2 fun hrest => ?_⟩
    exact hblanks.of_suffix (List.suffix_cons _ _) hrest
  next => simp at hread

/-! ### Keys and values -/

theorem key?_append {key : Option Text} (hends : EndsLine text)
    (hread : key? text = some (key, after)) (more : Text) :
    key? (text ++ more) = some (key, after ++ more) ∧ EndsLine after := by
  rw [key?.eq_def] at hread
  split at hread
  next rest =>
    obtain ⟨rfl, rfl⟩ := Prod.mk.inj (Option.some.inj hread)
    exact ⟨rfl, hends⟩
  next rest =>
    split at hread
    next c name quote after' hname hafter =>
      obtain ⟨rfl, rfl⟩ := Prod.mk.inj (Option.some.inj hread)
      have hdrop : rest.dropWhile (· != '\'') ≠ [] := by simp [hafter]
      have hquote : quote ≠ '\n' := by
        rintro rfl
        simpa using Text.eq_false_of_dropWhile hafter
      have hrest : EndsLine rest := hends.tail (by decide)
      constructor
      · rw [List.cons_append, key?, takeWhile_append_of_ne_nil hdrop,
          dropWhile_append_of_ne_nil hdrop, hname, hafter]
        rfl
      · refine EndsLine.tail (hrest.of_suffix ?_ (by simp)) hquote
        rw [← hafter]
        exact List.dropWhile_suffix _
    next => simp at hread
  next hsign hquote =>
    have hkey : isKeyChar '\n' = false := by decide
    have hdrop := hends.dropWhile_ne_nil hkey
    split at hread
    next => simp at hread
    next name hname =>
      obtain ⟨rfl, rfl⟩ := Prod.mk.inj (Option.some.inj hread)
      refine ⟨?_, hends.dropWhile hkey⟩
      obtain ⟨c, start, rfl⟩ := List.exists_cons_of_ne_nil hends.ne_nil
      rw [List.cons_append, key?, ← List.cons_append, takeWhile_append_of_ne_nil hdrop,
        dropWhile_append_of_ne_nil hdrop]
      · cases hkept : (c :: start).takeWhile isKeyChar with
        | nil => exact absurd hkept hname
        | cons => rfl
      · intro rest heq
        exact hsign start (by rw [(List.cons.inj heq).1])
      · intro rest heq
        exact hquote start (by rw [(List.cons.inj heq).1])

/-- What follows a backslash is taken with it. -/
theorem ne_backslash {c : Char} (hlast : c = '\\' → rest = [] → False)
    (hescape : ∀ next more, c = '\\' → rest = next :: more → False) : c ≠ '\\' := by
  intro heq
  cases rest with
  | nil => exact hlast heq rfl
  | cons next rest => exact hescape next rest heq rfl

theorem quoted?_close {quote : Char} (escape? : Char → Option Char) (hquote : quote ≠ '\\')
    (rest : Text) : quoted? quote escape? (quote :: rest) = some ([], rest) := by
  rw [quoted?]
  · rw [if_pos rfl]
  · exact fun heq => absurd heq hquote
  · exact fun _ _ heq => absurd heq hquote

/-- A value between quotes is read up to its closing quote, whatever follows. -/
theorem quoted?_append {quote : Char} {escape? : Char → Option Char} {value : Text}
    (hread : quoted? quote escape? text = some (value, after)) (more : Text) :
    quoted? quote escape? (text ++ more) = some (value, after ++ more) := by
  fun_induction quoted? quote escape? text generalizing value after with
  | case1 => simp at hread
  | case2 => simp at hread
  | case3 => simp at hread
  | case4 c rest value' after' hsome meant hmeant ih =>
      obtain ⟨rfl, rfl⟩ := Prod.mk.inj (Option.some.inj hread)
      simp only [List.cons_append, quoted?, ih hsome, hmeant]
  | case5 c rest value' after' hsome hnone ih =>
      obtain ⟨rfl, rfl⟩ := Prod.mk.inj (Option.some.inj hread)
      simp only [List.cons_append, quoted?, ih hsome, hnone]
  | case6 rest hlast hescape =>
      obtain ⟨rfl, rfl⟩ := Prod.mk.inj (Option.some.inj hread)
      exact quoted?_close escape? (ne_backslash hlast hescape) (rest ++ more)
  | case7 => simp at hread
  | case8 c rest hlast hescape hc value' after' hsome ih =>
      obtain ⟨rfl, rfl⟩ := Prod.mk.inj (Option.some.inj hread)
      rw [List.cons_append, Quoting.quoted?_plain (ne_backslash hlast hescape) hc, ih hsome]
      rfl

theorem quoted?_append_of_endsLine {quote : Char} {escape? : Char → Option Char} {value : Text}
    (hends : EndsLine text) (hquote : quote ≠ '\n')
    (hread : quoted? quote escape? text = some (value, after)) (more : Text) :
    quoted? quote escape? (text ++ more) = some (value, after ++ more) ∧ EndsLine after :=
  ⟨quoted?_append hread more, (hends.of_suffix (quoted_suffix hread) (by simp)).tail hquote⟩

theorem valueAt?_append {afterBlank : Bool} {value : Text} (hends : EndsLine text)
    (hread : valueAt? afterBlank text = .ok (value, after)) (more : Text) :
    valueAt? afterBlank (text ++ more) = .ok (value, after ++ more) ∧ EndsLine after := by
  rw [valueAt?.eq_def] at hread
  split at hread
  next => exact absurd rfl hends.ne_nil
  next rest =>
    obtain ⟨rfl, rfl⟩ := Prod.mk.inj (Except.ok.inj hread)
    exact ⟨rfl, hends⟩
  next rest =>
    obtain ⟨happend, hafter⟩ := quoted?_append_of_endsLine (hends.tail (by decide)) (by decide)
      (elim_eq_ok_iff.1 hread) more
    exact ⟨elim_eq_ok_iff.2 happend, hafter⟩
  next rest =>
    obtain ⟨happend, hafter⟩ := quoted?_append_of_endsLine (hends.tail (by decide)) (by decide)
      (elim_eq_ok_iff.1 hread) more
    exact ⟨elim_eq_ok_iff.2 happend, hafter⟩
  next c rest hline hsingle hdouble =>
    rw [List.cons_append, valueAt?.eq_5 _ _ _ hline hsingle hdouble]
    split at hread
    next hsign =>
      obtain ⟨rfl, rfl⟩ := Prod.mk.inj (Except.ok.inj hread)
      rw [if_pos hsign]
      exact ⟨rfl, hends⟩
    next hsign =>
      obtain ⟨rfl, rfl⟩ := Prod.mk.inj (Except.ok.inj hread)
      have hdrop := hends.dropWhile_ne_nil (p := (· != '\n')) rfl
      rw [if_neg hsign, ← List.cons_append, takeWhile_append_of_ne_nil hdrop,
        dropWhile_append_of_ne_nil hdrop]
      exact ⟨rfl, hends.dropWhile rfl⟩

theorem value?_append {value : Text} (hends : EndsLine text)
    (hread : value? text = .ok (value, after)) (more : Text) :
    value? (text ++ more) = .ok (value, after ++ more) ∧ EndsLine after := by
  have hhead : (text ++ more).head? = text.head? := by
    rw [List.head?_append, Option.or_of_isSome (by simpa using hends.ne_nil)]
  rw [value?, hhead, skipBlanks_append hends]
  exact valueAt?_append hends.skipBlanks hread more

theorem assigned?_append {value : Option Text} (hends : EndsLine text)
    (hread : assigned? text = .ok (value, after)) (more : Text) :
    assigned? (text ++ more) = .ok (value, after ++ more) ∧ EndsLine after := by
  have hblanks := hends.skipBlanks
  rw [assigned?] at hread ⊢
  rw [skipBlanks_append hends]
  split at hread
  next rest hstart =>
    rw [hstart] at hblanks ⊢
    split at hread
    next value' after' hvalue =>
      obtain ⟨rfl, rfl⟩ := Prod.mk.inj (Except.ok.inj hread)
      obtain ⟨happend, hafter⟩ := value?_append (hblanks.tail (by decide)) hvalue more
      simp only [List.cons_append, happend]
      exact ⟨trivial, hafter⟩
    next => simp at hread
  next hstart =>
    obtain ⟨rfl, rfl⟩ := Prod.mk.inj (Except.ok.inj hread)
    refine ⟨?_, hblanks⟩
    obtain ⟨c, start, hcons⟩ := List.exists_cons_of_ne_nil hblanks.ne_nil
    rw [hcons] at hstart ⊢
    have hc : c ≠ '=' := by
      rintro rfl
      exact hstart start rfl
    simp [hc]

/-! ### Statements -/

theorem next_append {statement : Statement} (hends : EndsLine text)
    (hread : Statement.next text = (statement, rest)) (hgood : statement ≠ .malformed)
    (more : Text) :
    Statement.next (text ++ more) = (statement, rest ++ more) ∧ (rest = [] ∨ EndsLine rest) := by
  obtain ⟨hstart, hends⟩ := skipExport_append hends more
  rw [Statement.next] at hread ⊢
  simp only at hread
  split at hread
  next => exact absurd (Prod.mk.inj hread).1.symm hgood
  next key afterKey hkey =>
    obtain ⟨hkey, hends⟩ := key?_append hends hkey more
    split at hread
    next => exact absurd (Prod.mk.inj hread).1.symm hgood
    next value afterValue hvalue =>
      obtain ⟨hvalue, hends⟩ := assigned?_append hends hvalue more
      obtain ⟨hcomment, hends⟩ := skipComment_append hends more
      split at hread
      next => exact absurd (Prod.mk.inj hread).1.symm hgood
      next rest' hline =>
        obtain ⟨rfl, rfl⟩ := Prod.mk.inj hread
        obtain ⟨hline, hends⟩ := skipLineEnd?_append hends hline more
        simp only [hstart, hkey, hvalue, hcomment, hline]
        exact ⟨trivial, hends⟩

theorem statements_gap {gap : Text} (hgap : ∀ c ∈ gap, Text.isBlank c = true) (text : Text) :
    statements (gap ++ text) = statements text := by
  have hstart : (gap ++ text).dropWhile Text.isBlank = text.dropWhile Text.isBlank :=
    List.dropWhile_append_of_pos hgap
  cases hdrop : text.dropWhile Text.isBlank with
  | nil =>
      rw [statements_of_blank (List.dropWhile_eq_nil_iff.1 hdrop),
        statements_of_blank (List.dropWhile_eq_nil_iff.1 (hstart.trans hdrop))]
  | cons c rest => rw [statements_of_start hdrop, statements_of_start (hstart.trans hdrop)]

/-- **What follows a text whose statements are all well formed is read as it is alone.** -/
theorem statements_append (hends : text = [] ∨ EndsLine text)
    (hgood : .malformed ∉ statements text) (more : Text) :
    statements (text ++ more) = statements text ++ statements more := by
  fun_induction statements text with
  | case1 text hblank => exact statements_gap (List.dropWhile_eq_nil_iff.1 hblank) more
  | case2 text c rest hstart ih =>
      have hne : text.dropWhile Text.isBlank ≠ [] := by simp [hstart]
      have htext : EndsLine text := hends.resolve_left (by rintro rfl; simp at hne)
      have hsolid : EndsLine (c :: rest) :=
        hstart ▸ htext.of_suffix (List.dropWhile_suffix _) hne
      rw [List.mem_cons, not_or] at hgood
      obtain ⟨hnext, hleft⟩ := next_append hsolid (Prod.eta _).symm (Ne.symm hgood.1) more
      have hstart' : (text ++ more).dropWhile Text.isBlank = c :: (rest ++ more) := by
        rw [dropWhile_append_of_ne_nil hne, hstart, List.cons_append]
      rw [statements_of_start hstart', ← List.cons_append, hnext, ih hleft hgood.2,
        List.cons_append]

/-! ### The text of a file -/

/-- The text of a file as it is read: with a line feed for every end of a line, and without a byte
order mark at its beginning. -/
def plainText (content : Text) : Text := dropMark (unifyLineEnds content)

/-- What a character that ends no line together with the next becomes. -/
def unifyChar (c : Char) : Char := if c = '\r' then '\n' else c

theorem head?_unifyLineEnds (content : Text) :
    (unifyLineEnds content).head? = content.head?.map unifyChar := by
  fun_cases unifyLineEnds content with
  | case1 => rfl
  | case2 => rfl
  | case3 => rfl
  | case4 c rest _ hc =>
      have hkept : unifyChar c = c := if_neg hc
      simp [hkept]

theorem getLast?_unifyLineEnds (content : Text) :
    (unifyLineEnds content).getLast? = content.getLast?.map unifyChar := by
  fun_induction unifyLineEnds content with
  | case1 => rfl
  | case2 rest ih =>
      simp only [List.getLast?_cons, ih, Option.map_some, Option.getD_some]
      cases rest.getLast? <;> rfl
  | case3 rest _ ih =>
      simp only [List.getLast?_cons, ih, Option.map_some]
      cases rest.getLast? <;> rfl
  | case4 c rest _ hc ih =>
      have hkept : unifyChar c = c := if_neg hc
      simp only [List.getLast?_cons, ih, Option.map_some]
      cases rest.getLast? <;> simp [hkept]

theorem unifyLineEnds_append {front back : Text}
    (hjoin : front.getLast? = some '\r' → back.head? ≠ some '\n') :
    unifyLineEnds (front ++ back) = unifyLineEnds front ++ unifyLineEnds back := by
  fun_induction unifyLineEnds front with
  | case1 => rfl
  | case2 rest ih =>
      rw [List.cons_append, List.cons_append, unifyLineEnds, ih, List.cons_append]
      intro hlast
      exact hjoin (by simp [List.getLast?_cons, hlast])
  | case3 rest hrest ih =>
      rw [List.cons_append, unifyLineEnds, ih, List.cons_append]
      · intro hlast
        exact hjoin (by simp [List.getLast?_cons, hlast])
      · intro rest' heq
        cases rest with
        | nil => exact hjoin rfl (by simp [show back = '\n' :: rest' from heq])
        | cons c rest => exact hrest rest (by rw [(List.cons.inj heq).1])
  | case4 c rest _ hc ih =>
      rw [List.cons_append, unifyLineEnds, ih, List.cons_append]
      · intro hlast
        exact hjoin (by simp [List.getLast?_cons, hlast])
      · exact fun _ heq => absurd heq hc
      · exact fun heq => absurd heq hc

/-- Where texts meet, at most one end of a line is lost: that of a carriage return and a line
feed. -/
theorem exists_unifyLineEnds_append (front back : Text) :
    ∃ gap rest, (∀ c ∈ gap, Text.isBlank c = true) ∧ unifyLineEnds back = gap ++ rest ∧
      unifyLineEnds (front ++ back) = unifyLineEnds front ++ rest := by
  by_cases hjoin : front.getLast? = some '\r' ∧ back.head? = some '\n'
  · obtain ⟨hlast, hhead⟩ := hjoin
    obtain ⟨front, rfl⟩ := List.getLast?_eq_some_iff.1 hlast
    obtain ⟨back, rfl⟩ := List.head?_eq_some_iff.1 hhead
    have hsplit : unifyLineEnds (front ++ ['\r'] ++ '\n' :: back) =
        unifyLineEnds front ++ ('\n' :: unifyLineEnds back) := by
      rw [List.append_assoc, unifyLineEnds_append (by simp)]
      rfl
    refine ⟨['\n'], unifyLineEnds back, by simp; decide, rfl, ?_⟩
    rw [hsplit, unifyLineEnds_append (by simp)]
    simp [unifyLineEnds]
  · refine ⟨[], unifyLineEnds back, by simp, rfl, unifyLineEnds_append fun hlast hhead => ?_⟩
    exact hjoin ⟨hlast, hhead⟩

theorem dropMark_append {front : Text} (hfront : front ≠ []) (back : Text) :
    dropMark (front ++ back) = dropMark front ++ back := by
  obtain ⟨c, front, rfl⟩ := List.exists_cons_of_ne_nil hfront
  rw [List.cons_append, dropMark, dropMark]
  split <;> rfl

theorem dropMark_of_head?_ne (hmark : text.head? ≠ some '\ufeff') : dropMark text = text := by
  cases text with
  | nil => rfl
  | cons c rest => exact if_neg (by simpa using hmark)

theorem EndsLine.dropMark (hends : EndsLine text) : EndsLine (dropMark text) := by
  obtain ⟨c, rest, rfl⟩ := List.exists_cons_of_ne_nil hends.ne_nil
  rw [EnvFile.dropMark]
  split
  next hmark => exact hends.tail (by rw [hmark]; decide)
  next => exact hends

/-- **A file whose statements are all well formed is not disturbed by what is appended to it.** -/
theorem statements_plainText_append {content more : Text}
    (hends : content.getLast? = some '\n' ∨ content.getLast? = some '\r')
    (hgood : .malformed ∉ statements (plainText content))
    (hmark : more.head? ≠ some '\ufeff') :
    statements (plainText (content ++ more)) =
      statements (plainText content) ++ statements (plainText more) := by
  have hunified : EndsLine (unifyLineEnds content) := by
    rw [EndsLine, getLast?_unifyLineEnds]
    rcases hends with hlast | hlast <;> rw [hlast] <;> rfl
  have hmark' : (unifyLineEnds more).head? ≠ some '\ufeff' := by
    rw [head?_unifyLineEnds]
    cases hhead : more.head? with
    | none => simp
    | some c =>
        rw [hhead] at hmark
        simp only [unifyChar, Option.map_some]
        split
        · decide
        · exact hmark
  obtain ⟨gap, rest, hgap, hmore, hjoined⟩ := exists_unifyLineEnds_append content more
  rw [plainText, plainText, plainText, hjoined, dropMark_append hunified.ne_nil,
    dropMark_of_head?_ne hmark', hmore, statements_gap hgap]
  exact statements_append (.inr hunified.dropMark) hgood rest

/-! ### How a text is used up -/

/-- Whether a text is used up by the stretches of a list, each read as the statement beside it.
Between them stand blanks only, and each of them begins with a character that is no blank. -/
inductive UsedUp : Text → List (Text × Statement) → Prop
  | done {gap : Text} (hgap : ∀ c ∈ gap, Text.isBlank c = true) : UsedUp gap []
  | next {gap stretch rest : Text} {first : Char} {statement : Statement}
      {stretches : List (Text × Statement)} (hgap : ∀ c ∈ gap, Text.isBlank c = true)
      (hfirst : Text.isBlank first = false)
      (hread : Statement.next (first :: stretch ++ rest) = (statement, rest))
      (hrest : UsedUp rest stretches) :
    UsedUp (gap ++ (first :: stretch ++ rest)) ((first :: stretch, statement) :: stretches)

/-- A statement takes a stretch of the text that is not empty. -/
theorem exists_stretch {c : Char} (hc : Text.isBlank c = false) (text : Text) :
    ∃ stretch, c :: text = c :: stretch ++ (Statement.next (c :: text)).2 := by
  obtain ⟨taken, htaken⟩ := Statement.next_suffix (c :: text)
  have hless : (Statement.next (c :: text)).2.length < (c :: text).length :=
    Statement.next_length_lt hc
  cases taken with
  | nil =>
      rw [List.nil_append] at htaken
      rw [htaken] at hless
      exact absurd hless (Nat.lt_irrefl _)
  | cons first stretch =>
      obtain ⟨rfl, -⟩ := List.cons.inj htaken
      exact ⟨stretch, htaken.symm⟩

/-- **Reading comes to an end, and every statement has taken something away.** -/
theorem exists_usedUp (text : Text) :
    ∃ stretches, UsedUp text stretches ∧ stretches.map Prod.snd = statements text := by
  fun_induction statements text with
  | case1 text hblank => exact ⟨[], .done (List.dropWhile_eq_nil_iff.1 hblank), rfl⟩
  | case2 text c rest hstart ih =>
      obtain ⟨stretches, hused, hstatements⟩ := ih
      have hc : Text.isBlank c = false := Text.eq_false_of_dropWhile hstart
      obtain ⟨stretch, hstretch⟩ := exists_stretch hc rest
      refine ⟨(c :: stretch, (Statement.next (c :: rest)).1) :: stretches, ?_, by
        rw [List.map_cons, hstatements]⟩
      rw [← List.takeWhile_append_dropWhile (p := Text.isBlank) (l := text), hstart, hstretch]
      refine .next (fun _ => List.mem_takeWhile_imp) hc ?_ hused
      rw [← hstretch]

theorem UsedUp.ne_nil {stretches : List (Text × Statement)} (hused : UsedUp text stretches) :
    ∀ stretch ∈ stretches, stretch.1 ≠ [] := by
  induction hused with
  | done => simp
  | next hgap hfirst hread hrest ih =>
      rw [List.forall_mem_cons]
      exact ⟨List.cons_ne_nil _ _, ih⟩

theorem UsedUp.length_le {stretches : List (Text × Statement)} (hused : UsedUp text stretches) :
    stretches.length ≤ text.length := by
  induction hused with
  | done => exact Nat.zero_le _
  | next hgap hfirst hread hrest ih =>
      simp only [List.length_append, List.length_cons]
      omega

end SpaServer.EnvFile
