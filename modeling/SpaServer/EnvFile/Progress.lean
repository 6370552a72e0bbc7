import SpaServer.EnvFile.Statement

/-!
# Reading a statement makes progress

Every part of the reader gives back an end of the text that it was given (`Statement.next_suffix`),
and a statement that starts with no blank takes at least one character away
(`Statement.next_length_lt`), also when it is malformed. That is why reading a whole text ends.
-/

namespace SpaServer.EnvFile

theorem length_dropWhile_le {α : Type} (p : α → Bool) (l : List α) :
    (l.dropWhile p).length ≤ l.length :=
  (List.dropWhile_suffix p).length_le

theorem skipBlanks_suffix (text : Text) : skipBlanks text <:+ text := List.dropWhile_suffix _

theorem skipLine_suffix (text : Text) : skipLine text <:+ text :=
  (List.drop_suffix 1 _).trans (List.dropWhile_suffix _)

theorem skipExport_suffix (text : Text) : skipExport text <:+ text := by
  unfold skipExport
  split
  · split
    next c rest eq =>
      have behind : c :: rest <:+ text := eq ▸ List.drop_suffix 6 text
      split
      · exact ((skipBlanks_suffix rest).trans (List.suffix_cons c rest)).trans behind
      · exact List.suffix_rfl
    next => exact List.suffix_rfl
  · exact List.suffix_rfl

theorem skipComment_suffix (text : Text) : skipComment text <:+ text := by
  have blanks := skipBlanks_suffix text
  unfold skipComment
  split
  next rest eq =>
    rw [eq] at blanks
    exact ((List.dropWhile_suffix _).trans (List.suffix_cons '#' rest)).trans blanks
  next => exact List.suffix_rfl

theorem skipLineEnd_suffix {text rest : Text} (read : skipLineEnd? text = some rest) :
    rest <:+ text := by
  have blanks := skipBlanks_suffix text
  unfold skipLineEnd? at read
  split at read
  · cases read; exact List.nil_suffix
  next eq =>
    cases read
    rw [eq] at blanks
    exact (List.suffix_cons '\n' _).trans blanks
  · cases read

/-- The closing quote stands right before the text that is left. -/
theorem quoted_suffix {quote : Char} {escape? : Char → Option Char} {text value after : Text}
    (read : quoted? quote escape? text = some (value, after)) : quote :: after <:+ text := by
  fun_induction quoted? quote escape? text generalizing value after with
  | case1 => cases read
  | case2 => cases read
  | case3 => cases read
  | case4 c rest _ _ taken _ _ ih =>
    cases read
    exact (ih taken).trans (List.suffix_append ['\\', c] rest)
  | case5 c rest _ _ taken _ ih =>
    cases read
    exact (ih taken).trans (List.suffix_append ['\\', c] rest)
  | case6 => cases read; exact List.suffix_rfl
  | case7 => cases read
  | case8 c rest _ _ _ _ _ taken ih =>
    cases read
    exact (ih taken).trans (List.suffix_cons c rest)

theorem elim_eq_ok_iff {taken : Option (Text × Text)} {stop : Text} {read : Text × Text} :
    taken.elim (Except.error stop) Except.ok = Except.ok read ↔ taken = some read := by
  cases taken <;> simp

theorem valueAt_suffix {afterBlank : Bool} {text value after : Text}
    (read : valueAt? afterBlank text = .ok (value, after)) : after <:+ text := by
  have unquoted : ∀ (quote : Char) (escape? : Char → Option Char) (rest : Text),
      (quoted? quote escape? rest).elim (Except.error (quote :: rest)) Except.ok =
        .ok (value, after) → after <:+ quote :: rest := fun quote _ rest taken =>
    ((List.suffix_cons quote after).trans (quoted_suffix (elim_eq_ok_iff.1 taken))).trans
      (List.suffix_cons quote rest)
  unfold valueAt? at read
  split at read
  next => cases read; exact List.suffix_rfl
  next => cases read; exact List.suffix_rfl
  next rest => exact unquoted _ _ rest read
  next rest => exact unquoted _ _ rest read
  next =>
    split at read
    · cases read; exact List.suffix_rfl
    · cases read; exact List.dropWhile_suffix _

theorem valueAt_error {afterBlank : Bool} {text stop : Text}
    (read : valueAt? afterBlank text = .error stop) : stop = text := by
  revert read
  unfold valueAt?
  split
  next => simp
  next => simp
  next rest => cases quoted? '\'' singleEscape? rest <;> simp [eq_comm]
  next rest => cases quoted? '"' doubleEscape? rest <;> simp [eq_comm]
  next => split <;> simp

theorem value_suffix {text value after : Text} (read : value? text = .ok (value, after)) :
    after <:+ text :=
  (valueAt_suffix read).trans (skipBlanks_suffix text)

theorem value_error_suffix {text stop : Text} (read : value? text = .error stop) :
    stop <:+ text :=
  valueAt_error read ▸ skipBlanks_suffix text

theorem assigned_suffix {text after : Text} {value : Option Text}
    (read : assigned? text = .ok (value, after)) : after <:+ text := by
  have blanks := skipBlanks_suffix text
  unfold assigned? at read
  split at read
  next rest eq =>
    rw [eq] at blanks
    split at read
    next taken =>
      cases read
      exact ((value_suffix taken).trans (List.suffix_cons '=' rest)).trans blanks
    next => cases read
  next =>
    cases read
    exact blanks

theorem assigned_error_suffix {text stop : Text} (read : assigned? text = .error stop) :
    stop <:+ text := by
  have blanks := skipBlanks_suffix text
  unfold assigned? at read
  split at read
  next rest eq =>
    rw [eq] at blanks
    split at read
    next => cases read
    next taken =>
      cases read
      exact ((value_error_suffix taken).trans (List.suffix_cons '=' rest)).trans blanks
  next => cases read

/-- Reading a key consumes it; only a comment sign is left in place. -/
theorem key_suffix {text after : Text} {key : Option Text}
    (read : key? text = some (key, after)) :
    after <:+ text ∧ (after.length < text.length ∨ (∃ rest, text = '#' :: rest) ∧ after = text) := by
  unfold key? at read
  split at read
  next rest =>
    cases read
    exact ⟨List.suffix_rfl, .inr ⟨⟨rest, rfl⟩, rfl⟩⟩
  next rest =>
    split at read
    next quote after' _ eq =>
      cases read
      have behind : quote :: after <:+ rest := eq ▸ List.dropWhile_suffix _
      have shorter := behind.length_le
      refine ⟨((List.suffix_cons _ _).trans behind).trans (List.suffix_cons _ _), .inl ?_⟩
      simp only [List.length_cons] at *
      omega
    next => cases read
  next =>
    have whole := congrArg List.length
      (List.takeWhile_append_dropWhile (p := isKeyChar) (l := text))
    rw [List.length_append] at whole
    split at read
    next => cases read
    next name nonempty =>
      cases read
      have := List.length_pos_iff.2 nonempty
      exact ⟨List.dropWhile_suffix _, .inl (by omega)⟩

/-- What is left of a text when a statement has been read is an end of it. -/
theorem Statement.next_suffix (text : Text) : (Statement.next text).2 <:+ text := by
  refine List.IsSuffix.trans ?_ (skipExport_suffix text)
  unfold Statement.next
  simp only
  split
  next => exact skipLine_suffix _
  next key afterKey readKey =>
    refine List.IsSuffix.trans ?_ (key_suffix readKey).1
    split
    next stop failed => exact (skipLine_suffix stop).trans (assigned_error_suffix failed)
    next value afterValue read =>
      have comment := (skipComment_suffix afterValue).trans (assigned_suffix read)
      split
      next => exact (skipLine_suffix _).trans comment
      next rest ended => exact (skipLineEnd_suffix ended).trans comment

theorem skipLine_length_lt {c : Char} {rest : Text} (inLine : c ≠ '\n') :
    (skipLine (c :: rest)).length < (c :: rest).length := by
  have := length_dropWhile_le (· != '\n') rest
  simp only [skipLine, List.length_drop, List.length_cons]
  rw [List.dropWhile_cons_of_pos (by simpa using inLine)]
  omega

/-- Reading a statement that starts with no blank consumes at least one character. -/
theorem Statement.next_length_lt {c : Char} {rest : Text} (solid : Text.isBlank c = false) :
    (Statement.next (c :: rest)).2.length < (c :: rest).length := by
  have inLine : c ≠ '\n' := by rintro rfl; revert solid; decide
  have exported := skipExport_suffix (c :: rest)
  have started := exported.length_le
  have skipped : (skipLine (skipExport (c :: rest))).length < (c :: rest).length := by
    rcases Nat.lt_or_eq_of_le started with less | same
    · exact Nat.lt_of_le_of_lt (skipLine_suffix _).length_le less
    · rw [exported.eq_of_length same]; exact skipLine_length_lt inLine
  unfold Statement.next
  simp only
  split
  next => exact skipped
  next key afterKey readKey =>
    rcases (key_suffix readKey).2 with less | ⟨⟨comment, sign⟩, same⟩
    · split
      next stop failed =>
        have := ((skipLine_suffix stop).trans (assigned_error_suffix failed)).length_le
        simp only
        omega
      next value afterValue read =>
        have commented := (skipComment_suffix afterValue).trans (assigned_suffix read)
        split
        next =>
          have := ((skipLine_suffix _).trans commented).length_le
          simp only
          omega
        next rest' ended =>
          have := ((skipLineEnd_suffix ended).trans commented).length_le
          simp only
          omega
    · -- The key is left in place, and the comment takes its sign away.
      rw [sign] at same started
      have plain : assigned? ('#' :: comment) = .ok (none, '#' :: comment) := rfl
      have passed : skipComment ('#' :: comment) = comment.dropWhile (· != '\n') := rfl
      have dropped := List.dropWhile_suffix (l := comment) (· != '\n')
      simp only [List.length_cons] at started
      rw [same, plain]
      simp only [passed]
      split
      next =>
        have := ((skipLine_suffix _).trans dropped).length_le
        simp only [List.length_cons]
        omega
      next rest' ended =>
        have := ((skipLineEnd_suffix ended).trans dropped).length_le
        simp only [List.length_cons]
        omega

end SpaServer.EnvFile
