import Mathlib.Data.List.TakeWhile
import SpaServer.EnvFile.Basic

/-!
# Values between quotes

A text is written between quotes with a backslash before the characters that cannot stand for
themselves there, and it is read back as it was: `quoted?_encode` for the value alone, and
`statements_line_append` for a line of a file, whatever follows it. Line feeds, comment signs and
equals signs need no backslash, so one such line may look like many.
-/

namespace SpaServer.EnvFile

inductive Quoting
  | single
  | double
  deriving DecidableEq

namespace Quoting

def mark : Quoting → Char
  | .single => '\''
  | .double => '"'

/-- What the character behind a backslash stands for. -/
def escape? : Quoting → Char → Option Char
  | .single => singleEscape?
  | .double => doubleEscape?

/-- What is written behind a backslash for a character that cannot stand for itself. -/
def code? : Quoting → Char → Option Char
  | .single, c => if c = '\\' ∨ c = '\'' then some c else none
  | .double, c => if c = '\\' ∨ c = '"' then some c else if c = '\r' then some 'r' else none

def encodeChar (quoting : Quoting) (c : Char) : Text :=
  match quoting.code? c with
  | some code => ['\\', code]
  | none => [c]

/-- What is written between the quotes for a text. -/
def encode (quoting : Quoting) (text : Text) : Text := text.flatMap quoting.encodeChar

/-- Whether a text can be written. There is no escape for a carriage return between single quotes,
and as it stands it would be read as a line feed. -/
def Fits : Quoting → Text → Prop
  | .single, text => '\r' ∉ text
  | .double, _ => True

/-- The line that binds a key to a text, without its end. -/
def line (quoting : Quoting) (key text : Text) : Text :=
  key ++ '=' :: quoting.mark :: (quoting.encode text ++ [quoting.mark])

variable {quoting : Quoting}

/-! ### The value -/

theorem escape?_code? {c code : Char} (hcode : quoting.code? c = some code) :
    quoting.escape? code = some c := by
  cases quoting with
  | single =>
      simp only [code?] at hcode
      split at hcode
      next hc => rcases hc with rfl | rfl <;> obtain rfl := Option.some.inj hcode <;> rfl
      next => simp at hcode
  | double =>
      simp only [code?] at hcode
      split at hcode
      next hc => rcases hc with rfl | rfl <;> obtain rfl := Option.some.inj hcode <;> rfl
      next =>
        split at hcode
        next hc =>
          obtain rfl := hc
          obtain rfl := Option.some.inj hcode
          rfl
        next => simp at hcode

theorem plain_of_code?_eq_none {c : Char} (hcode : quoting.code? c = none) :
    c ≠ '\\' ∧ c ≠ quoting.mark := by
  cases quoting <;> simp only [code?, mark] at hcode ⊢ <;> grind

theorem quoted?_plain {quote c : Char} {escape? : Char → Option Char} {rest : Text} (hc : c ≠ '\\')
    (hquote : c ≠ quote) : quoted? quote escape? (c :: rest) =
      (quoted? quote escape? rest).map fun read => (c :: read.1, read.2) := by
  rw [quoted?]
  · rw [if_neg hquote]
    cases quoted? quote escape? rest <;> rfl
  · exact fun heq => absurd heq hc
  · exact fun _ _ heq => absurd heq hc

/-- A text that is written between quotes is read back, whatever follows the closing quote. -/
theorem quoted?_encode (quoting : Quoting) (text rest : Text) :
    quoted? quoting.mark quoting.escape? (quoting.encode text ++ quoting.mark :: rest) =
      some (text, rest) := by
  induction text with
  | nil =>
      have hmark : quoting.mark ≠ '\\' := by cases quoting <;> decide
      rw [encode, List.flatMap_nil, List.nil_append, quoted?]
      · rw [if_pos rfl]
      · exact fun heq => absurd heq hmark
      · exact fun _ _ heq => absurd heq hmark
  | cons c text ih =>
      rw [encode, List.flatMap_cons, ← encode, List.append_assoc, encodeChar]
      cases hcode : quoting.code? c with
      | some code =>
          simp only [List.cons_append, List.nil_append]
          rw [quoted?, ih]
          simp only [escape?_code? hcode]
      | none =>
          obtain ⟨hc, hquote⟩ := plain_of_code?_eq_none hcode
          rw [List.singleton_append, quoted?_plain hc hquote, ih]
          rfl

theorem value?_encode (quoting : Quoting) (text rest : Text) :
    value? (quoting.mark :: (quoting.encode text ++ quoting.mark :: rest)) = .ok (text, rest) := by
  have hblank : isLineBlank quoting.mark = false := by cases quoting <;> decide
  have hread := quoted?_encode quoting text rest
  rw [value?, skipBlanks, List.dropWhile_cons_of_neg (by simp [hblank])]
  cases quoting with
  | single =>
      simp only [mark, escape?] at hread
      simp only [mark, valueAt?, hread, Option.elim]
  | double =>
      simp only [mark, escape?] at hread
      simp only [mark, valueAt?, hread, Option.elim]

end Quoting

/-! ### The line -/

/-- Whether a text can stand before an equals sign as it is. -/
structure IsPlainKey (key : Text) : Prop where
  plain : ∀ c ∈ key, isKeyChar c = true
  ne_nil : key ≠ []
  unquoted : key.head? ≠ some '\''

theorem isKeyChar_iff {c : Char} :
    isKeyChar c = true ↔ c ≠ '=' ∧ c ≠ '#' ∧ Text.isBlank c = false := by
  simp [isKeyChar, and_assoc]

theorem isLineBlank_of_isKeyChar {c : Char} (hc : isKeyChar c = true) : isLineBlank c = false := by
  rw [isLineBlank, (isKeyChar_iff.1 hc).2.2, Bool.false_and]

/-- A key is not taken for the word that may stand before one. -/
theorem skipExport_key {key : Text} (hkey : ∀ c ∈ key, isKeyChar c = true) (rest : Text) :
    skipExport (key ++ '=' :: rest) = key ++ '=' :: rest := by
  rw [skipExport]
  split
  next hprefix =>
    obtain ⟨after, hafter⟩ := List.isPrefixOf_iff_prefix.1 hprefix
    -- The word holds no equals sign, so all of it stands in the key.
    obtain ⟨more, rfl⟩ : ∃ more, key = "export".toList ++ more := by
      rcases List.append_eq_append_iff.1 hafter with ⟨more, hkey, -⟩ | ⟨more, hword, hmore⟩
      · exact ⟨more, hkey⟩
      · cases more with
        | nil => exact ⟨[], by simpa using hword.symm⟩
        | cons next more =>
            obtain ⟨rfl, -⟩ := List.cons.inj hmore
            have hmem : '=' ∈ "export".toList := hword ▸ by simp
            exact absurd hmem (by decide)
    have hdrop : ("export".toList ++ more ++ '=' :: rest).drop 6 = more ++ '=' :: rest := rfl
    rw [hdrop]
    cases more with
    | nil =>
        have hequals : isLineBlank '=' = false := by decide
        simp [hequals]
    | cons c more =>
        have hc : isLineBlank c = false := isLineBlank_of_isKeyChar (hkey c (by simp))
        simp [hc]
  next => rfl

theorem key?_key {key : Text} (hkey : IsPlainKey key) (rest : Text) :
    key? (key ++ '=' :: rest) = some (some key, '=' :: rest) := by
  obtain ⟨hplain, hne, hquote⟩ := hkey
  have htake : (key ++ '=' :: rest).takeWhile isKeyChar = key := by
    rw [List.takeWhile_append_of_pos hplain, List.takeWhile_cons_of_neg (by decide),
      List.append_nil]
  have hdrop : (key ++ '=' :: rest).dropWhile isKeyChar = '=' :: rest := by
    rw [List.dropWhile_append_of_pos hplain, List.dropWhile_cons_of_neg (by decide)]
  obtain ⟨c, key, rfl⟩ := List.exists_cons_of_ne_nil hne
  rw [key?]
  · rw [htake, hdrop]
  · intro after heq
    obtain rfl := (List.cons.inj heq).1
    exact absurd (hplain _ List.mem_cons_self) (by decide)
  · intro after heq
    obtain rfl := (List.cons.inj heq).1
    exact absurd rfl hquote

theorem assigned?_line (quoting : Quoting) (text rest : Text) :
    assigned? ('=' :: quoting.mark :: (quoting.encode text ++ quoting.mark :: rest)) =
      .ok (some text, rest) := by
  have hblank : isLineBlank '=' = false := by decide
  rw [assigned?, skipBlanks, List.dropWhile_cons_of_neg (by simp [hblank])]
  simp only [Quoting.value?_encode]

/-- A line is read as the binding that it was written for, up to the end of the line. -/
theorem next_line {key : Text} (hkey : IsPlainKey key) (quoting : Quoting) (text : Text)
    {ending rest : Text} (hending : skipLineEnd? (skipComment ending) = some rest) :
    Statement.next (quoting.line key text ++ ending) = (.binding key (some text), rest) := by
  have hline : quoting.line key text ++ ending =
      key ++ '=' :: (quoting.mark :: (quoting.encode text ++ quoting.mark :: ending)) := by
    simp [Quoting.line]
  rw [hline, Statement.next, skipExport_key hkey.plain]
  simp only [key?_key hkey, assigned?_line, hending, Option.elim]

/-- Blanks before a statement are left out, over any number of lines. -/
theorem statements_of_start {text : Text} {c : Char} {rest : Text}
    (hstart : text.dropWhile Text.isBlank = c :: rest) : statements text =
      (Statement.next (c :: rest)).1 :: statements (Statement.next (c :: rest)).2 := by
  rw [statements]
  split
  next hnil => rw [hstart] at hnil; simp at hnil
  next c' rest' hcons =>
    rw [hstart] at hcons
    obtain ⟨rfl, rfl⟩ := List.cons.inj hcons
    rfl

theorem statements_of_solid {c : Char} (hc : Text.isBlank c = false) (rest : Text) :
    statements (c :: rest) =
      (Statement.next (c :: rest)).1 :: statements (Statement.next (c :: rest)).2 :=
  statements_of_start (List.dropWhile_cons_of_neg (by simp [hc]))

theorem statements_of_blank {text : Text} (hblank : ∀ c ∈ text, Text.isBlank c = true) :
    statements text = [] := by
  rw [statements]
  split
  next => rfl
  next hcons => rw [List.dropWhile_eq_nil_iff.2 hblank] at hcons; simp at hcons

theorem statements_nil : statements [] = [] := statements_of_blank (by simp)

theorem statements_line {key : Text} (hkey : IsPlainKey key) (quoting : Quoting) (text : Text)
    {ending rest : Text} (hending : skipLineEnd? (skipComment ending) = some rest) :
    statements (quoting.line key text ++ ending) = .binding key (some text) :: statements rest := by
  have hnext := next_line hkey quoting text hending
  obtain ⟨c, key', rfl⟩ := List.exists_cons_of_ne_nil hkey.ne_nil
  have hc : Text.isBlank c = false := (isKeyChar_iff.1 (hkey.plain c List.mem_cons_self)).2.2
  rw [Quoting.line, List.cons_append, List.cons_append] at hnext ⊢
  rw [statements_of_solid hc, hnext]

theorem statements_line_append {key : Text} (hkey : IsPlainKey key) (quoting : Quoting)
    (text rest : Text) :
    statements (quoting.line key text ++ '\n' :: rest) =
      .binding key (some text) :: statements rest :=
  statements_line hkey quoting text rfl

/-! ### The text of a file -/

theorem unifyLineEnds_of_not_mem {text : Text} (hreturn : '\r' ∉ text) :
    unifyLineEnds text = text := by
  fun_induction unifyLineEnds text with
  | case1 => rfl
  | case2 => simp at hreturn
  | case3 => simp at hreturn
  | case4 c rest _ _ ih => rw [ih (List.not_mem_of_not_mem_cons hreturn)]

theorem not_mem_encode {quoting : Quoting} {text : Text} (hfits : quoting.Fits text) :
    '\r' ∉ quoting.encode text := by
  intro hmem
  obtain ⟨c, hc, hmem⟩ := List.mem_flatMap.1 hmem
  cases quoting with
  | single =>
      have hne : c ≠ '\r' := fun heq => hfits (heq ▸ hc)
      simp only [Quoting.encodeChar, Quoting.code?] at hmem
      grind
  | double =>
      simp only [Quoting.encodeChar, Quoting.code?] at hmem
      grind

theorem not_mem_line {quoting : Quoting} {key text : Text} (hkey : ∀ c ∈ key, isKeyChar c = true)
    (hfits : quoting.Fits text) : '\r' ∉ quoting.line key text := by
  have hmark : '\r' ≠ quoting.mark := by cases quoting <;> decide
  have hkey' : '\r' ∉ key := fun hmem => absurd (hkey _ hmem) (by decide)
  simp [Quoting.line, hkey', hmark, not_mem_encode hfits]

end SpaServer.EnvFile
