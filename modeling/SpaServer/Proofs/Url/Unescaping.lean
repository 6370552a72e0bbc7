import Mathlib
import SpaServer.Proofs.Text.Lenient
import SpaServer.Proofs.Url.Location

/-!
# What an encoded text means

A percent sign with two hexadecimal digits behind it is an escape and means the byte that they
write. Everything else means itself. To encode a location, or to escape a path in a URL, is to write
some characters as escapes, and this does not change what the text means. Escapes that stand in it
already are not escaped again, so it means itself exactly if there are none.
-/

namespace SpaServer.Percent

open Address (isHex)

/-! ### Reading escapes -/

def hexValue (c : Char) : Nat :=
  if c.isDigit then c.toNat - 48 else if 'a' ≤ c then c.toNat - 87 else c.toNat - 55

/-- The byte that the first two characters of a text write, if they are hexadecimal digits. -/
def digits? : Text → Option UInt8
  | high :: low :: _ =>
    if isHex high && isHex low then some (UInt8.ofNat (16 * hexValue high + hexValue low))
    else none
  | _ => none

/-- The byte of the escape that a character is the beginning of, with the text behind it. -/
def escape? (c : Char) (rest : Text) : Option UInt8 := if c = '%' then digits? rest else none

def decode : Text → Bytes
  | [] => []
  | c :: rest =>
    match escape? c rest with
    | some byte => byte :: decode (rest.drop 2)
    | none => String.utf8EncodeChar c ++ decode rest
  termination_by text => text.length
  decreasing_by
    · rw [List.length_drop, List.length_cons]
      exact Nat.lt_succ_of_le (Nat.sub_le _ _)
    · exact Nat.lt_succ_self _

def read (text : Text) : Text := Utf8.decodeLenient (decode text)

def HasEscape (text : Text) : Prop :=
  ∃ front high low back, text = front ++ '%' :: high :: low :: back ∧ isHex high = true ∧
    isHex low = true

theorem digits?_eq_some_iff {text : Text} {byte : UInt8} : digits? text = some byte ↔
    ∃ high low rest, text = high :: low :: rest ∧ (isHex high = true ∧ isHex low = true) ∧
      UInt8.ofNat (16 * hexValue high + hexValue low) = byte := by
  constructor
  · intro hdigits
    rw [digits?.eq_def] at hdigits
    split at hdigits
    · rename_i high low rest
      split at hdigits
      · rename_i hhex
        exact ⟨high, low, rest, rfl, by simpa using hhex, Option.some.inj hdigits⟩
      · simp at hdigits
    · simp at hdigits
  · rintro ⟨high, low, rest, rfl, ⟨hhigh, hlow⟩, rfl⟩
    rw [digits?, hhigh, hlow]
    rfl

theorem escape?_eq_some_iff {c : Char} {rest : Text} {byte : UInt8} :
    escape? c rest = some byte ↔ c = '%' ∧ digits? rest = some byte := by
  rw [escape?]
  split
  · simp [*]
  · simp [*]

theorem hasEscape_cons_iff {c : Char} {rest : Text} :
    HasEscape (c :: rest) ↔ (∃ byte, escape? c rest = some byte) ∨ HasEscape rest := by
  constructor
  · rintro ⟨front, high, low, back, htext, hhex⟩
    cases front with
    | nil =>
        obtain ⟨rfl, rfl⟩ := List.cons.inj htext
        exact Or.inl ⟨_, escape?_eq_some_iff.2
          ⟨rfl, digits?_eq_some_iff.2 ⟨high, low, back, rfl, hhex, rfl⟩⟩⟩
    | cons first front =>
        exact Or.inr ⟨front, high, low, back, (List.cons.inj htext).2, hhex⟩
  · rintro (⟨byte, hescape⟩ | ⟨front, high, low, back, rfl, hhex⟩)
    · obtain ⟨rfl, hdigits⟩ := escape?_eq_some_iff.1 hescape
      obtain ⟨high, low, back, rfl, hhex, _⟩ := digits?_eq_some_iff.1 hdigits
      exact ⟨[], high, low, back, rfl, hhex⟩
    · exact ⟨c :: front, high, low, back, rfl, hhex⟩

/-- A slash at the end of a text belongs to no escape. -/
theorem hasEscape_append_slash {text : Text} : HasEscape (text ++ ['/']) ↔ HasEscape text := by
  constructor
  · rintro ⟨front, high, low, back, htext, hhigh, hlow⟩
    rcases List.eq_nil_or_concat back with rfl | ⟨init, last, rfl⟩
    · have hlast := congrArg List.getLast? htext
      rw [List.getLast?_concat] at hlast
      obtain rfl : '/' = low := by simpa using hlast
      exact absurd hlow (by decide)
    · have hsplit : front ++ '%' :: high :: low :: (init.concat last) =
          (front ++ '%' :: high :: low :: init) ++ [last] := by simp
      rw [hsplit] at htext
      exact ⟨front, high, low, init, (List.append_inj' htext rfl).1, hhigh, hlow⟩
  · rintro ⟨front, high, low, back, rfl, hhex⟩
    exact ⟨front, high, low, back ++ ['/'], by simp, hhex⟩

theorem isAlphanum_of_isHex {c : Char} (hc : isHex c = true) : c.isAlphanum = true := by
  rw [isHex, Bool.or_eq_true, Bool.or_eq_true, Bool.and_eq_true, Bool.and_eq_true] at hc
  rw [Char.isAlphanum, Char.isAlpha, Bool.or_eq_true, Bool.or_eq_true]
  rcases hc with (hdigit | ⟨hfrom, hto⟩) | ⟨hfrom, hto⟩
  · exact Or.inr hdigit
  · have hlast : c.val ≤ 'f'.val := of_decide_eq_true hto
    refine Or.inl (Or.inr ?_)
    rw [Char.isLower, Bool.and_eq_true]
    exact ⟨hfrom, decide_eq_true (UInt32.le_trans hlast (by decide))⟩
  · have hlast : c.val ≤ 'F'.val := of_decide_eq_true hto
    have hfirst : 'A'.val ≤ c.val := of_decide_eq_true hfrom
    exact Or.inl (Or.inl (decide_eq_true ⟨hfirst, UInt32.le_trans hlast (by decide)⟩))

/-! ### Texts that mean themselves -/

theorem decode_of_not_hasEscape {text : Text} (hnone : ¬HasEscape text) :
    decode text = text.utf8 := by
  fun_induction decode text with
  | case1 => rfl
  | case2 c rest byte hescape ih =>
      exact absurd (hasEscape_cons_iff.2 (Or.inl ⟨byte, hescape⟩)) hnone
  | case3 c rest hescape ih =>
      rw [ih fun hrest => hnone (hasEscape_cons_iff.2 (Or.inr hrest))]
      rfl

/-- An escape has three ASCII characters and means one byte. -/
theorem asciiCount_decode (text : Text) : Utf8.asciiCount (decode text) ≤ text.asciiCount ∧
    (HasEscape text → Utf8.asciiCount (decode text) < text.asciiCount) := by
  fun_induction decode text with
  | case1 =>
      refine ⟨Nat.le_refl _, ?_⟩
      rintro ⟨front, high, low, back, htext, _⟩
      simp at htext
  | case2 c rest byte hescape ih =>
      obtain ⟨rfl, hdigits⟩ := escape?_eq_some_iff.1 hescape
      obtain ⟨high, low, back, rfl, ⟨hhigh, _⟩, _⟩ := digits?_eq_some_iff.1 hdigits
      have hbyte : Utf8.asciiCount (byte :: decode back) ≤ 1 + Utf8.asciiCount (decode back) := by
        rw [Utf8.asciiCount, List.countP_cons, ← Utf8.asciiCount]
        split <;> omega
      have hdigit : Text.asciiCount [high] = 1 := by
        rw [Text.asciiCount, List.countP_singleton,
          if_pos (by simpa using Text.ascii_of_isAlphanum (isAlphanum_of_isHex hhigh))]
      have hpercent : Text.asciiCount ['%'] = 1 := by decide
      have hrest := ih.1
      rw [Text.asciiCount_cons, hpercent, Text.asciiCount_cons high, hdigit,
        Text.asciiCount_cons low]
      simp only [List.drop_succ_cons, List.drop_zero] at hrest ⊢
      omega
  | case3 c rest hescape ih =>
      rw [Utf8.asciiCount_append, Utf8.asciiCount_utf8EncodeChar,
        Text.asciiCount_cons c rest]
      refine ⟨Nat.add_le_add_left ih.1 _, fun hhas => ?_⟩
      rcases hasEscape_cons_iff.1 hhas with ⟨byte, hbyte⟩ | hrest
      · rw [hescape] at hbyte
        simp at hbyte
      · exact Nat.add_lt_add_left (ih.2 hrest) _

/-- **A text means itself exactly if there is no escape in it.** -/
theorem read_eq_self_iff {text : Text} : read text = text ↔ ¬HasEscape text := by
  constructor
  · intro hself hhas
    have hfewer := (asciiCount_decode text).2 hhas
    rw [← Utf8.asciiCount_decodeLenient, ← read, hself] at hfewer
    exact Nat.lt_irrefl _ hfewer
  · intro hnone
    rw [read, decode_of_not_hasEscape hnone, Utf8.decodeLenient_utf8]

/-! ### Writing escapes -/

/-- Whether characters stay as they are or are written as escapes. Percent signs and digits, which
escapes are made of, have to stay. -/
def Escapes (write : Char → Text) : Prop :=
  ∀ c, write c = [c] ∨ (c ≠ '%' ∧ isHex c = false) ∧
    write c = (String.utf8EncodeChar c).flatMap encodeByte

variable {write : Char → Text}

theorem Escapes.of_percent (hwrite : Escapes write) : write '%' = ['%'] :=
  (hwrite '%').resolve_right fun hother => hother.1.1 rfl

theorem Escapes.of_isHex (hwrite : Escapes write) {c : Char} (hc : isHex c = true) :
    write c = [c] :=
  (hwrite c).resolve_right fun hother => by simp [hother.1.2] at hc

theorem hexDigit_spec : ∀ n < 16, isHex (hexDigit n) = true ∧ hexValue (hexDigit n) = n := by
  decide

theorem decode_encodeByte_append (byte : UInt8) (rest : Text) :
    decode (encodeByte byte ++ rest) = byte :: decode rest := by
  have hbyte : byte.toNat < 256 := byte.toNat_lt
  obtain ⟨hhigh, hhighValue⟩ := hexDigit_spec (byte.toNat / 16) (by omega)
  obtain ⟨hlow, hlowValue⟩ := hexDigit_spec (byte.toNat % 16) (by omega)
  have hescape : escape? '%'
      (hexDigit (byte.toNat / 16) :: hexDigit (byte.toNat % 16) :: rest) = some byte := by
    refine escape?_eq_some_iff.2 ⟨rfl, digits?_eq_some_iff.2
      ⟨_, _, _, rfl, ⟨hhigh, hlow⟩, Utf8.ofNat_eq_of_toNat ?_⟩⟩
    rw [hhighValue, hlowValue]
    omega
  rw [encodeByte, List.cons_append, List.cons_append, List.cons_append, List.nil_append, decode,
    hescape]
  rfl

theorem decode_encodeBytes_append (bytes : Bytes) (rest : Text) :
    decode (bytes.flatMap encodeByte ++ rest) = bytes ++ decode rest := by
  induction bytes with
  | nil => rfl
  | cons byte bytes ih =>
      rw [List.flatMap_cons, List.append_assoc, decode_encodeByte_append, ih, List.cons_append]

/-- A digit at the beginning of what was written stood there before. -/
theorem Escapes.eq_cons_of_isHex (hwrite : Escapes write) {text rest : Text} {c : Char}
    (htext : text.flatMap write = c :: rest) (hc : isHex c = true) :
    ∃ back, text = c :: back ∧ back.flatMap write = rest := by
  cases text with
  | nil => simp at htext
  | cons first back =>
      rw [List.flatMap_cons] at htext
      rcases hwrite first with hsame | ⟨_, hbytes⟩
      · rw [hsame, List.singleton_append] at htext
        obtain ⟨rfl, rfl⟩ := List.cons.inj htext
        exact ⟨back, rfl, rfl⟩
      · obtain ⟨byte, bytes, hencoded⟩ :=
          List.exists_cons_of_ne_nil
            (String.utf8EncodeChar_ne_nil : String.utf8EncodeChar first ≠ [])
        rw [hbytes, hencoded] at htext
        obtain ⟨rfl, _⟩ := List.cons.inj htext
        exact absurd hc (by decide)

theorem Escapes.digits?_flatMap (hwrite : Escapes write) (text : Text) :
    digits? (text.flatMap write) = digits? text := by
  apply Option.ext
  intro byte
  rw [digits?_eq_some_iff, digits?_eq_some_iff]
  constructor
  · rintro ⟨high, low, rest, htext, ⟨hhigh, hlow⟩, hbyte⟩
    obtain ⟨back, rfl, hback⟩ := hwrite.eq_cons_of_isHex htext hhigh
    obtain ⟨back, rfl, _⟩ := hwrite.eq_cons_of_isHex hback hlow
    exact ⟨high, low, back, rfl, ⟨hhigh, hlow⟩, hbyte⟩
  · rintro ⟨high, low, rest, rfl, ⟨hhigh, hlow⟩, hbyte⟩
    refine ⟨high, low, rest.flatMap write, ?_, ⟨hhigh, hlow⟩, hbyte⟩
    rw [List.flatMap_cons, List.flatMap_cons, hwrite.of_isHex hhigh, hwrite.of_isHex hlow]
    rfl

/-- **Writing characters as escapes does not change what a text means.** -/
theorem Escapes.decode_flatMap (hwrite : Escapes write) (text : Text) :
    decode (text.flatMap write) = decode text := by
  have hescape? : ∀ c rest, escape? c (rest.flatMap write) = escape? c rest := fun c rest => by
    rw [escape?, escape?, hwrite.digits?_flatMap]
  fun_induction decode text with
  | case1 => rw [List.flatMap_nil, decode]
  | case2 c rest byte hescape ih =>
      obtain ⟨rfl, hdigits⟩ := escape?_eq_some_iff.1 hescape
      obtain ⟨high, low, back, rfl, ⟨hhigh, hlow⟩, _⟩ := digits?_eq_some_iff.1 hdigits
      have hdrop : (List.flatMap write (high :: low :: back)).drop 2 = back.flatMap write := by
        rw [List.flatMap_cons, List.flatMap_cons, hwrite.of_isHex hhigh, hwrite.of_isHex hlow]
        rfl
      rw [List.flatMap_cons, hwrite.of_percent, List.singleton_append, decode, hescape?, hescape]
      simp only [hdrop]
      exact congrArg _ ih
  | case3 c rest hescape ih =>
      rw [List.flatMap_cons]
      rcases hwrite c with hsame | ⟨_, hbytes⟩
      · rw [hsame, List.singleton_append, decode, hescape?, hescape]
        simp only [ih]
      · rw [hbytes, decode_encodeBytes_append, ih]

/-! ### Locations and paths -/

theorem escapes_encodeChar : Escapes encodeChar := by
  intro c
  rw [encodeChar]
  split
  · exact Or.inl rfl
  · rename_i hplain
    refine Or.inr ⟨⟨?_, ?_⟩, rfl⟩
    · rintro rfl
      exact hplain (by decide)
    · rw [Bool.eq_false_iff]
      intro hhex
      exact hplain (by rw [isPlain, isAlphanum_of_isHex hhex, Bool.true_or])

theorem escapes_escapePathChar : Escapes Url.escapePathChar := by
  intro c
  rw [Url.escapePathChar.eq_def]
  split
  · exact Or.inr ⟨by decide, by decide⟩
  · exact Or.inr ⟨by decide, by decide⟩
  · exact Or.inr ⟨by decide, by decide⟩
  · exact Or.inl rfl

theorem read_encode (text : Text) : read (encode text) = read text := by
  rw [read, read, encode, escapes_encodeChar.decode_flatMap]

theorem mem_encode {text : Text} {c : Char} (hc : c ∈ encode text) :
    c ∈ text ∧ isPlain c = true ∨ c = '%' ∨ isHex c = true := by
  rw [encode, List.mem_flatMap] at hc
  obtain ⟨origin, horigin, hc⟩ := hc
  rw [encodeChar] at hc
  split at hc
  · rename_i hplain
    rw [List.mem_singleton] at hc
    subst hc
    exact Or.inl ⟨horigin, hplain⟩
  · obtain ⟨byte, _, hc⟩ := List.mem_flatMap.1 hc
    have hbyte : byte.toNat < 256 := byte.toNat_lt
    simp only [encodeByte, List.mem_cons, List.not_mem_nil, or_false] at hc
    rcases hc with rfl | rfl | rfl
    · exact Or.inr (Or.inl rfl)
    · exact Or.inr (Or.inr (hexDigit_spec _ (by omega)).1)
    · exact Or.inr (Or.inr (hexDigit_spec _ (by omega)).1)

theorem ascii_of_isPlain {c : Char} (hc : isPlain c = true) : c.toNat < 0x80 := by
  rw [isPlain, Bool.or_eq_true] at hc
  rcases hc with hc | hc
  · exact Text.ascii_of_isAlphanum hc
  · have hall : "_.-~:/%#?=@[]!$&'()*+,;".toList.all (·.toNat < 0x80) = true := by decide
    exact Text.isAscii_of_all hall c (by simpa using hc)

theorem isAscii_encode (text : Text) : (encode text).IsAscii := by
  intro c hc
  rcases mem_encode hc with ⟨_, hplain⟩ | rfl | hhex
  · exact ascii_of_isPlain hplain
  · decide
  · exact Text.ascii_of_isAlphanum (isAlphanum_of_isHex hhex)

end SpaServer.Percent
