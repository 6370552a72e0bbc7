import SpaServer.Text.Utf8

/-!
# Encoded texts

No two texts have the same bytes, and a text of ASCII characters has as many bytes as characters.
-/

namespace SpaServer.Text

theorem utf8_injective {text other : Text} (hbytes : text.utf8 = other.utf8) : text = other := by
  have hstrings : String.ofList text = String.ofList other := by
    rw [← String.toByteArray_inj, String.toByteArray_ofList, String.toByteArray_ofList]
    exact congrArg List.toByteArray hbytes
  exact String.ofList_inj.1 hstrings

theorem toNat_val_ofNat {n : Nat} (hn : n < 0xd800 ∨ 0xdfff < n ∧ n < 0x110000) :
    (Char.ofNat n).val.toNat = n := by
  rw [Char.ofNat, dif_pos hn]
  rfl

/-! ### ASCII -/

/-- A fact about the ASCII characters, checked code by code. -/
theorem forall_ascii {motive : Char → Prop} (hcodes : ∀ n < 0x80, motive (Char.ofNat n)) {c : Char}
    (hc : c.toNat < 0x80) : motive c := by
  have hself := hcodes c.toNat hc
  rwa [Char.ofNat_toNat] at hself

theorem ascii_of_isAlphanum {c : Char} (hc : c.isAlphanum = true) : c.toNat < 0x80 := by
  have hval : c.toNat = c.val.toNat := rfl
  have hlast : 'Z'.val.toNat = 90 ∧ 'z'.val.toNat = 122 ∧ '9'.val.toNat = 57 := by decide
  delta Char.isAlphanum Char.isAlpha Char.isUpper Char.isLower Char.isDigit at hc
  simp only [Bool.or_eq_true, Bool.and_eq_true, decide_eq_true_eq, UInt32.le_iff_toNat_le,
    ge_iff_le] at hc
  omega

def IsAscii (text : Text) : Prop := ∀ c ∈ text, c.toNat < 0x80

theorem isAscii_of_all {text : Text} (htext : text.all (·.toNat < 0x80) = true) : text.IsAscii :=
  fun c hc => of_decide_eq_true (List.all_eq_true.1 htext c hc)

theorem IsAscii.append {front back : Text} (hfront : front.IsAscii) (hback : back.IsAscii) :
    IsAscii (front ++ back) := by
  intro c hc
  rcases List.mem_append.1 hc with hc | hc
  · exact hfront c hc
  · exact hback c hc

theorem IsAscii.cons {c : Char} {text : Text} (hc : c.toNat < 0x80) (htext : text.IsAscii) :
    IsAscii (c :: text) :=
  List.forall_mem_cons.2 ⟨hc, htext⟩

theorem isAscii_ofNat (n : Nat) : IsAscii (ofNat n) := by
  intro c hc
  have hdigit := Nat.isDigit_of_mem_toDigits (by decide) (by decide) hc
  exact ascii_of_isAlphanum (by simp [Char.isAlphanum, hdigit])

theorem IsAscii.length_utf8 {text : Text} (hascii : text.IsAscii) :
    text.utf8.length = text.length := by
  induction text with
  | nil => rfl
  | cons c text ih =>
      obtain ⟨hc, htext⟩ := List.forall_mem_cons.1 hascii
      have hsize : c.utf8Size = 1 := by
        rw [Char.utf8Size_eq_one_iff, UInt32.le_iff_toNat_le]
        exact Nat.le_of_lt_succ hc
      rw [utf8, List.flatMap_cons, List.length_append, String.length_utf8EncodeChar, hsize, ← utf8,
        ih htext, List.length_cons, Nat.add_comm]

end SpaServer.Text
