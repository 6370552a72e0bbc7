import SpaServer.Proofs.Text.Decoding

/-!
# Reading bytes that may be no text

A lenient reader puts a mark in the place of each sequence that encodes no character, and goes on
behind it. It reads every encoded text as what it is. As no such sequence has an ASCII byte in it,
what is read has as many ASCII characters as there were ASCII bytes.
-/

namespace SpaServer

def Text.asciiCount (text : Text) : Nat := text.countP (·.toNat < 0x80)

theorem Text.asciiCount_cons (c : Char) (text : Text) :
    Text.asciiCount (c :: text) = Text.asciiCount [c] + Text.asciiCount text := by
  rw [← List.singleton_append, asciiCount, List.countP_append]
  rfl

namespace Utf8

def asciiCount (bytes : Bytes) : Nat := bytes.countP (·.toNat < 0x80)

/-- What stands for a sequence that encodes no character. -/
def replacement : Char := '\uFFFD'

/-- The text that the bytes encode, with a mark for each sequence that encodes no character. -/
def decodeLenient : Bytes → Text
  | [] => []
  | b :: rest =>
    match lead? b.toNat with
    | none => replacement :: decodeLenient rest
    | some lead =>
      match point lead.low lead.high lead.more lead.bits rest with
      | .error (_, length) => replacement :: decodeLenient (rest.drop length)
      | .ok n => Char.ofNat n :: decodeLenient (rest.drop lead.more)
  termination_by bytes => bytes.length
  decreasing_by
    · exact Nat.lt_succ_self _
    all_goals
      rw [List.length_drop, List.length_cons]
      exact Nat.lt_succ_of_le (Nat.sub_le _ _)

theorem decodeLenient_of_decodeFrom {position : Nat} {bytes : Bytes} {text : Text}
    (hdecode : decodeFrom position bytes = .ok text) : decodeLenient bytes = text := by
  fun_induction decodeFrom position bytes generalizing text with
  | case1 =>
      obtain rfl := Except.ok.inj hdecode
      rw [decodeLenient]
  | case2 => simp at hdecode
  | case3 => simp at hdecode
  | case4 position b rest lead hlead n hpoint text' htail ih =>
      obtain rfl := Except.ok.inj hdecode
      rw [decodeLenient, hlead]
      simp only [hpoint]
      rw [ih htail]
  | case5 => simp at hdecode

theorem decodeLenient_utf8 (text : Text) : decodeLenient text.utf8 = text :=
  decodeLenient_of_decodeFrom (decodeFrom_utf8 0 text)

/-! ### ASCII bytes -/

theorem asciiCount_append (front back : Bytes) :
    asciiCount (front ++ back) = asciiCount front + asciiCount back :=
  List.countP_append

theorem asciiCount_eq_zero {bytes : Bytes} (hbytes : ∀ b ∈ bytes, 0x80 ≤ b.toNat) :
    asciiCount bytes = 0 := by
  rw [asciiCount, List.countP_eq_zero]
  intro b hb hascii
  exact absurd (of_decide_eq_true hascii) (Nat.not_lt.2 (hbytes b hb))

theorem asciiCount_utf8EncodeChar (c : Char) :
    asciiCount (String.utf8EncodeChar c) = Text.asciiCount [c] := by
  have hvalid : c.toNat < 0xd800 ∨ 0xdfff < c.toNat ∧ c.toNat < 0x110000 := c.valid
  rw [String.utf8EncodeChar]
  simp only [show c.val.toNat = c.toNat from rfl, Text.asciiCount, List.countP_singleton]
  generalize c.toNat = n at hvalid
  by_cases hascii : n < 0x80
  · rw [if_pos (Nat.le_of_lt_succ hascii), asciiCount, List.countP_singleton,
      toNat_ofNat_of_lt (by omega)]
  · rw [if_neg (show ¬decide (n < 0x80) = true by simpa using hascii)]
    refine asciiCount_eq_zero fun b hb => ?_
    rw [if_neg (by omega)] at hb
    split at hb
    · simp only [List.mem_cons, List.not_mem_nil, or_false] at hb
      rcases hb with rfl | rfl <;> rw [toNat_ofNat_of_lt (by omega)] <;> omega
    · split at hb
      · simp only [List.mem_cons, List.not_mem_nil, or_false] at hb
        rcases hb with rfl | rfl | rfl <;> rw [toNat_ofNat_of_lt (by omega)] <;> omega
      · simp only [List.mem_cons, List.not_mem_nil, or_false] at hb
        rcases hb with rfl | rfl | rfl | rfl <;> rw [toNat_ofNat_of_lt (by omega)] <;> omega

/-- The bytes that were in order before a fault are following bytes. -/
theorem high_of_point_error {low high more bits length : Nat} {reason : Reason} {bytes : Bytes}
    (hlow : 0x80 ≤ low) (hpoint : point low high more bits bytes = .error (reason, length)) :
    ∀ b ∈ bytes.take length, 0x80 ≤ b.toNat := by
  induction more generalizing low high bits length bytes with
  | zero => simp [point] at hpoint
  | succ more ih =>
      cases bytes with
      | nil => simp
      | cons first rest =>
          rw [point] at hpoint
          split at hpoint
          · rename_i hfirst
            split at hpoint
            · simp at hpoint
            · rename_i found count hrest
              obtain ⟨rfl, rfl⟩ := Prod.mk.inj (Except.error.inj hpoint)
              rw [List.take_succ_cons]
              exact List.forall_mem_cons.2
                ⟨Nat.le_trans hlow hfirst.1, ih (Nat.le_refl _) hrest⟩
          · obtain ⟨-, rfl⟩ := Prod.mk.inj (Except.error.inj hpoint)
            simp

theorem high_of_lead_error {b : UInt8} {lead : Lead} {reason : Reason} {length : Nat}
    {rest : Bytes} (hlead : lead? b.toNat = some lead)
    (hpoint : point lead.low lead.high lead.more lead.bits rest = .error (reason, length)) :
    0x80 ≤ b.toNat ∧ ∀ b ∈ rest.take length, 0x80 ≤ b.toNat := by
  rcases lead?_eq_some_iff.1 hlead with ⟨hb, rfl⟩ | ⟨hb, rfl⟩ | ⟨hb, rfl⟩ | ⟨hb, rfl⟩
  · simp [point] at hpoint
  · exact ⟨by omega, high_of_point_error (Nat.le_refl _) hpoint⟩
  · exact ⟨by omega, high_of_point_error (by simp only; split <;> omega) hpoint⟩
  · exact ⟨by omega, high_of_point_error (by simp only; split <;> omega) hpoint⟩

/-- **What is read has as many ASCII characters as there were ASCII bytes.** -/
theorem asciiCount_decodeLenient (bytes : Bytes) :
    Text.asciiCount (decodeLenient bytes) = asciiCount bytes := by
  have hmark : ∀ text, Text.asciiCount (replacement :: text) = Text.asciiCount text := fun text =>
    List.countP_cons_of_neg (by decide)
  have hskip : ∀ {b : UInt8}, 0x80 ≤ b.toNat → ∀ rest, asciiCount (b :: rest) = asciiCount rest :=
    fun hb rest => List.countP_cons_of_neg (by simpa using hb)
  fun_induction decodeLenient bytes with
  | case1 => rfl
  | case2 b rest hlead ih =>
      have hb : 0x80 ≤ b.toNat := Nat.le_of_not_lt fun hascii => by
        rw [lead?, if_pos hascii] at hlead
        simp at hlead
      rw [hmark, ih, hskip hb]
  | case3 b rest lead hlead reason length hpoint ih =>
      obtain ⟨hb, htaken⟩ := high_of_lead_error hlead hpoint
      have hparts := asciiCount_append (rest.take length) (rest.drop length)
      rw [List.take_append_drop, asciiCount_eq_zero htaken, Nat.zero_add] at hparts
      rw [hmark, ih, hskip hb, hparts]
  | case4 b rest lead hlead n hpoint ih =>
      have hsplit : b :: rest =
          String.utf8EncodeChar (Char.ofNat n) ++ rest.drop lead.more := by
        rw [encode_of_point hlead hpoint, List.cons_append, List.take_append_drop]
      rw [hsplit, asciiCount_append, asciiCount_utf8EncodeChar, Text.asciiCount_cons, ih]

end Utf8

end SpaServer
