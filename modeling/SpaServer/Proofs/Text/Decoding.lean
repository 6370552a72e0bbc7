import SpaServer.Proofs.Text.Utf8

/-!
# Decoding is the inverse of encoding

The decoder gives back the text of its UTF-8 bytes and it accepts no other bytes:
`decode_eq_ok_iff`. So a content that does not decode is the encoding of no text at all.
-/

namespace SpaServer.Utf8

/-! ### Following bytes -/

theorem point_zero {low high bits n : Nat} {bytes : Bytes} :
    point low high 0 bits bytes = .ok n ↔ bits = n := by
  rw [point, Except.ok.injEq]

theorem point_succ {low high more bits n : Nat} {bytes : Bytes} :
    point low high (more + 1) bits bytes = .ok n ↔
      ∃ b rest, bytes = b :: rest ∧ (low ≤ b.toNat ∧ b.toNat ≤ high) ∧
        point 0x80 0xbf more (bits * 64 + (b.toNat - 0x80)) rest = .ok n := by
  cases bytes with
  | nil => simp [point]
  | cons b rest =>
      have hpoint : point low high (more + 1) bits (b :: rest) = .ok n ↔
          (low ≤ b.toNat ∧ b.toNat ≤ high) ∧
            point 0x80 0xbf more (bits * 64 + (b.toNat - 0x80)) rest = .ok n := by
        rw [point]
        by_cases hb : low ≤ b.toNat ∧ b.toNat ≤ high
        · rw [if_pos hb]
          cases point 0x80 0xbf more (bits * 64 + (b.toNat - 0x80)) rest <;> simp [hb]
        · simp [hb]
      rw [hpoint]
      constructor
      · exact fun ⟨hb, hrest⟩ => ⟨b, rest, rfl, hb, hrest⟩
      · rintro ⟨b', rest', heq, hb, hrest⟩
        obtain ⟨rfl, rfl⟩ := List.cons.inj heq
        exact ⟨hb, hrest⟩

/-! ### Lead bytes -/

/-- Which bytes start a sequence of which length. -/
theorem lead?_eq_some_iff {b : Nat} {lead : Lead} : lead? b = some lead ↔
    b < 0x80 ∧ lead = ⟨0, 0x80, 0xbf, b⟩ ∨
      (0xc2 ≤ b ∧ b < 0xe0) ∧ lead = ⟨1, 0x80, 0xbf, b - 0xc0⟩ ∨
      (0xe0 ≤ b ∧ b < 0xf0) ∧ lead =
        ⟨2, if b = 0xe0 then 0xa0 else 0x80, if b = 0xed then 0x9f else 0xbf, b - 0xe0⟩ ∨
      (0xf0 ≤ b ∧ b < 0xf5) ∧ lead =
        ⟨3, if b = 0xf0 then 0x90 else 0x80, if b = 0xf4 then 0x8f else 0xbf, b - 0xf0⟩ := by
  grind [lead?]

/-! ### One character -/

theorem toNat_ofNat_of_lt {n : Nat} (hn : n < 256) : (UInt8.ofNat n).toNat = n :=
  UInt8.toNat_ofNat_of_lt' hn

theorem ofNat_eq_of_toNat {n : Nat} {b : UInt8} (hn : b.toNat = n) : UInt8.ofNat n = b := by
  rw [← hn, UInt8.ofNat_toNat]

/-- The bytes of a character decode to it, whatever follows them. -/
theorem exists_lead_of_encode (c : Char) (rest : Bytes) :
    ∃ b bytes lead, String.utf8EncodeChar c = b :: bytes ∧ lead? b.toNat = some lead ∧
      bytes.length = lead.more ∧
      point lead.low lead.high lead.more lead.bits (bytes ++ rest) = .ok c.toNat := by
  have hvalid : c.toNat < 0xd800 ∨ 0xdfff < c.toNat ∧ c.toNat < 0x110000 := c.valid
  rw [String.utf8EncodeChar]
  simp only [show c.val.toNat = c.toNat from rfl]
  generalize c.toNat = n at hvalid
  -- One case for each number of bytes, and in each the first byte tells it.
  split
  · refine ⟨_, _, _, rfl, lead?_eq_some_iff.2 (Or.inl ⟨?_, rfl⟩), rfl, point_zero.2 ?_⟩ <;>
      simp (disch := omega) only [toNat_ofNat_of_lt]
    omega
  · split
    · refine ⟨_, _, _, rfl, lead?_eq_some_iff.2 (Or.inr (Or.inl ⟨?_, rfl⟩)), rfl,
        point_succ.2 ⟨_, _, rfl, ?_, point_zero.2 ?_⟩⟩ <;>
        simp (disch := omega) only [toNat_ofNat_of_lt] <;> omega
    · split
      · refine ⟨_, _, _, rfl, lead?_eq_some_iff.2 (Or.inr (Or.inr (Or.inl ⟨?_, rfl⟩))), rfl,
          point_succ.2 ⟨_, _, rfl, ⟨?_, ?_⟩, point_succ.2 ⟨_, _, rfl, ?_, point_zero.2 ?_⟩⟩⟩ <;>
          simp (disch := omega) only [toNat_ofNat_of_lt] <;> try split
        all_goals omega
      · refine ⟨_, _, _, rfl, lead?_eq_some_iff.2 (Or.inr (Or.inr (Or.inr ⟨?_, rfl⟩))), rfl,
          point_succ.2 ⟨_, _, rfl, ⟨?_, ?_⟩, point_succ.2 ⟨_, _, rfl, ?_,
            point_succ.2 ⟨_, _, rfl, ?_, point_zero.2 ?_⟩⟩⟩⟩ <;>
          simp (disch := omega) only [toNat_ofNat_of_lt] <;> try split
        all_goals omega

/-- What decodes to a code point are the bytes of its character. -/
theorem encode_of_point {b : UInt8} {rest : Bytes} {lead : Lead} {n : Nat}
    (hlead : lead? b.toNat = some lead)
    (hpoint : point lead.low lead.high lead.more lead.bits rest = .ok n) :
    String.utf8EncodeChar (Char.ofNat n) = b :: rest.take lead.more := by
  rcases lead?_eq_some_iff.1 hlead with ⟨hb, rfl⟩ | ⟨hb, rfl⟩ | ⟨hb, rfl⟩ | ⟨hb, rfl⟩ <;>
    simp only [point_succ, point_zero] at hpoint
  · subst hpoint
    rw [String.utf8EncodeChar, Text.toNat_val_ofNat (by omega)]
    simp only
    rw [if_pos (by omega), ofNat_eq_of_toNat rfl, List.take_zero]
  · obtain ⟨b1, rest, rfl, hb1, rfl⟩ := hpoint
    rw [String.utf8EncodeChar, Text.toNat_val_ofNat (by omega)]
    simp only
    rw [if_neg (by omega), if_pos (by omega), ofNat_eq_of_toNat (b := b) (by omega),
      ofNat_eq_of_toNat (b := b1) (by omega)]
    rfl
  · obtain ⟨b1, rest, rfl, hb1, b2, rest, rfl, hb2, rfl⟩ := hpoint
    have hb1' : 0x80 ≤ b1.toNat ∧ b1.toNat ≤ 0xbf ∧ (b.toNat = 0xe0 → 0xa0 ≤ b1.toNat) ∧
        (b.toNat = 0xed → b1.toNat ≤ 0x9f) := by
      revert hb1
      split <;> split <;> omega
    rw [String.utf8EncodeChar, Text.toNat_val_ofNat (by omega)]
    simp only
    rw [if_neg (by omega), if_neg (by omega), if_pos (by omega),
      ofNat_eq_of_toNat (b := b) (by omega), ofNat_eq_of_toNat (b := b1) (by omega),
      ofNat_eq_of_toNat (b := b2) (by omega)]
    rfl
  · obtain ⟨b1, rest, rfl, hb1, b2, rest, rfl, hb2, b3, rest, rfl, hb3, rfl⟩ := hpoint
    have hb1' : 0x80 ≤ b1.toNat ∧ b1.toNat ≤ 0xbf ∧ (b.toNat = 0xf0 → 0x90 ≤ b1.toNat) ∧
        (b.toNat = 0xf4 → b1.toNat ≤ 0x8f) := by
      revert hb1
      split <;> split <;> omega
    rw [String.utf8EncodeChar, Text.toNat_val_ofNat (by omega)]
    simp only
    rw [if_neg (by omega), if_neg (by omega), if_neg (by omega),
      ofNat_eq_of_toNat (b := b) (by omega), ofNat_eq_of_toNat (b := b1) (by omega),
      ofNat_eq_of_toNat (b := b2) (by omega), ofNat_eq_of_toNat (b := b3) (by omega)]
    rfl

/-! ### Whole texts -/

theorem decodeFrom_utf8 (position : Nat) (text : Text) :
    decodeFrom position text.utf8 = .ok text := by
  induction text generalizing position with
  | nil => rw [Text.utf8, List.flatMap_nil, decodeFrom]
  | cons c text ih =>
      rw [Text.utf8, List.flatMap_cons, ← Text.utf8]
      obtain ⟨b, bytes, lead, hbytes, hlead, hmore, hpoint⟩ :=
        exists_lead_of_encode c (Text.utf8 text)
      rw [hbytes, List.cons_append, decodeFrom, hlead]
      simp only [hpoint]
      rw [List.drop_left' hmore, ih]
      simp only [Char.ofNat_toNat]

theorem utf8_of_decodeFrom {position : Nat} {bytes : Bytes} {text : Text}
    (hdecode : decodeFrom position bytes = .ok text) : text.utf8 = bytes := by
  fun_induction decodeFrom position bytes generalizing text with
  | case1 =>
      obtain rfl := Except.ok.inj hdecode
      rfl
  | case2 => simp at hdecode
  | case3 => simp at hdecode
  | case4 position b rest lead hlead n hpoint text' htail ih =>
      obtain rfl := Except.ok.inj hdecode
      rw [Text.utf8, List.flatMap_cons, ← Text.utf8, encode_of_point hlead hpoint, ih htail,
        List.cons_append, List.take_append_drop]
  | case5 => simp at hdecode

/-- **Decoding is the inverse of encoding.** -/
theorem decode_eq_ok_iff {bytes : Bytes} {text : Text} :
    decode bytes = .ok text ↔ text.utf8 = bytes :=
  ⟨utf8_of_decodeFrom, fun hbytes => hbytes ▸ decodeFrom_utf8 0 text⟩

/-- What does not decode is the encoding of no text. -/
theorem exists_fault_iff {bytes : Bytes} :
    (∃ fault, decode bytes = .error fault) ↔ ∀ text : Text, text.utf8 ≠ bytes := by
  constructor
  · rintro ⟨fault, hfault⟩ text hbytes
    rw [decode_eq_ok_iff.2 hbytes] at hfault
    exact absurd hfault (by simp)
  · intro hnone
    cases hdecode : decode bytes with
    | ok text => exact absurd (decode_eq_ok_iff.1 hdecode) (hnone text)
    | error fault => exact ⟨fault, rfl⟩

end SpaServer.Utf8
