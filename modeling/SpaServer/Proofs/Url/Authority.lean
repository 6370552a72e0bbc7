import SpaServer.Proofs.Text.Cutting
import SpaServer.Proofs.Text.Utf8
import SpaServer.Url.Basic

/-!
# Authorities survive being taken apart

What has the form of an authority passes the check that every URL is put to, and holds none of the
characters at which a URL is taken apart. So a client that names a host, or a server that listens on
one, never keeps the path of a request from being read.
-/

namespace SpaServer

/-! ### Addresses -/

namespace Address

theorem isGroup_of_sideGroups? {parts : List Text} {n : Nat} (hside : sideGroups? parts = some n) :
    ∀ part ∈ parts, part = [] ∨ isGroup part = true := by
  intro part hpart
  rw [sideGroups?] at hside
  split at hside
  · rename_i hempty
    rw [hempty, List.mem_singleton] at hpart
    exact Or.inl hpart
  · split at hside
    · rename_i hgroups
      exact Or.inr (List.all_eq_true.1 hgroups part hpart)
    · simp at hside

theorem isGroup_of_areGroups {parts : List Text} (hgroups : areGroups parts = true) :
    ∀ part ∈ parts, part = [] ∨ isGroup part = true := by
  intro part hpart
  cases parts with
  | nil => simp at hpart
  | cons first rest =>
      rw [areGroups] at hgroups
      split at hgroups
      · rename_i gap next back hrest
        have hgap : gap = [] := by simpa using Text.eq_false_of_dropWhile hrest
        split at hgroups
        · rename_i n m hfront hback
          rw [← List.takeWhile_append_dropWhile (p := (· != [])) (l := rest), hrest, hgap,
            ← List.cons_append] at hpart
          rcases List.mem_append.1 hpart with hpart | hpart
          · exact isGroup_of_sideGroups? hfront part hpart
          · rcases List.mem_cons.1 hpart with rfl | hpart
            · exact Or.inl rfl
            · exact isGroup_of_sideGroups? hback part hpart
        · simp at hgroups
      · rw [Bool.and_eq_true] at hgroups
        exact Or.inr (List.all_eq_true.1 hgroups.2 part hpart)

theorem mem_embedIpv4 {parts : List Text} {part : Text} (hpart : part ∈ parts) :
    part ∈ embedIpv4 parts ∨ isIpv4 part = true := by
  rw [embedIpv4]
  cases hlast : parts.getLast? with
  | none => exact Or.inl (by simpa using hpart)
  | some last =>
      rw [Option.any_some]
      split
      · rename_i hipv4
        obtain ⟨front, rfl⟩ := List.getLast?_eq_some_iff.1 hlast
        rw [List.dropLast_concat]
        rcases List.mem_append.1 hpart with hpart | hpart
        · exact Or.inl (List.mem_append_left _ hpart)
        · rw [List.mem_singleton.1 hpart]
          exact Or.inr hipv4
      · exact Or.inl hpart

def isAddressChar (c : Char) : Bool := isHex c || c == ':' || c == '.'

theorem isAddressChar_of_isIpv4 {text : Text} (htext : isIpv4 text = true) :
    ∀ c ∈ text, c = '.' ∨ c.isDigit = true := by
  intro c hc
  rw [isIpv4, Bool.and_eq_true] at htext
  rcases Text.mem_splitOn '.' hc with rfl | ⟨piece, hpiece, hc⟩
  · exact Or.inl rfl
  · have hoctet := List.all_eq_true.1 htext.2 piece hpiece
    simp only [isOctet, Bool.and_eq_true] at hoctet
    exact Or.inr (List.all_eq_true.1 hoctet.1.1.1.2 c hc)

theorem isAddressChar_of_isIpv6 {text : Text} (htext : isIpv6 text = true) :
    ∀ c ∈ text, isAddressChar c = true := by
  intro c hc
  rcases Text.mem_splitOn ':' hc with rfl | ⟨piece, hpiece, hc⟩
  · decide
  · rcases mem_embedIpv4 hpiece with hpiece | hpiece
    · rcases isGroup_of_areGroups htext piece hpiece with rfl | hgroup
      · simp at hc
      · simp only [isGroup, Bool.and_eq_true] at hgroup
        simp [isAddressChar, List.all_eq_true.1 hgroup.2 c hc]
    · rcases isAddressChar_of_isIpv4 hpiece c hc with rfl | hdigit
      · decide
      · simp [isAddressChar, isHex, hdigit]

/-- An IPv6 address has a colon, and no IPv4 address has one. -/
theorem not_isIpv4_of_isIpv6 {text : Text} (htext : isIpv6 text = true) : isIpv4 text = false := by
  rw [Bool.eq_false_iff]
  intro hipv4
  have hcolon : ':' ∉ text := by
    intro hcolon
    rcases isAddressChar_of_isIpv4 hipv4 ':' hcolon with h | h
    · exact absurd h (by decide)
    · exact absurd h (by decide)
  rw [isIpv6, List.splitOn_eq_singleton hcolon] at htext
  rw [embedIpv4, List.getLast?_singleton, Option.any_some, if_pos hipv4,
    List.dropLast_singleton] at htext
  exact absurd htext (by decide)

end Address

/-! ### Characters -/

namespace Authority

/-- Whether the character looks like none at which a URL is taken apart and stays in one. -/
def isSafeChar (c : Char) : Bool :=
  c.toNat < 0x80 && Url.isAuthorityChar c && !Url.isDropped c && c != '@'

theorem isSafeChar_of_ascii {c : Char} {p : Char → Bool} (hc : p c = true) (hascii : c.toNat < 0x80)
    (hmarks : ['/', '?', '#', '\t', '\r', '\n', '@'].all (!p ·) = true) : isSafeChar c = true := by
  have hne : ∀ mark ∈ ['/', '?', '#', '\t', '\r', '\n', '@'], c ≠ mark := by
    rintro mark hmark rfl
    have hnot := List.all_eq_true.1 hmarks c hmark
    rw [hc] at hnot
    simp at hnot
  simp only [List.mem_cons, List.not_mem_nil, or_false, forall_eq_or_imp, forall_eq] at hne
  simp [isSafeChar, Url.isAuthorityChar, Url.isDropped, hascii, hne]

theorem ascii_of_contains {c : Char} {chars : Text} (hc : chars.contains c = true)
    (hascii : chars.all (·.toNat < 0x80) = true) : c.toNat < 0x80 := by
  have hmem := List.contains_iff_mem.1 hc
  exact of_decide_eq_true (List.all_eq_true.1 hascii c hmem)

theorem isSafeChar_of_isAddressChar {c : Char} (hc : Address.isAddressChar c = true) :
    isSafeChar c = true := by
  refine isSafeChar_of_ascii hc ?_ (by decide)
  simp only [Address.isAddressChar, Address.isHex, Bool.or_eq_true, Bool.and_eq_true,
    decide_eq_true_eq, beq_iff_eq, Char.le_def, UInt32.le_iff_toNat_le] at hc
  have hval : c.toNat = c.val.toNat := rfl
  have hlast : 'F'.val.toNat = 70 ∧ 'f'.val.toNat = 102 := by decide
  rcases hc with (((hdigit | hlower) | hupper) | rfl) | rfl
  · exact Text.ascii_of_isAlphanum (by simp [Char.isAlphanum, hdigit])
  · omega
  · omega
  · decide
  · decide

theorem isSafeChar_of_isNameChar {c : Char} (hc : isNameChar c = true) : isSafeChar c = true := by
  refine isSafeChar_of_ascii hc ?_ (by decide)
  rw [isNameChar, Bool.or_eq_true] at hc
  rcases hc with hc | hc
  · exact Text.ascii_of_isAlphanum hc
  · exact ascii_of_contains hc (by decide)

theorem isSafeChar_of_isFutureChar {c : Char} (hc : Address.isFutureChar c = true) :
    isSafeChar c = true := by
  refine isSafeChar_of_ascii hc ?_ (by decide)
  rw [Address.isFutureChar, Bool.or_eq_true] at hc
  rcases hc with hc | hc
  · exact Text.ascii_of_isAlphanum hc
  · exact ascii_of_contains hc (by decide)

/-! ### Authorities -/

theorem isPortPart_cases {port : Text} (hport : isPortPart port = true) :
    port = [] ∨ ∃ digits, port = ':' :: digits ∧ ∀ c ∈ digits, c.isDigit = true := by
  cases port with
  | nil => exact Or.inl rfl
  | cons first digits =>
      rw [isPortPart.eq_def] at hport
      split at hport
      · rename_i hnil
        simp at hnil
      · rename_i found hfound
        obtain ⟨rfl, rfl⟩ := List.cons.inj hfound
        simp only [isPort, Bool.and_eq_true] at hport
        exact Or.inr ⟨digits, rfl, List.all_eq_true.1 hport.1.1.2⟩
      · simp at hport

theorem isValid_cases {text : Text} (hvalid : isValid text = true) :
    (∃ address port, text = '[' :: (address ++ ']' :: port) ∧ ']' ∉ address ∧
      isPortPart port = true ∧ (Address.isIpv6 address = true ∨
        Address.isPlainFuture address = true)) ∨
    ∃ name port, text = name ++ port ∧ name ≠ [] ∧ isPortPart port = true ∧
      ∀ c ∈ name, isNameChar c = true := by
  rw [isValid.eq_def] at hvalid
  split at hvalid
  · rename_i rest
    split at hvalid
    · rename_i address port hcut
      rw [Bool.and_eq_true, Bool.or_eq_true] at hvalid
      have hmark : ']' ∉ address := by
        rw [← show (Text.cut ']' rest).1 = address by rw [hcut]]
        exact Text.not_mem_cut
      exact Or.inl ⟨address, port, by rw [Text.eq_append_of_cut hcut], hmark, hvalid.2, hvalid.1⟩
    · simp at hvalid
  · rw [Bool.and_eq_true, Bool.not_eq_true', List.isEmpty_eq_false_iff] at hvalid
    exact Or.inr ⟨_, _, List.takeWhile_append_dropWhile.symm, hvalid.1, hvalid.2,
      List.all_eq_true.1 List.all_takeWhile⟩

theorem ne_nil_of_isValid {text : Text} (hvalid : isValid text = true) : text ≠ [] := by
  rcases isValid_cases hvalid with ⟨address, port, rfl, _⟩ | ⟨name, port, rfl, hname, _⟩
  · simp
  · exact List.append_ne_nil_of_left_ne_nil hname port

theorem isNameChar_of_isPortPart {port : Text} (hport : isPortPart port = true) :
    ∀ c ∈ port, isNameChar c = true ∨ c = ':' := by
  intro c hc
  rcases isPortPart_cases hport with rfl | ⟨digits, rfl, hdigits⟩
  · simp at hc
  · rcases List.mem_cons.1 hc with rfl | hc
    · exact Or.inr rfl
    · exact Or.inl (by simp [isNameChar, Char.isAlphanum, hdigits c hc])

theorem isSafeChar_of_isPortPart {port : Text} (hport : isPortPart port = true) :
    ∀ c ∈ port, isSafeChar c = true := by
  intro c hc
  rcases isNameChar_of_isPortPart hport c hc with hname | rfl
  · exact isSafeChar_of_isNameChar hname
  · decide

theorem isSafeChar_of_isValid {text : Text} (hvalid : isValid text = true) :
    ∀ c ∈ text, isSafeChar c = true := by
  intro c hc
  rcases isValid_cases hvalid with ⟨address, port, rfl, _, hport, haddress⟩ |
    ⟨name, port, rfl, _, hport, hname⟩
  · rcases List.mem_cons.1 hc with rfl | hc
    · decide
    · rcases List.mem_append.1 hc with hc | hc
      · rcases haddress with haddress | haddress
        · exact isSafeChar_of_isAddressChar (Address.isAddressChar_of_isIpv6 haddress c hc)
        · rw [Address.isPlainFuture, Bool.and_eq_true] at haddress
          exact isSafeChar_of_isFutureChar (List.all_eq_true.1 haddress.2 c hc)
      · rcases List.mem_cons.1 hc with rfl | hc
        · decide
        · exact isSafeChar_of_isPortPart hport c hc
  · rcases List.mem_append.1 hc with hc | hc
    · exact isSafeChar_of_isNameChar (hname c hc)
    · exact isSafeChar_of_isPortPart hport c hc

theorem no_lookalikes {text : Text} (hsafe : ∀ c ∈ text, isSafeChar c = true) :
    text.any (lookalikes.contains ·.toNat) = false := by
  rw [List.any_eq_false]
  intro c hc hlook
  have hc := hsafe c hc
  simp only [isSafeChar, Bool.and_eq_true, decide_eq_true_eq] at hc
  have hall : ∀ n ∈ lookalikes, 0x80 ≤ n := by decide
  have hlow := hall c.toNat (List.contains_iff_mem.1 hlook)
  omega

theorem checkHost_address {address : Text}
    (haddress : Address.isIpv6 address = true ∨ Address.isPlainFuture address = true) :
    checkHost address = .ok () := by
  rw [checkHost]
  rcases haddress with haddress | haddress
  · have hchars := Address.isAddressChar_of_isIpv6 haddress
    have hfirst : address.head? ≠ some 'v' := by
      intro hv
      exact absurd (hchars 'v' (List.mem_of_head? hv)) (by decide)
    have hzone : '%' ∉ address := fun hmark => absurd (hchars '%' hmark) (by decide)
    have hzoned : Address.isZonedIpv6 address = true := by
      rw [Address.isZonedIpv6, Text.cut_of_not_mem hzone]
      exact haddress
    rw [if_neg hfirst, Address.not_isIpv4_of_isIpv6 haddress, if_neg Bool.false_ne_true,
      if_pos hzoned]
  · rw [Address.isPlainFuture, Bool.and_eq_true] at haddress
    have hfirst : address.head? = some 'v' := by
      have hfuture := haddress.1
      rw [Address.isFuture.eq_def] at hfuture
      split at hfuture
      · rfl
      · simp at hfuture
    rw [if_pos hfirst, if_pos haddress.1]

theorem checkBrackets_of_address {address port : Text} (hmark : ']' ∉ address)
    (hport : isPortPart port = true)
    (haddress : Address.isIpv6 address = true ∨ Address.isPlainFuture address = true)
    (hsafe : ∀ c ∈ '[' :: (address ++ ']' :: port), isSafeChar c = true) :
    checkBrackets ('[' :: (address ++ ']' :: port)) = .ok () := by
  have hplace : ∀ c ∈ ('[' :: (address ++ ']' :: port)).reverse, (c != '@') = true := by
    intro c hc
    have hc := hsafe c (List.mem_reverse.1 hc)
    rw [isSafeChar, Bool.and_eq_true] at hc
    exact hc.2
  have hopen : Text.cut '[' ('[' :: (address ++ ']' :: port)) =
      ([], some (address ++ ']' :: port)) :=
    Text.cut_append _ (show '[' ∉ ([] : Text) from List.not_mem_nil)
  have hclose := Text.cut_append port hmark
  simp only [checkBrackets, List.takeWhile_eq_self_iff.2 hplace, List.reverse_reverse, hopen,
    hclose, Option.bind_some]
  rcases isPortPart_cases hport with rfl | ⟨digits, rfl, _⟩
  · exact checkHost_address haddress
  · exact checkHost_address haddress

/-- **What has the form of an authority passes the check.** -/
theorem check_of_isValid {text : Text} (hvalid : isValid text = true) : check text = .ok () := by
  have hsafe := isSafeChar_of_isValid hvalid
  rw [check, no_lookalikes hsafe]
  rcases isValid_cases hvalid with ⟨address, port, rfl, hmark, hport, haddress⟩ |
    ⟨name, port, rfl, _, hport, hname⟩
  · have hbrackets := checkBrackets_of_address hmark hport haddress hsafe
    have hopen : ('[' :: (address ++ ']' :: port)).contains '[' = true := by simp
    have hclose : ('[' :: (address ++ ']' :: port)).contains ']' = true := by simp
    rw [hopen, hclose, if_pos rfl, hbrackets]
    rfl
  · have hchars : ∀ c ∈ name ++ port, isNameChar c = true ∨ c = ':' := by
      intro c hc
      rcases List.mem_append.1 hc with hc | hc
      · exact Or.inl (hname c hc)
      · exact isNameChar_of_isPortPart hport c hc
    have hopen : (name ++ port).contains '[' = false := by
      rw [List.contains_eq_mem, decide_eq_false_iff_not]
      intro hmem
      exact absurd (hchars '[' hmem) (by decide)
    have hclose : (name ++ port).contains ']' = false := by
      rw [List.contains_eq_mem, decide_eq_false_iff_not]
      intro hmem
      exact absurd (hchars ']' hmem) (by decide)
    rw [hopen, hclose]
    rfl

/-- An authority that does not keep the rest of its URL from being read. -/
structure Readable (authority : Text) : Prop where
  ne_nil : authority ≠ []
  safe : ∀ c ∈ authority, isSafeChar c = true
  accepted : check authority = .ok ()

theorem readable_of_isValid {text : Text} (hvalid : isValid text = true) : Readable text :=
  ⟨ne_nil_of_isValid hvalid, isSafeChar_of_isValid hvalid, check_of_isValid hvalid⟩

end Authority

end SpaServer
