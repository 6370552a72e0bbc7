import Mathlib.Data.Nat.Digits.Defs
import SpaServer.Proofs.Text.Numeral

/-!
# Which texts are numerals

The grammar of integer numerals, said without a reader: `IsNumeral`. The reader accepts these texts
and no others, and gives each the number that its digits denote in base ten, as `toInt?_eq_some_iff`
puts it. An integer has many numerals besides its decimal one, and `IsSpelling` lists what may be
done to that: blanks around it, a plus sign, leading zeros, underscores, digits of other scripts.
-/

namespace SpaServer.Text

/-- Whether a character is the decimal digit `d` of some script. -/
def IsDigit (c : Char) (d : Nat) : Prop := d < 10 ∧ ∃ first ∈ zeroDigits, c.toNat = first + d

/-- Whether a text is a row of digits with the values of a list, with at most one underscore between
two of them. -/
inductive IsDigits : Text → List Nat → Prop
  | last {c : Char} {d : Nat} (hd : IsDigit c d) : IsDigits [c] [d]
  | next {c : Char} {d : Nat} {text : Text} {ds : List Nat} (hd : IsDigit c d)
      (hrest : IsDigits text ds) : IsDigits (c :: text) (d :: ds)
  | spaced {c : Char} {d : Nat} {text : Text} {ds : List Nat} (hd : IsDigit c d)
      (hrest : IsDigits text ds) : IsDigits (c :: '_' :: text) (d :: ds)

/-- Whether a text may be the sign of a numeral, with what it multiplies the number by. -/
inductive IsSign : Text → Int → Prop
  | none : IsSign [] 1
  | plus : IsSign ['+'] 1
  | minus : IsSign ['-'] (-1)

/-- Whether a text is a numeral, and of which integer. -/
inductive IsNumeral : Text → Int → Prop
  | of {front sign digits back : Text} {factor : Int} {ds : List Nat}
      (hfront : ∀ c ∈ front, isNumeralBlank c = true)
      (hback : ∀ c ∈ back, isNumeralBlank c = true)
      (hsign : IsSign sign factor) (hdigits : IsDigits digits ds) (hlength : ds.length ≤ 4300) :
    IsNumeral (front ++ (sign ++ digits) ++ back)
      (factor * (Nat.ofDigits 10 ds.reverse : Nat))

/-! ### Digits of all scripts -/

/-- The digits of no two scripts overlap. -/
theorem zeroDigit_unique : ∀ first ∈ zeroDigits, ∀ other ∈ zeroDigits,
    first < other + 10 → other < first + 10 → first = other := by
  decide +kernel

theorem digitValue?_eq_some_iff {c : Char} {d : Nat} :
    digitValue? c = some d ↔ IsDigit c d := by
  rw [digitValue?, Option.map_eq_some_iff]
  constructor
  · rintro ⟨first, hfind, rfl⟩
    have hrange := List.find?_some hfind
    simp only [Bool.and_eq_true, decide_eq_true_eq] at hrange
    refine ⟨by omega, first, List.mem_of_find?_eq_some hfind, ?_⟩
    omega
  · rintro ⟨hd, first, hfirst, hc⟩
    have hsome : (zeroDigits.find? fun first =>
        first ≤ c.toNat && c.toNat < first + 10).isSome = true := by
      refine List.find?_isSome.2 ⟨first, hfirst, ?_⟩
      simp only [Bool.and_eq_true, decide_eq_true_eq]
      omega
    obtain ⟨found, hfind⟩ := Option.isSome_iff_exists.1 hsome
    have hfound := List.find?_some hfind
    simp only [Bool.and_eq_true, decide_eq_true_eq] at hfound
    obtain rfl : first = found := zeroDigit_unique first hfirst found
      (List.mem_of_find?_eq_some hfind) (by omega) (by omega)
    exact ⟨first, hfind, by omega⟩

theorem not_isDigit_underscore {d : Nat} : ¬ IsDigit '_' d := by
  have hnone : digitValue? '_' = none := by decide
  intro hd
  rw [← digitValue?_eq_some_iff, hnone] at hd
  simp at hd

theorem IsDigit.not_sign {c : Char} {d : Nat} (hd : IsDigit c d) : c ≠ '+' ∧ c ≠ '-' := by
  have hplus : digitValue? '+' = none := by decide
  have hminus : digitValue? '-' = none := by decide
  rw [← digitValue?_eq_some_iff] at hd
  constructor <;> rintro rfl <;> simp_all

theorem IsDigit.not_blank {c : Char} {d : Nat} (hd : IsDigit c d) : isNumeralBlank c = false := by
  obtain ⟨hd, first, hfirst, hc⟩ := hd
  have hkept : ∀ first ∈ zeroDigits, ∀ d < 10,
      ((0x09 ≤ first + d && first + d ≤ 0x0d) || (0x2000 ≤ first + d && first + d ≤ 0x200a) ||
        [0x20, 0x85, 0xa0, 0x1680, 0x2028, 0x2029, 0x202f, 0x205f, 0x3000].contains
          (first + d)) = false := by
    decide +kernel
  rw [isNumeralBlank, hc]
  exact hkept first hfirst d hd

/-! ### Rows of digits -/

theorem isDigits_of_digits? {text : Text} {ds : List Nat} (hread : digits? text = some ds) :
    IsDigits text ds := by
  fun_induction digits? text generalizing ds with
  | case1 => simp at hread
  | case2 c =>
      obtain ⟨d, hd, rfl⟩ := Option.map_eq_some_iff.1 hread
      exact .last (digitValue?_eq_some_iff.1 hd)
  | case3 c rest d ds' hrest hd ih =>
      obtain rfl := Option.some.inj hread
      exact .spaced (digitValue?_eq_some_iff.1 hd) (ih hrest)
  | case4 => simp at hread
  | case5 c rest _ _ d ds' hrest hd ih =>
      obtain rfl := Option.some.inj hread
      exact .next (digitValue?_eq_some_iff.1 hd) (ih hrest)
  | case6 => simp at hread

theorem IsDigits.head_isDigit {c : Char} {text : Text} {ds : List Nat}
    (hdigits : IsDigits (c :: text) ds) : ∃ d, IsDigit c d := by
  cases hdigits with
  | last hd => exact ⟨_, hd⟩
  | next hd => exact ⟨_, hd⟩
  | spaced hd => exact ⟨_, hd⟩

theorem digits?_of_isDigits {text : Text} {ds : List Nat} (hdigits : IsDigits text ds) :
    digits? text = some ds := by
  induction hdigits with
  | last hd => rw [digits?, digitValue?_eq_some_iff.2 hd]; rfl
  | spaced hd hrest ih => rw [digits?, digitValue?_eq_some_iff.2 hd, ih]
  | @next c d text ds hd hrest ih =>
      cases text with
      | nil => cases hrest
      | cons second text =>
          -- An underscore is no digit, so the row does not go on with one.
          have hsecond : second ≠ '_' := by
            rintro rfl
            obtain ⟨d', hd'⟩ := hrest.head_isDigit
            exact not_isDigit_underscore hd'
          rw [digits?, digitValue?_eq_some_iff.2 hd, ih]
          · simp
          · rintro rest heq
            exact hsecond (List.cons.inj heq).1

theorem digits?_eq_some_iff {text : Text} {ds : List Nat} :
    digits? text = some ds ↔ IsDigits text ds :=
  ⟨isDigits_of_digits?, digits?_of_isDigits⟩

theorem digitsValue_eq (ds : List Nat) : digitsValue ds = Nat.ofDigits 10 ds.reverse := by
  rw [digitsValue, Nat.ofDigits_eq_foldr, List.foldr_reverse]
  simp only [Nat.cast_id, Nat.add_comm]

theorem toNat?_eq_some_iff {text : Text} {n : Nat} :
    toNat? text = some n ↔
      ∃ ds, IsDigits text ds ∧ ds.length ≤ 4300 ∧ n = Nat.ofDigits 10 ds.reverse := by
  rw [toNat?]
  constructor
  · intro hread
    split at hread
    next ds hds =>
      split at hread
      next hlength =>
        obtain rfl := Option.some.inj hread
        exact ⟨ds, digits?_eq_some_iff.1 hds, hlength, digitsValue_eq ds⟩
      next => simp at hread
    next => simp at hread
  · rintro ⟨ds, hdigits, hlength, rfl⟩
    rw [digits?_eq_some_iff.2 hdigits]
    simp only [maxDigits, if_pos hlength, digitsValue_eq]

theorem IsDigits.not_blank {text : Text} {ds : List Nat} (hdigits : IsDigits text ds) :
    ∀ c ∈ text, isNumeralBlank c = false := by
  induction hdigits with
  | last hd => exact List.forall_mem_singleton.2 hd.not_blank
  | next hd hrest ih => exact List.forall_mem_cons.2 ⟨hd.not_blank, ih⟩
  | spaced hd hrest ih =>
      exact List.forall_mem_cons.2 ⟨hd.not_blank, List.forall_mem_cons.2 ⟨by decide, ih⟩⟩

/-! ### Numerals -/

theorem toInt?_cases {text : Text} {n : Int} (hread : toInt? text = some n) :
    ∃ sign digits factor m, trim isNumeralBlank text = sign ++ digits ∧ IsSign sign factor ∧
      toNat? digits = some m ∧ n = factor * m := by
  rw [toInt?] at hread
  split at hread <;>
    simp only [Option.map_eq_some_iff, Option.bind_eq_bind, Option.bind_eq_some_iff,
      Option.pure_def, Option.some.injEq] at hread <;>
    obtain ⟨_, ⟨m, hm, rfl⟩, rfl⟩ := hread
  next rest htrim => exact ⟨['+'], rest, 1, m, htrim, .plus, hm, (one_mul _).symm⟩
  next rest htrim => exact ⟨['-'], rest, -1, m, htrim, .minus, hm, (neg_one_mul _).symm⟩
  next => exact ⟨[], _, 1, m, rfl, .none, hm, (one_mul _).symm⟩

theorem isNumeral_of_toInt? {text : Text} {n : Int} (hread : toInt? text = some n) :
    IsNumeral text n := by
  obtain ⟨front, back, htext, hfront, hback⟩ := exists_trim isNumeralBlank text
  obtain ⟨sign, digits, factor, m, htrim, hsign, hm, rfl⟩ := toInt?_cases hread
  obtain ⟨ds, hdigits, hlength, rfl⟩ := toNat?_eq_some_iff.1 hm
  rw [htext, htrim]
  exact .of hfront hback hsign hdigits hlength

theorem toInt?_of_isNumeral {text : Text} {n : Int} (hnumeral : IsNumeral text n) :
    toInt? text = some n := by
  cases hnumeral with
  | @of front sign digits back factor ds hfront hback hsign hdigits hlength =>
      have hread : toNat? digits = some (Nat.ofDigits 10 ds.reverse) :=
        toNat?_eq_some_iff.2 ⟨ds, hdigits, hlength, rfl⟩
      have hkept : ∀ c ∈ sign ++ digits, isNumeralBlank c = false := by
        intro c hc
        rcases List.mem_append.1 hc with hc | hc
        · cases hsign <;> simp_all <;> decide
        · exact hdigits.not_blank c hc
      rw [toInt?, trim_append hfront (.of_kept hkept) hback]
      cases hsign with
      | plus => simp [hread]
      | minus => simp [hread]
      | none =>
          cases digits with
          | nil => cases hdigits
          | cons c rest =>
              obtain ⟨d, hd⟩ := hdigits.head_isDigit
              rw [List.nil_append]
              split
              next heq => exact absurd (List.cons.inj heq).1 hd.not_sign.1
              next heq => exact absurd (List.cons.inj heq).1 hd.not_sign.2
              next => simp [hread]

/-- **The reader accepts the numerals and no other texts**, each as what its digits denote. -/
theorem toInt?_eq_some_iff {text : Text} {n : Int} : toInt? text = some n ↔ IsNumeral text n :=
  ⟨isNumeral_of_toInt?, toInt?_of_isNumeral⟩

/-! ### Spellings of an integer -/

/-- Whether a row of digits is written anew, each as the same digit of any script and with an
underscore between some of them. -/
inductive Respells : Text → Text → Prop
  | last {c other : Char} {d : Nat} (hc : IsDigit c d) (hother : IsDigit other d) :
    Respells [c] [other]
  | next {c other : Char} {d : Nat} {text text' : Text} (hc : IsDigit c d)
      (hother : IsDigit other d) (hrest : Respells text text') :
    Respells (c :: text) (other :: text')
  | spaced {c other : Char} {d : Nat} {text text' : Text} (hc : IsDigit c d)
      (hother : IsDigit other d) (hrest : Respells text text') :
    Respells (c :: text) (other :: '_' :: text')

/-- Whether a text is the decimal numeral of an integer with blanks around it, with a plus sign if
the integer is not negative, with leading zeros, with digits of other scripts or with underscores,
as long as there are not too many digits. -/
inductive IsSpelling (n : Int) : Text → Prop
  | of {front sign digits back : Text} {zeros : Nat}
      (hfront : ∀ c ∈ front, isNumeralBlank c = true)
      (hback : ∀ c ∈ back, isNumeralBlank c = true)
      (hnegative : n < 0 → sign = ['-']) (hpositive : 0 ≤ n → sign = [] ∨ sign = ['+'])
      (hdigits : Respells (List.replicate zeros '0' ++ ofNat n.natAbs) digits)
      (hlength : zeros + (ofNat n.natAbs).length ≤ 4300) :
    IsSpelling n (front ++ (sign ++ digits) ++ back)

/-- Digits that are written anew keep their values. -/
theorem Respells.exists_digits {text other : Text} (hrespells : Respells text other) :
    ∃ ds, IsDigits text ds ∧ IsDigits other ds := by
  induction hrespells with
  | last hc hother => exact ⟨_, .last hc, .last hother⟩
  | next hc hother _ ih =>
      obtain ⟨ds, htext, hother'⟩ := ih
      exact ⟨_, .next hc htext, .next hother hother'⟩
  | spaced hc hother _ ih =>
      obtain ⟨ds, htext, hother'⟩ := ih
      exact ⟨_, .next hc htext, .spaced hother hother'⟩

/-- Leading zeros do not change what a numeral denotes. -/
theorem digits?_zeros_ofNat (zeros n : Nat) :
    ∃ ds, digits? (List.replicate zeros '0' ++ ofNat n) = some ds ∧
      ds.length = zeros + (ofNat n).length ∧ Nat.ofDigits 10 ds.reverse = n := by
  have hascii : ∀ c ∈ List.replicate zeros '0' ++ ofNat n, c.isDigit = true := by
    intro c hc
    rcases List.mem_append.1 hc with hc | hc
    · rw [List.eq_of_mem_replicate hc]
      decide
    · exact isDigit_of_mem_ofNat hc
  have hne : List.replicate zeros '0' ++ ofNat n ≠ [] :=
    List.append_ne_nil_of_right_ne_nil _ Nat.toDigits_ne_nil
  refine ⟨_, digits?_of_isDigit hne hascii, by simp, ?_⟩
  have hvalue : digitsValue ((ofNat n).map fun c => c.toNat - 48) = n := by
    rw [digitsValue, List.foldl_map]
    exact Nat.ofDigitChars_ten_toDigits
  rw [List.map_append, List.map_replicate, List.reverse_append, List.reverse_replicate,
    show '0'.toNat - 48 = 0 from rfl, Nat.ofDigits_append_replicate_zero, ← digitsValue_eq, hvalue]

/-- Every spelling of an integer is a numeral of it. -/
theorem IsSpelling.isNumeral {n : Int} {text : Text} (hspelling : IsSpelling n text) :
    IsNumeral text n := by
  cases hspelling with
  | @of front sign digits back zeros hfront hback hnegative hpositive hrespells hlength =>
      obtain ⟨ds, hplain, hdigits⟩ := hrespells.exists_digits
      obtain ⟨ds', hread, hcount, hvalue⟩ := digits?_zeros_ofNat zeros n.natAbs
      obtain rfl : ds = ds' := Option.some.inj ((digits?_of_isDigits hplain).symm.trans hread)
      rw [← hcount] at hlength
      rcases Int.lt_or_le n 0 with hn | hn
      · have hminus : n = -1 * (Nat.ofDigits 10 ds.reverse : Nat) := by omega
        rw [hminus, hnegative hn]
        exact .of hfront hback .minus hdigits hlength
      · have hplus : n = 1 * (Nat.ofDigits 10 ds.reverse : Nat) := by omega
        rw [hplus]
        rcases hpositive hn with rfl | rfl
        · exact .of hfront hback .none hdigits hlength
        · exact .of hfront hback .plus hdigits hlength

end SpaServer.Text
