import Mathlib.Data.Nat.Digits.Defs
import SpaServer.Proofs.Text.Trimming
import SpaServer.Text.Numeral

/-!
# Numerals that are written and read

The decimal numeral of an integer is read back as that integer unless it has too many digits, and no
numeral that can be read denotes a greater number than those.
-/

namespace SpaServer.Text

/-! ### Digits -/

theorem toNat_of_isDigit {c : Char} (hc : c.isDigit = true) : 48 ≤ c.toNat ∧ c.toNat ≤ 57 := by
  have hval : c.toNat = c.val.toNat := rfl
  have hzero : '0'.val.toNat = 48 ∧ '9'.val.toNat = 57 := by decide
  simp only [Char.isDigit, Bool.and_eq_true, decide_eq_true_eq, UInt32.le_iff_toNat_le,
    ge_iff_le] at hc
  omega

theorem digitValue?_of_isDigit {c : Char} (hc : c.isDigit = true) :
    digitValue? c = some (c.toNat - 48) := by
  have hrange := toNat_of_isDigit hc
  have hzeros : zeroDigits = 48 :: zeroDigits.tail := rfl
  rw [digitValue?, hzeros, List.find?_cons_of_pos, Option.map_some]
  simp only [Bool.and_eq_true, decide_eq_true_eq]
  omega

theorem digitValue?_lt {c : Char} {d : Nat} (hd : digitValue? c = some d) : d < 10 := by
  rw [digitValue?, Option.map_eq_some_iff] at hd
  obtain ⟨first, hfind, rfl⟩ := hd
  have hrange := List.find?_some hfind
  simp only [Bool.and_eq_true, decide_eq_true_eq] at hrange
  omega

theorem digits?_of_isDigit {text : Text} (hne : text ≠ [])
    (hdigits : ∀ c ∈ text, c.isDigit = true) :
    digits? text = some (text.map fun c => c.toNat - 48) := by
  induction text with
  | nil => exact absurd rfl hne
  | cons c rest ih =>
      obtain ⟨hc, hrest⟩ := List.forall_mem_cons.1 hdigits
      cases rest with
      | nil => rw [digits?, digitValue?_of_isDigit hc]; rfl
      | cons next rest =>
          have hnext : next ≠ '_' := by
            rintro rfl
            exact absurd (hrest _ List.mem_cons_self) (by decide)
          rw [digits?, digitValue?_of_isDigit hc, ih (by simp) hrest]
          · rfl
          · simp
          · rintro rest' heq
            exact hnext (List.cons.inj heq).1

theorem mem_digits?_lt {text : Text} {ds : List Nat} (hread : digits? text = some ds) :
    ∀ d ∈ ds, d < 10 := by
  fun_induction digits? text generalizing ds with
  | case1 => simp at hread
  | case2 c =>
      obtain ⟨d, hd, rfl⟩ := Option.map_eq_some_iff.1 hread
      exact List.forall_mem_singleton.2 (digitValue?_lt hd)
  | case3 c rest d ds' hds hd ih | case5 c rest _ _ d ds' hds hd ih =>
      obtain rfl := Option.some.inj hread
      exact List.forall_mem_cons.2 ⟨digitValue?_lt hd, ih hds⟩
  | case4 => simp at hread
  | case6 => simp at hread

theorem digitsValue_lt {ds : List Nat} (hds : ∀ d ∈ ds, d < 10) :
    digitsValue ds < 10 ^ ds.length := by
  have hfold : ∀ n, ds.foldl (fun n d => 10 * n + d) n < (n + 1) * 10 ^ ds.length := by
    induction ds with
    | nil => simp
    | cons d ds ih =>
        intro n
        obtain ⟨hd, hds⟩ := List.forall_mem_cons.1 hds
        calc ds.foldl (fun n d => 10 * n + d) (10 * n + d)
            < (10 * n + d + 1) * 10 ^ ds.length := ih hds _
          _ ≤ ((n + 1) * 10) * 10 ^ ds.length := Nat.mul_le_mul_right _ (by omega)
          _ = (n + 1) * 10 ^ (d :: ds).length := by
              rw [List.length_cons, Nat.pow_succ', Nat.mul_assoc]
  simpa [digitsValue] using hfold 0

/-! ### Natural numbers -/

theorem toNat?_lt {text : Text} {n : Nat} (hread : toNat? text = some n) : n < 10 ^ maxDigits := by
  rw [toNat?] at hread
  split at hread
  · rename_i ds hds
    split at hread
    · rename_i hlength
      obtain rfl := Option.some.inj hread
      exact Nat.lt_of_lt_of_le (digitsValue_lt (mem_digits?_lt hds))
        (Nat.pow_le_pow_right (by decide) hlength)
    · simp at hread
  · simp at hread

theorem isDigit_of_mem_ofNat {n : Nat} {c : Char} (hc : c ∈ ofNat n) : c.isDigit = true :=
  Nat.isDigit_of_mem_toDigits (by decide) (by decide) hc

theorem toNat?_ofNat {n : Nat} (hn : n < 10 ^ maxDigits) : toNat? (ofNat n) = some n := by
  have hdigits : digits? (ofNat n) = some ((ofNat n).map (·.toNat - 48)) :=
    digits?_of_isDigit Nat.toDigits_ne_nil fun _ => isDigit_of_mem_ofNat
  have hlength : (ofNat n).length ≤ maxDigits :=
    (Nat.length_toDigits_le_iff (by decide) (by decide)).2 hn
  have hvalue : digitsValue ((ofNat n).map fun c => c.toNat - 48) = n := by
    rw [digitsValue, List.foldl_map]
    exact Nat.ofDigitChars_ten_toDigits
  rw [toNat?, hdigits]
  simp only [List.length_map, if_pos hlength, hvalue]

/-! ### Integers -/

theorem isNumeralBlank_of_isDigit {c : Char} (hc : c.isDigit = true) :
    isNumeralBlank c = false := by
  have hrange := toNat_of_isDigit hc
  simp only [isNumeralBlank, List.contains_eq_mem, List.mem_cons, List.not_mem_nil, or_false,
    Bool.or_eq_false_iff, Bool.and_eq_false_iff, decide_eq_false_iff_not]
  omega

theorem natAbs_lt_of_toInt? {text : Text} {n : Int} (hread : toInt? text = some n) :
    n.natAbs < 10 ^ maxDigits := by
  have hcases : ∃ m rest, toNat? rest = some m ∧ n.natAbs = m := by
    rw [toInt?] at hread
    split at hread
    all_goals
      simp only [Option.map_eq_some_iff, Option.bind_eq_bind, Option.bind_eq_some_iff,
        Option.pure_def, Option.some.injEq] at hread
      obtain ⟨_, ⟨m, hm, rfl⟩, rfl⟩ := hread
      exact ⟨m, _, hm, by simp⟩
  obtain ⟨m, rest, hm, hn⟩ := hcases
  exact hn ▸ toNat?_lt hm

theorem toInt?_of_unsigned {text : Text} {n : Nat} (hdigits : ∀ c ∈ text, c.isDigit = true)
    (hread : toNat? text = some n) : toInt? text = some n := by
  have htrim : trim isNumeralBlank text = text :=
    trim_of_kept fun c hc => isNumeralBlank_of_isDigit (hdigits c hc)
  rw [toInt?, htrim]
  split
  · exact absurd (hdigits '+' List.mem_cons_self) (by decide)
  · exact absurd (hdigits '-' List.mem_cons_self) (by decide)
  · rw [hread]
    rfl

theorem toInt?_of_minus {text : Text} {n : Nat} (hdigits : ∀ c ∈ text, c.isDigit = true)
    (hread : toNat? text = some n) : toInt? ('-' :: text) = some (-(n : Int)) := by
  have htrim : trim isNumeralBlank ('-' :: text) = '-' :: text :=
    trim_of_kept (List.forall_mem_cons.2
      ⟨by decide, fun c hc => isNumeralBlank_of_isDigit (hdigits c hc)⟩)
  rw [toInt?, htrim]
  simp only [hread]
  rfl

/-- The numeral of an integer is read back, if it has not too many digits. -/
theorem toInt?_ofInt {n : Int} (hn : n.natAbs < 10 ^ maxDigits) : toInt? (ofInt n) = some n := by
  cases n with
  | ofNat n => exact toInt?_of_unsigned (fun _ => isDigit_of_mem_ofNat) (toNat?_ofNat hn)
  | negSucc n => exact toInt?_of_minus (fun _ => isDigit_of_mem_ofNat) (toNat?_ofNat hn)

end SpaServer.Text
