import Mathlib.Data.List.Basic
import SpaServer.Proofs.Text.Trimming
import SpaServer.Proofs.Text.Utf8
import SpaServer.Text.Blank
import SpaServer.Text.Lowercase

/-!
# Lower case and ASCII

Within ASCII the lower-case form of a character is the small letter alone. Beyond ASCII every
lower-case form holds a character beyond ASCII again, and only the Kelvin sign is an exception,
whose form is the letter k. So an ASCII word without that letter is the lower-case form of the texts
that differ from it in the case of ASCII letters and of no others, though the mapping knows all
scripts and may make a text longer: `lower_eq_iff`.
-/

namespace SpaServer.Text

/-- Whether two texts are the same up to the case of ASCII letters. -/
def EqIgnoringCase (text other : Text) : Prop := text.map Char.toLower = other.map Char.toLower

instance (text other : Text) : Decidable (EqIgnoringCase text other) :=
  inferInstanceAs (Decidable (_ = _))

/-- The sign of the unit kelvin, which looks like a capital letter of ASCII. -/
def kelvinSign : Char := Char.ofNat 0x212a

/-! ### Small letters of ASCII -/

theorem toLower_of_foreign {c : Char} (hc : 0x80 ≤ c.toNat) : c.toLower = c := by
  have hcode : c.toNat = c.val.toNat := rfl
  have hbound : 'Z'.val.toNat = 90 := by decide
  refine dif_neg ?_
  rintro ⟨_, hlast⟩
  rw [UInt32.le_iff_toNat_le] at hlast
  omega

/-- What a character has in common with its small letter is a matter of ASCII characters. -/
theorem toLower_induction {motive : Char → Char → Prop} (hsame : ∀ c, motive c c)
    (hascii : ∀ n < 0x80, motive (Char.ofNat n) (Char.ofNat n).toLower) (c : Char) :
    motive c c.toLower := by
  by_cases hc : c.toNat < 0x80
  · exact forall_ascii (motive := fun c => motive c c.toLower) hascii hc
  · rw [toLower_of_foreign (by omega)]
    exact hsame c

theorem isBlank_toLower (c : Char) : isBlank c.toLower = isBlank c :=
  toLower_induction (motive := fun c small => isBlank small = isBlank c) (fun _ => rfl)
    (by decide) c

theorem toLower_lt_iff (c : Char) : c.toLower.toNat < 0x80 ↔ c.toNat < 0x80 :=
  toLower_induction (motive := fun c small => small.toNat < 0x80 ↔ c.toNat < 0x80)
    (fun _ => Iff.rfl) (by decide) c

theorem IsAscii.of_eqIgnoringCase {text other : Text} (hsame : EqIgnoringCase text other)
    (hother : other.IsAscii) : text.IsAscii := by
  intro c hc
  have hmem : c.toLower ∈ other.map Char.toLower := hsame ▸ List.mem_map_of_mem hc
  obtain ⟨d, hd, heq⟩ := List.mem_map.1 hmem
  rw [← toLower_lt_iff, ← heq, toLower_lt_iff]
  exact hother d hd

theorem EqIgnoringCase.trans {text other third : Text} (hsame : EqIgnoringCase text other)
    (hrest : EqIgnoringCase other third) : EqIgnoringCase text third :=
  Eq.trans hsame hrest

theorem EqIgnoringCase.strip {text other : Text} (hsame : EqIgnoringCase text other) :
    EqIgnoringCase (strip text) (strip other) := by
  show (trim isBlank text).map Char.toLower = (trim isBlank other).map Char.toLower
  rw [← trim_map isBlank_toLower, ← trim_map isBlank_toLower, hsame]

/-! ### Lower-case forms -/

theorem lowerChar_of_ascii {c : Char} (hc : c.toNat < 0x80) : lowerChar c = [c.toLower] :=
  forall_ascii (motive := fun c => lowerChar c = [c.toLower]) (by decide) hc

theorem lowerChar_toLower (c : Char) : lowerChar c.toLower = lowerChar c :=
  toLower_induction (motive := fun c small => lowerChar small = lowerChar c) (fun _ => rfl)
    (by decide) c

theorem mem_of_runOf? {n : Nat} {runs : List CaseRun} {run : CaseRun}
    (hrun : runOf? n runs = some run) : run ∈ runs ∧ run.first ≤ n ∧ n ≤ run.last := by
  induction runs with
  | nil => simp [runOf?] at hrun
  | cons first rest ih =>
      rw [runOf?] at hrun
      split at hrun
      · simp at hrun
      · split at hrun
        next hcontains =>
          obtain rfl : first = run := Option.some.inj hrun
          simp only [CaseRun.contains, Bool.and_eq_true, decide_eq_true_eq] at hcontains
          exact ⟨List.mem_cons_self, hcontains.1⟩
        next =>
          obtain ⟨hmem, hrange⟩ := ih hrun
          exact ⟨List.mem_cons_of_mem _ hmem, hrange⟩

/-- No run but that of the Kelvin sign leads from beyond ASCII into it, and none to a code point
that no character has. -/
theorem caseRuns_beyond_ascii : ∀ run ∈ caseRuns, 0x80 ≤ run.last →
    run.first = 0x212a ∧ run.last = 0x212a ∨ 0x80 ≤ run.first + run.shift ∧
      (run.last + run.shift < 0xd800 ∨
        0xdfff < run.first + run.shift ∧ run.last + run.shift < 0x110000) := by
  decide +kernel

/-- **The Kelvin sign is the only character beyond ASCII with a lower-case form in ASCII.** -/
theorem exists_foreign_of_lowerChar {c : Char} (hc : 0x80 ≤ c.toNat) (hkelvin : c ≠ kelvinSign) :
    ∃ d ∈ lowerChar c, 0x80 ≤ d.toNat := by
  rw [lowerChar]
  split
  · exact ⟨Char.ofNat 0x307, by simp, by decide⟩
  · split
    next run hrun =>
      obtain ⟨hmem, hfirst, hlast⟩ := mem_of_runOf? hrun
      rcases caseRuns_beyond_ascii run hmem (by omega) with hsign | ⟨hlow, hvalid⟩
      · have hcode : c.toNat = 0x212a := by omega
        rw [← Char.ofNat_toNat c, hcode] at hkelvin
        exact absurd rfl hkelvin
      · have hcode : (Char.ofNat (c.toNat + run.shift).toNat).toNat =
            (c.toNat + run.shift).toNat := toNat_val_ofNat (by omega)
        refine ⟨_, List.mem_singleton_self _, ?_⟩
        rw [hcode]
        omega
    next => exact ⟨c, List.mem_singleton_self c, hc⟩

example : lowerChar kelvinSign = ['k'] := by decide

/-! ### Texts in lower case -/

theorem lower_of_isAscii {text : Text} (htext : text.IsAscii) :
    lower text = text.map Char.toLower := by
  rw [lower, List.map_eq_flatMap]
  exact List.flatMap_congr fun c hc => lowerChar_of_ascii (htext c hc)

theorem lower_map_toLower (text : Text) : lower (text.map Char.toLower) = lower text := by
  rw [lower, lower, List.flatMap_map]
  exact List.flatMap_congr fun c _ => lowerChar_toLower c

theorem EqIgnoringCase.lower_eq {text other : Text} (hsame : EqIgnoringCase text other) :
    lower text = lower other := by
  rw [← lower_map_toLower text, hsame, lower_map_toLower]

theorem isAscii_of_lower {text : Text} (hascii : (lower text).IsAscii) (hk : 'k' ∉ lower text) :
    text.IsAscii := by
  intro c hc
  have hform : ∀ d ∈ lowerChar c, d ∈ lower text := fun d hd => List.mem_flatMap.2 ⟨c, hc, hd⟩
  by_contra hforeign
  have hkelvin : c ≠ kelvinSign := by
    rintro rfl
    exact hk (hform 'k' (by decide))
  obtain ⟨d, hd, hbeyond⟩ := exists_foreign_of_lowerChar (by omega) hkelvin
  have hsmall := hascii d (hform d hd)
  omega

/-- **An ASCII word without the letter k is the lower-case form of its own spellings in ASCII and of
no other text.** -/
theorem lower_eq_iff {text word : Text} (hword : word.IsAscii)
    (hsmall : word.map Char.toLower = word) (hk : 'k' ∉ word) :
    lower text = word ↔ EqIgnoringCase text word := by
  constructor
  · rintro rfl
    have htext := isAscii_of_lower hword hk
    rw [EqIgnoringCase, hsmall, lower_of_isAscii htext]
  · intro hsame
    rw [hsame.lower_eq, lower_of_isAscii hword, hsmall]

end SpaServer.Text
