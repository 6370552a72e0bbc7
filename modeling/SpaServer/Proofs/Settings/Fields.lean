import Mathlib
import SpaServer.Proofs.Text.Literal
import SpaServer.Settings.Basic

/-!
# What a field makes of its value

A port takes the integer that its value stands for and a level the one that its value names; any
other value leaves them at their defaults. The deployment and the host have to be texts. `IsMadeOf`
says this of all four fields, and settings are put together from values exactly if they are made of
them. What is left are the values that are refused: those of the two text fields that are no texts,
those of the level that hold an integer too long to be written, and a port that is infinite.
-/

namespace SpaServer

/-! ### Integers -/

namespace Binary64

/-- The number that a significand and an exponent stand for. -/
def toRat (significand exponent : Int) : ℚ := significand * 2 ^ exponent

/-- A number without what stands behind its point. -/
def integerPart (x : ℚ) : Int := if 0 ≤ x then ⌊x⌋ else ⌈x⌉

theorem tdiv_eq_integerPart (n : Int) {d : Nat} (hd : 0 < d) :
    n.tdiv d = integerPart ((n : ℚ) / (d : ℚ)) := by
  have hpos : (0 : ℚ) < d := by exact_mod_cast hd
  rw [integerPart]
  split
  next hx =>
    have hn : 0 ≤ n := by
      have hscaled := mul_nonneg hx hpos.le
      rw [div_mul_cancel₀ _ hpos.ne'] at hscaled
      exact_mod_cast hscaled
    rw [Int.tdiv_eq_ediv_of_nonneg hn, Rat.floor_intCast_div_natCast]
  next hx =>
    have hn : n < 0 := by
      have hscaled := (div_lt_iff₀ hpos).1 (not_le.1 hx)
      rw [zero_mul] at hscaled
      exact_mod_cast hscaled
    have hneg : -((n : ℚ) / d) = ((-n : Int) : ℚ) / d := by
      rw [Int.cast_neg, neg_div]
    rw [← neg_neg ((n : ℚ) / d), Int.ceil_neg, hneg, Rat.floor_intCast_div_natCast,
      ← Int.tdiv_eq_ediv_of_nonneg (by omega), Int.neg_tdiv, neg_neg]

/-- The integer part that is read is that of the number. -/
theorem truncate_eq (significand exponent : Int) :
    truncate significand exponent = integerPart (toRat significand exponent) := by
  cases exponent with
  | ofNat k =>
      have hwhole : toRat significand (Int.ofNat k) =
          ((significand * (Nat.pow 2 k : Nat) : Int) : ℚ) := by
        simp [toRat]
      rw [truncate, integerPart, hwhole, Int.floor_intCast, Int.ceil_intCast, ite_self]
  | negSucc k =>
      have hpart : toRat significand (Int.negSucc k) =
          (significand : ℚ) / ((Nat.pow 2 (k + 1) : Nat) : ℚ) := by
        simp [toRat, zpow_negSucc, div_eq_mul_inv]
      have hpos : 0 < Nat.pow 2 (k + 1) := Nat.pow_pos (by decide)
      rw [truncate, hpart, tdiv_eq_integerPart significand hpos]

end Binary64

namespace Value

inductive StandsFor : Value → Int → Prop
  | text {content : Text} {n : Int} (hnumeral : Text.IsNumeral content n) :
    StandsFor (.text content) n
  | integer (n : Int) : StandsFor (.integer n) n
  | real (significand exponent : Int) : StandsFor (.real (.finite significand exponent))
      (Binary64.integerPart (Binary64.toRat significand exponent))
  | yes : StandsFor (.truth true) 1
  | no : StandsFor (.truth false) 0

theorem toInt?_text (content : Text) :
    (Value.text content).toInt? = (Text.toInt? content).elim (.error .unusable) .ok := rfl

theorem toInt?_eq_ok_iff {value : Value} {n : Int} : value.toInt? = .ok n ↔ value.StandsFor n := by
  constructor
  · intro hread
    cases value with
    | text content =>
        rw [toInt?_text] at hread
        cases hcontent : Text.toInt? content with
        | none => simp [hcontent] at hread
        | some m =>
            obtain rfl : m = n := by simpa [hcontent] using hread
            exact .text (Text.toInt?_eq_some_iff.1 hcontent)
    | integer m =>
        obtain rfl := Except.ok.inj hread
        exact .integer m
    | real x =>
        cases x with
        | finite significand exponent =>
            obtain rfl := Except.ok.inj hread
            rw [Binary64.truncate_eq]
            exact .real significand exponent
        | infinite => simp [toInt?] at hread
        | nan => simp [toInt?] at hread
    | truth b =>
        obtain rfl := Except.ok.inj hread
        cases b with
        | true => exact .yes
        | false => exact .no
    | null | list | object => simp [toInt?] at hread
  · intro hstands
    cases hstands with
    | text hnumeral => rw [toInt?_text, Text.toInt?_eq_some_iff.2 hnumeral]; rfl
    | integer => rfl
    | real significand exponent => rw [← Binary64.truncate_eq]; rfl
    | yes => rfl
    | no => rfl

theorem toInt?_eq_infinite_iff {value : Value} :
    value.toInt? = .error .infinite ↔ value = .real .infinite := by
  constructor
  · intro hread
    cases value with
    | text content =>
        rw [toInt?_text] at hread
        cases hcontent : Text.toInt? content <;> simp [hcontent] at hread
    | real x => cases x <;> simp_all [toInt?]
    | integer | truth | null | list | object => simp [toInt?] at hread
  · rintro rfl
    rfl

/-! ### Integers inside of values -/

inductive Holds : Value → Int → Prop
  | itself (n : Int) : Holds (.integer n) n
  | item {items : List Value} {item : Value} {n : Int} (hitem : item ∈ items)
      (hholds : Holds item n) : Holds (.list items) n
  | member {members : List (Text × Value)} {name : Text} {value : Value} {n : Int}
      (hmember : (name, value) ∈ members) (hholds : Holds value n) : Holds (.object members) n

theorem mem_itemIntegers_of_mem {items : List Value} {item : Value} {n : Int}
    (hitem : item ∈ items) (hn : n ∈ item.integers) : n ∈ itemIntegers items := by
  induction hitem with
  | head rest => exact List.mem_append_left _ hn
  | tail first _ ih => exact List.mem_append_right _ ih

theorem mem_memberIntegers_of_mem {members : List (Text × Value)} {name : Text} {value : Value}
    {n : Int} (hmember : (name, value) ∈ members) (hn : n ∈ value.integers) :
    n ∈ memberIntegers members := by
  induction members with
  | nil => exact absurd hmember List.not_mem_nil
  | cons first rest ih =>
      rcases List.mem_cons.1 hmember with rfl | hmember
      · exact List.mem_append_left _ hn
      · exact List.mem_append_right _ (ih hmember)

mutual

theorem holds_of_mem_integers : ∀ {value : Value} {n : Int}, n ∈ value.integers → value.Holds n
  | .integer m, _, hn => List.mem_singleton.1 hn ▸ .itself m
  | .list _, _, hn =>
    have ⟨_, hitem, hholds⟩ := exists_item_of_mem hn
    .item hitem hholds
  | .object _, _, hn =>
    have ⟨_, _, hmember, hholds⟩ := exists_member_of_mem hn
    .member hmember hholds

theorem exists_item_of_mem : ∀ {items : List Value} {n : Int}, n ∈ itemIntegers items →
    ∃ item ∈ items, item.Holds n
  | item :: rest, n, hn => by
    rcases List.mem_append.1 hn with hn | hn
    · exact ⟨item, List.mem_cons_self, holds_of_mem_integers hn⟩
    · obtain ⟨other, hother, hholds⟩ := exists_item_of_mem hn
      exact ⟨other, List.mem_cons_of_mem item hother, hholds⟩

theorem exists_member_of_mem : ∀ {members : List (Text × Value)} {n : Int},
    n ∈ memberIntegers members → ∃ name value, (name, value) ∈ members ∧ value.Holds n
  | (name, value) :: rest, n, hn => by
    rcases List.mem_append.1 hn with hn | hn
    · exact ⟨name, value, List.mem_cons_self, holds_of_mem_integers hn⟩
    · obtain ⟨other, found, hmember, hholds⟩ := exists_member_of_mem hn
      exact ⟨other, found, List.mem_cons_of_mem _ hmember, hholds⟩

end

theorem mem_integers_iff {value : Value} {n : Int} : n ∈ value.integers ↔ value.Holds n := by
  refine ⟨holds_of_mem_integers, fun hholds => ?_⟩
  induction hholds with
  | itself n => exact List.mem_singleton_self n
  | item hitem _ ih => exact mem_itemIntegers_of_mem hitem ih
  | member hmember _ ih => exact mem_memberIntegers_of_mem hmember ih

/-- A value cannot be written exactly if an integer in it has too many digits. -/
theorem isWritable_iff {value : Value} :
    value.isWritable = true ↔ ∀ n, value.Holds n → (Nat.digits 10 n.natAbs).length ≤ 4300 := by
  rw [isWritable, List.all_eq_true]
  refine forall_congr' fun n => ?_
  change _ ↔ (value.Holds n → (Nat.digits 10 n.natAbs).length ≤ Text.maxDigits)
  rw [mem_integers_iff, decide_eq_true_eq, Nat.digits_length_le_iff (by decide), Nat.pow_eq]

end Value

namespace Settings

/-! ### Fields -/

/-- Whether a text field becomes a text, its default if it takes no value. -/
inductive IsTextOf (default : Text) : Option Value → Text → Prop
  | given {text : Text} : IsTextOf default (some (.text text)) text
  | absent : IsTextOf default none default

/-- Whether the port becomes an integer: the one that its value stands for, or else the default. It
becomes none if the value is infinite. -/
inductive IsPort : Option Value → Int → Prop
  | usable {value : Value} {n : Int} (hstands : value.StandsFor n) : IsPort (some value) n
  | unusable {value : Value} (hnone : ∀ n, ¬ value.StandsFor n)
      (hfinite : value ≠ .real .infinite) : IsPort (some value) 8080
  | absent : IsPort none 8080

/-- Whether the level becomes the one that its value names, or else the default. It becomes none if
the value cannot be written. -/
inductive IsLevel : Option Value → LogLevel → Prop
  | named {text : Text} {level : LogLevel} (hname : Text.lower (Text.strip text) = level.name) :
    IsLevel (some (.text text)) level
  | unnamed {text : Text} (hnone : ∀ level, Text.lower (Text.strip text) ≠ LogLevel.name level) :
    IsLevel (some (.text text)) .info
  | textless {value : Value} (hvalue : ∀ text, value ≠ .text text)
      (hshort : ∀ n, value.Holds n → (Nat.digits 10 n.natAbs).length ≤ 4300) :
    IsLevel (some value) .info
  | absent : IsLevel none .info

/-- Whether settings are what the values of their fields make of them. -/
structure IsMadeOf (settings : Settings) (raw : Field → Option Value) : Prop where
  deployment : IsTextOf [] (raw .deployment) settings.deployment
  port : IsPort (raw .port) settings.port
  host : IsTextOf "0.0.0.0".toList (raw .host) settings.host
  logLevel : IsLevel (raw .logLevel) settings.logLevel

theorem textOf_eq_some_iff {default text : Text} {value : Option Value} :
    textOf default value = some text ↔ IsTextOf default value text := by
  constructor
  · intro htext
    cases value with
    | none =>
        obtain rfl := Option.some.inj htext
        exact .absent
    | some content =>
        cases content with
        | text content =>
            obtain rfl := Option.some.inj htext
            exact .given
        | integer | real | truth | null | list | object => simp [textOf] at htext
  · intro htext
    cases htext with
    | given => rfl
    | absent => rfl

theorem portOf_eq_none_iff {value : Option Value} :
    portOf value = none ↔ value = some (.real .infinite) := by
  cases value with
  | none => simp [portOf]
  | some value =>
      rw [Option.some.injEq, ← Value.toInt?_eq_infinite_iff, portOf]
      split <;> simp_all

theorem portOf_eq_some_iff {value : Option Value} {port : Int} :
    portOf value = some port ↔ IsPort value port := by
  constructor
  · intro hport
    cases value with
    | none =>
        obtain rfl := Option.some.inj hport
        exact .absent
    | some value =>
        have hfinite : value ≠ .real .infinite := by
          intro hinfinite
          rw [portOf_eq_none_iff.2 (congrArg some hinfinite)] at hport
          simp at hport
        rw [portOf] at hport
        split at hport
        next n hread =>
          obtain rfl := Option.some.inj hport
          exact .usable (Value.toInt?_eq_ok_iff.1 hread)
        next hread =>
          obtain rfl := Option.some.inj hport
          refine .unusable (fun n hstands => ?_) hfinite
          rw [Value.toInt?_eq_ok_iff.2 hstands] at hread
          simp at hread
        next => simp at hport
  · intro hport
    cases hport with
    | usable hstands => rw [portOf, Value.toInt?_eq_ok_iff.2 hstands]
    | @unusable value hnone hfinite =>
        rw [portOf]
        split
        next n hread => exact absurd (Value.toInt?_eq_ok_iff.1 hread) (hnone n)
        next => rfl
        next hread => exact absurd (Value.toInt?_eq_infinite_iff.1 hread) hfinite
    | absent => rfl

theorem name_injective : ∀ {level other : LogLevel}, level.name = other.name → level = other := by
  intro level other
  cases level <;> cases other <;> decide

theorem ofText?_eq_some_iff {text : Text} {level : LogLevel} :
    LogLevel.ofText? text = some level ↔ Text.lower (Text.strip text) = level.name := by
  rw [LogLevel.ofText?]
  constructor
  · intro hfind
    have hfound := List.find?_some hfind
    exact (beq_iff_eq.1 hfound).symm
  · intro hname
    have hall : level ∈ LogLevel.all := by cases level <;> decide
    have hsome : (LogLevel.all.find? fun level =>
        level.name == Text.lower (Text.strip text)).isSome = true :=
      List.find?_isSome.2 ⟨level, hall, beq_iff_eq.2 hname.symm⟩
    obtain ⟨found, hfind⟩ := Option.isSome_iff_exists.1 hsome
    have hfound := List.find?_some hfind
    obtain rfl := name_injective ((beq_iff_eq.1 hfound).trans hname)
    exact hfind

/-- A value that is no text leaves the level at its default if it can be written. -/
theorem logLevelOf_of_textless {value : Value} (hvalue : ∀ text, value ≠ .text text) :
    logLevelOf (some value) = if value.isWritable then some .info else none := by
  cases value with
  | text text => exact absurd rfl (hvalue text)
  | integer | real | truth | null | list | object => rfl

theorem logLevelOf_eq_some_iff {value : Option Value} {level : LogLevel} :
    logLevelOf value = some level ↔ IsLevel value level := by
  constructor
  · intro hlevel
    cases value with
    | none =>
        obtain rfl := Option.some.inj hlevel
        exact .absent
    | some content =>
        by_cases htext : ∃ text, content = .text text
        · obtain ⟨text, rfl⟩ := htext
          obtain rfl := Option.some.inj hlevel
          cases hnamed : LogLevel.ofText? text with
          | some level => exact .named (ofText?_eq_some_iff.1 hnamed)
          | none =>
              refine .unnamed fun level hname => ?_
              rw [ofText?_eq_some_iff.2 hname] at hnamed
              simp at hnamed
        · have hvalue := not_exists.1 htext
          rw [logLevelOf_of_textless hvalue, Option.ite_none_right_eq_some] at hlevel
          obtain ⟨hwritable, hlevel⟩ := hlevel
          obtain rfl := Option.some.inj hlevel
          exact .textless hvalue (Value.isWritable_iff.1 hwritable)
  · intro hlevel
    cases hlevel with
    | named hname => rw [logLevelOf, ofText?_eq_some_iff.2 hname, Option.getD_some]
    | @unnamed text hnone =>
        have hnamed : LogLevel.ofText? text = none :=
          Option.eq_none_iff_forall_ne_some.2 fun level hlevel =>
            hnone level (ofText?_eq_some_iff.1 hlevel)
        rw [logLevelOf, hnamed]
        rfl
    | textless hvalue hshort =>
        rw [logLevelOf_of_textless hvalue, if_pos (Value.isWritable_iff.2 hshort)]
    | absent => rfl

/-! ### Refused values -/

/-- Whether a field refuses a value. -/
inductive Refuses : Field → Value → Prop
  | deployment {value : Value} (hvalue : ∀ text, value ≠ .text text) : Refuses .deployment value
  | host {value : Value} (hvalue : ∀ text, value ≠ .text text) : Refuses .host value
  | logLevel {value : Value} {n : Int} (hholds : value.Holds n)
      (hlong : 4300 < (Nat.digits 10 n.natAbs).length) : Refuses .logLevel value

theorem textOf_eq_none_iff {default : Text} {value : Option Value} :
    textOf default value = none ↔
      ∃ content, value = some content ∧ ∀ text, content ≠ .text text := by
  cases value with
  | none => simp [textOf]
  | some content => cases content <;> simp [textOf]

theorem logLevelOf_eq_none_iff {value : Option Value} :
    logLevelOf value = none ↔ ∃ content, value = some content ∧ ∃ n, content.Holds n ∧
      4300 < (Nat.digits 10 n.natAbs).length := by
  have hlong : ∀ content : Value, content.isWritable = false ↔
      ∃ n, content.Holds n ∧ 4300 < (Nat.digits 10 n.natAbs).length := by
    intro content
    rw [← Bool.not_eq_true, Value.isWritable_iff]
    push Not
    rfl
  cases value with
  | none => simp [logLevelOf]
  | some content =>
      simp only [Option.some.injEq, exists_eq_left', ← hlong]
      by_cases htext : ∃ text, content = .text text
      · obtain ⟨text, rfl⟩ := htext
        simp [logLevelOf, Value.isWritable, Value.integers]
      · rw [logLevelOf_of_textless (not_exists.1 htext)]
        cases content.isWritable <;> simp

theorem refuses_iff {value : Option Value} {field : Field} :
    refuses value field = true ↔ ∃ content, value = some content ∧ Refuses field content := by
  cases field with
  | deployment =>
      rw [refuses, Option.isNone_iff_eq_none, textOf_eq_none_iff]
      exact exists_congr fun _ => and_congr_right' ⟨.deployment, fun | .deployment hvalue => hvalue⟩
  | port => exact iff_of_false nofun fun ⟨_, _, hrefuses⟩ => nomatch hrefuses
  | host =>
      rw [refuses, Option.isNone_iff_eq_none, textOf_eq_none_iff]
      exact exists_congr fun _ => and_congr_right' ⟨.host, fun | .host hvalue => hvalue⟩
  | logLevel =>
      rw [refuses, Option.isNone_iff_eq_none, logLevelOf_eq_none_iff]
      refine exists_congr fun _ => and_congr_right' ⟨?_, ?_⟩
      · exact fun ⟨_, hholds, hlong⟩ => .logLevel hholds hlong
      · exact fun | .logLevel hholds hlong => ⟨_, hholds, hlong⟩

/-! ### Putting the settings together -/

variable {raw : Field → Option Value}

theorem ofValues_infinite (hport : raw .port = some (.real .infinite)) :
    ofValues raw = .error .infinitePort := by
  rw [ofValues, portOf_eq_none_iff.2 hport]

/-- Settings are put together exactly if the values of the fields make them. -/
theorem ofValues_eq_ok_iff {settings : Settings} :
    ofValues raw = .ok settings ↔ settings.IsMadeOf raw := by
  constructor
  · intro hok
    rw [ofValues] at hok
    split at hok
    · simp at hok
    next port hport =>
      split at hok
      next deployment host level hdeployment hhost hlevel =>
        obtain rfl := Except.ok.inj hok
        exact ⟨textOf_eq_some_iff.1 hdeployment, portOf_eq_some_iff.1 hport,
          textOf_eq_some_iff.1 hhost, logLevelOf_eq_some_iff.1 hlevel⟩
      · simp at hok
  · intro hmade
    have hhost : textOf defaultHost (raw .host) = some settings.host :=
      textOf_eq_some_iff.2 hmade.host
    rw [ofValues, portOf_eq_some_iff.2 hmade.port, textOf_eq_some_iff.2 hmade.deployment, hhost,
      logLevelOf_eq_some_iff.2 hmade.logLevel]

/-- Unless the port is infinite, all fields that refuse their values are reported, if there are
any. -/
theorem ofValues_cases (hport : raw .port ≠ some (.real .infinite)) :
    (∃ settings, ofValues raw = .ok settings ∧ ∀ field, refuses (raw field) field = false) ∨
      ofValues raw = .error (.refused (Field.all.filter fun field => refuses (raw field) field)) ∧
        ∃ field, refuses (raw field) field = true := by
  obtain ⟨port, hport⟩ := Option.ne_none_iff_exists'.1 (mt portOf_eq_none_iff.1 hport)
  rw [ofValues, hport]
  simp only
  split
  next hdeployment hhost hlevel =>
    refine Or.inl ⟨_, rfl, fun field => ?_⟩
    cases field <;> simp [refuses, *]
  next hnone =>
    refine Or.inr ⟨rfl, by_contra fun hall => ?_⟩
    have hsome : ∀ field, refuses (raw field) field = false := fun field =>
      Bool.eq_false_iff.2 fun hrefuses => hall ⟨field, hrefuses⟩
    obtain ⟨deployment, hdeployment⟩ :=
      Option.isSome_iff_exists.1 (Option.isNone_eq_false_iff.1 (hsome .deployment))
    obtain ⟨host, hhost⟩ := Option.isSome_iff_exists.1 (Option.isNone_eq_false_iff.1 (hsome .host))
    obtain ⟨level, hlevel⟩ :=
      Option.isSome_iff_exists.1 (Option.isNone_eq_false_iff.1 (hsome .logLevel))
    exact hnone deployment host level hdeployment hhost hlevel

end Settings

end SpaServer
