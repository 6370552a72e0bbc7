import Mathlib
import SpaServer.Proofs.Settings.Precedence

/-!
# What comes of reading settings

Whatever is given, reading ends with settings or with the fields that refuse their values, all of
them at once: a deployment and a host that are no texts, and a level whose value holds an integer
too long to be written. There is one exception: an infinite port is no integer, and it ends the
reading instead of being left to the default. A port that is given as a text is never refused.
-/

namespace SpaServer.Settings.Written

variable {written : Written} {field : Field}

/-- Whether a field takes a value that it refuses. -/
def Refuses (written : Written) (field : Field) : Prop :=
  ∃ value, written.Takes field (some value) ∧ Settings.Refuses field value

theorem refuses_iff :
    written.Refuses field ↔ refuses (written.sources.value? field) field = true := by
  rw [Refuses, Settings.refuses_iff]
  exact exists_congr fun _ => and_congr_left' (takes_iff.trans eq_comm)

theorem not_refuses_of_absent (hdeployment : written.sources.value? .deployment = none)
    (hhost : written.sources.value? .host = none)
    (hlevel : written.sources.value? .logLevel = none) (field : Field) :
    ¬ written.Refuses field := by
  intro ⟨value, htakes, hrefuses⟩
  cases hrefuses with
  | deployment => exact absurd (htakes.eq.trans hdeployment) nofun
  | host => exact absurd (htakes.eq.trans hhost) nofun
  | logLevel => exact absurd (htakes.eq.trans hlevel) nofun

/-- What is read unless the port is infinite: settings, or the fields that are refused. -/
theorem read_cases (hport : ¬ written.Takes .port (some (.real .infinite))) :
    (∃ settings, written.read = .ok settings ∧ settings.IsMadeOf written.sources.value? ∧
        ∀ field, ¬ written.Refuses field) ∨
      ∃ fields, written.read = .error (.refused fields) ∧
        fields.Sublist [.deployment, .host, .logLevel] ∧
        (∀ field, field ∈ fields ↔ written.Refuses field) ∧ ∃ field, written.Refuses field := by
  have hfinite : written.sources.value? .port ≠ some (.real .infinite) :=
    fun hinfinite => hport (takes_iff.2 hinfinite.symm)
  simp only [refuses_iff, read_eq, Bool.not_eq_true]
  rcases ofValues_cases hfinite with ⟨settings, hread, hnone⟩ | ⟨hread, hsome⟩
  · exact Or.inl ⟨settings, hread, ofValues_eq_ok_iff.1 hread, hnone⟩
  · refine Or.inr ⟨_, hread, ?_, fun field => ?_, hsome⟩
    · -- No value is refused for the port, so it may as well not be asked.
      have hport : (Field.all.filter fun field => refuses (written.sources.value? field) field) =
          [.deployment, .host, .logLevel].filter fun field =>
            refuses (written.sources.value? field) field := by
        simp only [Field.all, List.filter_cons, refuses, Bool.false_eq_true, if_false]
      rw [hport]
      exact List.filter_sublist
    · have hall : field ∈ Field.all := by cases field <;> decide
      rw [List.mem_filter, and_iff_right hall]

/-- **Reading is refused exactly for the fields that refuse their values**, all of them at once,
unless the port is infinite, which ends it. -/
theorem read_refused_iff (written : Written) :
    (written.Takes .port (some (.real .infinite)) → written.read = .error .infinitePort) ∧
      (¬ written.Takes .port (some (.real .infinite)) →
        ((∃ error, written.read = .error error) ↔ ∃ field, written.Refuses field) ∧
          (∀ error, written.read = .error error →
            ∃ fields, error = .refused fields ∧ fields.Sublist [.deployment, .host, .logLevel] ∧
              ∀ field, field ∈ fields ↔ written.Refuses field) ∧
          ∀ settings, written.read = .ok settings →
            ∃ raw, (∀ field, written.Takes field (raw field)) ∧ settings.IsMadeOf raw) := by
  refine ⟨fun hport => ?_, fun hport => ?_⟩
  · rw [read_eq, ofValues_infinite (takes_iff.1 hport).symm]
  · rcases read_cases hport with ⟨settings, hread, hmade, hnone⟩ |
      ⟨fields, hread, hsublist, hmem, hsome⟩
    · rw [hread]
      refine ⟨iff_of_false (by simp) (not_exists.2 hnone), nofun, fun other hother => ?_⟩
      obtain rfl := Except.ok.inj hother
      exact ⟨_, takes_value? written, hmade⟩
    · rw [hread]
      refine ⟨iff_of_true ⟨_, rfl⟩ hsome, fun error herror => ?_, nofun⟩
      obtain rfl := Except.error.inj herror
      exact ⟨fields, rfl, hsublist, hmem⟩

/-- Given values of which no field but the port can use its own. Among them is a port with a point,
and the level has an integer of 4301 digits inside of an object. -/
def unusable : Written :=
  ⟨⟨[("gae_env".toList, .null), ("HOST".toList, .list []), ("Host".toList, .text "h".toList),
        ("Port".toList, .real (.finite 3 (-1))),
        ("LOG_LEVEL".toList, .object [("n".toList, .list [.integer (-10 ^ 4300)])])], rfl⟩,
    [("HOST".toList, "h".toList)], some "GAE_ENV=x".toList⟩

def infinitePort : Written := ⟨⟨[("PORT".toList, .real .infinite)], rfl⟩, [], none⟩

theorem takes_infinitePort : infinitePort.Takes .port (some (.real .infinite)) := takes_iff.2 rfl

theorem refuses_unusable (field : Field) (hfield : field ≠ .port) : unusable.Refuses field := by
  cases field with
  | deployment => exact ⟨.null, takes_iff.2 rfl, .deployment nofun⟩
  | port => exact absurd rfl hfield
  | host => exact ⟨.list [], takes_iff.2 rfl, .host nofun⟩
  | logLevel =>
      refine ⟨_, takes_iff.2 rfl, .logLevel
        (.member List.mem_cons_self (.item List.mem_cons_self (.itself (-10 ^ 4300)))) ?_⟩
      have hten : (10 : Int).natAbs = 10 := rfl
      rw [Int.natAbs_neg, Int.natAbs_pow, hten, Nat.lt_digits_length_iff (by decide)]

theorem read_unusable :
    (¬ unusable.Takes .port (some (.real .infinite)) ∧
        (∀ field, field ≠ .port → unusable.Refuses field) ∧
        ∃ fields, unusable.read = .error (.refused fields) ∧
          ∀ field, field ∈ fields ↔ unusable.Refuses field) ∧
      infinitePort.Takes .port (some (.real .infinite)) ∧
        infinitePort.read = .error .infinitePort := by
  have hport : ¬ unusable.Takes .port (some (.real .infinite)) := by
    intro htakes
    have hvalue : some (Value.real .infinite) = some (.real (.finite 3 (-1))) :=
      takes_iff.1 htakes
    simp at hvalue
  obtain ⟨hfails, hreports, -⟩ := (read_refused_iff unusable).2 hport
  obtain ⟨error, hread⟩ := hfails.2 ⟨.host, refuses_unusable .host (by decide)⟩
  obtain ⟨fields, rfl, -, hmem⟩ := hreports error hread
  exact ⟨⟨hport, refuses_unusable, fields, hread, hmem⟩,
    takes_infinitePort, (read_refused_iff infinitePort).1 takes_infinitePort⟩

/-- An infinite port ends the reading although no field refuses its value. -/
theorem infinite_port_ends_reading :
    (∀ field, ¬ infinitePort.Refuses field) ∧ infinitePort.read = .error .infinitePort := by
  refine ⟨not_refuses_of_absent rfl rfl rfl, ?_⟩
  rw [read_eq, ofValues_infinite (takes_iff.1 takes_infinitePort).symm]

/-! ### Ports from texts -/

/-- **A port that is given as a text is the number of the numeral, or the default if the text is no
numeral**, whatever source it comes from. -/
theorem read_port (written : Written) {text : Text}
    (htakes : written.Takes .port (some (.text text))) :
    ∃ port : Int, (∀ n, Text.IsNumeral text n → port = n) ∧
      ((∀ n, ¬ Text.IsNumeral text n) → port = 8080) ∧
      (∀ n, Text.IsSpelling n text → port = n) ∧
      (∀ settings, written.read = .ok settings → settings.port = port) ∧
      ((∀ field, ¬ written.Refuses field) → ∃ settings, written.read = .ok settings) := by
  have hvalue := htakes.eq
  have hfinite : ¬ written.Takes .port (some (.real .infinite)) := fun hinfinite =>
    absurd (hvalue.trans hinfinite.eq.symm) (by simp)
  obtain ⟨port, hport⟩ : ∃ port, portOf (some (.text text)) = some port :=
    Option.ne_none_iff_exists'.1 (mt portOf_eq_none_iff.1 (by simp))
  have hunique : ∀ n, IsPort (some (.text text)) n → port = n := fun n hn =>
    Option.some.inj (hport.symm.trans (portOf_eq_some_iff.2 hn))
  have hsome : ∀ n, Text.IsNumeral text n → port = n := fun n hn =>
    hunique n (.usable (.text hn))
  refine ⟨port, hsome, fun hnone => ?_, fun n hn => hsome n hn.isNumeral,
    fun settings hread => ?_, fun hnone => ?_⟩
  · refine hunique 8080 (.unusable (fun n hstands => ?_) nofun)
    cases hstands with
    | text hn => exact hnone n hn
  · have hmade := (ofValues_eq_ok_iff.1 (read_eq written ▸ hread)).port
    rw [← hvalue] at hmade
    exact (hunique _ hmade).symm
  · rcases read_cases hfinite with ⟨settings, hread, -⟩ | ⟨_, -, -, -, field, hrefuses⟩
    · exact ⟨settings, hread⟩
    · exact absurd hrefuses (hnone field)

/-- A variable with thirty-one written at length, one of its digits in Arabic. -/
def spelledPort : Written := ⟨.none, [("port".toList, " +0_\u06631\t".toList)], none⟩

theorem read_spelledPort :
    ∃ settings, spelledPort.Takes .port (some (.text " +0_\u06631\t".toList)) ∧
      Text.IsSpelling 31 " +0_\u06631\t".toList ∧ spelledPort.read = .ok settings ∧
      settings.port = 31 := by
  have htakes : spelledPort.Takes .port (some (.text " +0_\u06631\t".toList)) := takes_iff.2 rfl
  have hdigit : ∀ {c d}, Text.digitValue? c = some d → Text.IsDigit c d :=
    Text.digitValue?_eq_some_iff.1
  have hspelling : Text.IsSpelling 31 " +0_\u06631\t".toList := by
    refine @Text.IsSpelling.of 31 [' '] ['+'] "0_\u06631".toList ['\t'] 1
      (List.forall_mem_singleton.2 (by decide)) (List.forall_mem_singleton.2 (by decide))
      (by decide) (by decide) ?_ (by decide)
    exact .spaced (hdigit (by decide : _ = some 0)) (hdigit (by decide))
      (.next (hdigit (by decide : _ = some 3)) (hdigit (by decide))
        (.last (hdigit (by decide : _ = some 1)) (hdigit (by decide))))
  obtain ⟨port, -, -, hspelled, hport, hread⟩ := read_port spelledPort htakes
  obtain ⟨settings, hread⟩ := hread (not_refuses_of_absent rfl rfl rfl)
  exact ⟨settings, htakes, hspelling, hread, (hport settings hread).trans (hspelled 31 hspelling)⟩

end SpaServer.Settings.Written
