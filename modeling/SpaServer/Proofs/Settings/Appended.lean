import SpaServer.Proofs.EnvFile.Appending
import SpaServer.Proofs.Settings.Doors

/-!
# Settings from an environment file that has grown

What is appended to an environment file in which everything is well formed adds its own bindings
below those of the file, and does nothing else, whether it is well formed itself or not. So the
settings depend on it only through the bindings that it gives alone.
-/

namespace SpaServer.Settings

open EnvFile (plainText statements bindings)

/-- Whether an environment file is complete: its last line has its end, and none of its statements
is malformed. -/
structure IsComplete (content : Text) : Prop where
  ended : content.getLast? = some '\n' ∨ content.getLast? = some '\r'
  wellFormed : .malformed ∉ statements (plainText content)

variable {tree : Node} {content more : Text}

theorem IsComplete.bindings_append (hcomplete : IsComplete content)
    (hmark : more.head? ≠ some '\ufeff') :
    bindings (plainText (content ++ more)) =
      bindings (plainText content) ++ bindings (plainText more) := by
  rw [bindings, EnvFile.statements_plainText_append hcomplete.ended hcomplete.wellFormed hmark,
    List.filterMap_append]
  rfl

theorem ofProcess_of_content (hfile : tree.envFile? = .ok (some content.utf8))
    (environment : Environment) :
    ofProcess environment tree = (ofSources ⟨[], environment,
      EnvFile.values environment (bindings (plainText content))⟩).mapError .settings := by
  rw [ofProcess_of_envFile hfile, read_utf8]
  rfl

/-- **What is appended to a complete environment file is read as it is alone**, and reaches the
settings through its bindings. Whatever the text of a file is, it is used up statement by statement,
so there are no more statements than characters. -/
theorem ofProcess_append :
    (∀ content more : Text, IsComplete content → more.head? ≠ some '\ufeff' →
        statements (plainText (content ++ more)) =
            statements (plainText content) ++ statements (plainText more) ∧
          bindings (plainText (content ++ more)) =
            bindings (plainText content) ++ bindings (plainText more) ∧
          ∀ tree : Node, tree.envFile? = .ok (some (content ++ more).utf8) →
            ∀ environment, ofProcess environment tree = (ofSources ⟨[], environment,
              (bindings (plainText more)).foldl (EnvFile.bind environment)
                (EnvFile.values environment (bindings (plainText content)))⟩).mapError .settings) ∧
      ∀ text : Text, (statements text).length ≤ text.length ∧
        ∃ stretches, EnvFile.UsedUp text stretches ∧ stretches.map Prod.snd = statements text ∧
          ∀ stretch ∈ stretches, stretch.1 ≠ [] := by
  constructor
  · intro content more hcomplete hmark
    have hbindings := hcomplete.bindings_append hmark
    refine ⟨EnvFile.statements_plainText_append hcomplete.ended hcomplete.wellFormed hmark,
      hbindings, fun tree hfile environment => ?_⟩
    rw [ofProcess_of_content hfile, hbindings, EnvFile.values, List.foldl_append, EnvFile.values]
  · intro text
    obtain ⟨stretches, hused, hstatements⟩ := EnvFile.exists_usedUp text
    refine ⟨?_, stretches, hused, hstatements, hused.ne_nil⟩
    rw [← hstatements, List.length_map]
    exact hused.length_le

/-! ### A file with a stray quote behind it -/

/-- A file that ends with a carriage return. Its value runs over two lines, and its comment holds a
quote. -/
def ownLines : Text := "\ufeffHOST='a\nb' # '\r".toList

/-- What is appended: the line feed that belongs to the carriage return, a port, and a host whose
quote is never closed. -/
def strayLines : Text := "\nPORT=1\nHOST='c".toList

theorem ofProcess_strayLines :
    IsComplete ownLines ∧ strayLines.head? ≠ some '\ufeff' ∧
      statements (plainText (ownLines ++ strayLines)) =
        [.binding "HOST".toList (some "a\nb".toList)] ++
          [.binding "PORT".toList (some "1".toList), .malformed] ∧
      ofProcess [] (envFileOnly (ownLines ++ strayLines).utf8) =
        .ok ⟨[], 1, "a\nb".toList, .info⟩ ∧
      (statements (plainText strayLines)).length ≤ (plainText strayLines).length := by
  have hown : statements (plainText ownLines) = [.binding "HOST".toList (some "a\nb".toList)] := by
    decide +kernel
  have hstray : statements (plainText strayLines) =
      [.binding "PORT".toList (some "1".toList), .malformed] := by decide +kernel
  have hcomplete : IsComplete ownLines := ⟨by decide, by rw [hown]; decide⟩
  have hmark : strayLines.head? ≠ some '\ufeff' := by decide
  obtain ⟨hstatements, -, hread⟩ := ofProcess_append.1 ownLines strayLines hcomplete hmark
  refine ⟨hcomplete, hmark, ?_, ?_, (ofProcess_append.2 _).1⟩
  · rw [hstatements, hown, hstray]
  · rw [hread _ (envFile?_envFileOnly _), bindings, bindings, hown, hstray]
    decide +kernel

end SpaServer.Settings
