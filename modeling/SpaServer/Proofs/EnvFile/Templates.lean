import SpaServer.Proofs.EnvFile.References
import SpaServer.Proofs.EnvFile.Replacement

/-!
# Values as templates that are filled in

The bindings of a file are cut into templates, which hold no reader's work to do any more, and the
templates are filled in from top to bottom with what their references find. `values_eq_fill` says
that this is how a file is read. The templates come from the file alone, so a text that is filled in
is never looked through for references, whatever it holds and wherever it goes from there.
-/

namespace SpaServer.EnvFile

/-- A key with its value cut into pieces, if it has one. -/
abbrev Template := Text × Option (List Piece)

/-- Whether a binding is cut into a template. -/
inductive IsTemplateOf : Binding → Template → Prop
  | bare {key : Text} : IsTemplateOf (key, none) (key, none)
  | value {key value : Text} {cut : List Piece} (hcut : CutInto value cut) :
    IsTemplateOf (key, some value) (key, some cut)

/-- Binds the key of a template below those read before, with what its references find put in their
place. -/
def fillNext (environment : Environment) (above : Bindings (Option Text)) (template : Template) :
    Bindings (Option Text) :=
  above.set template.1
    (template.2.map fun cut => cut.flatMap (Piece.expand (referent? environment above)))

def fill (environment : Environment) (templates : List Template) : Bindings (Option Text) :=
  templates.foldl (fillNext environment) []

theorem exists_templates (entries : List Binding) :
    ∃ templates, List.Forall₂ IsTemplateOf entries templates := by
  induction entries with
  | nil => exact ⟨[], .nil⟩
  | cons entry rest ih =>
      obtain ⟨templates, hrest⟩ := ih
      obtain ⟨key, value⟩ := entry
      cases value with
      | none => exact ⟨(key, none) :: templates, .cons .bare hrest⟩
      | some value =>
          exact ⟨(key, some (pieces value)) :: templates,
            .cons (.value (cutInto_pieces value)) hrest⟩

theorem bind_eq_fillNext {entry : Binding} {template : Template}
    (htemplate : IsTemplateOf entry template) (environment : Environment)
    (above : Bindings (Option Text)) :
    bind environment above entry = fillNext environment above template := by
  cases htemplate with
  | bare => rfl
  | value hcut =>
      rw [cutInto_iff.1 hcut]
      rfl

/-- **A file is read by filling its templates in.** -/
theorem values_eq_fill {entries : List Binding} {templates : List Template}
    (htemplates : List.Forall₂ IsTemplateOf entries templates) (environment : Environment) :
    values environment entries = fill environment templates := by
  have hfold : ∀ above, entries.foldl (bind environment) above =
      templates.foldl (fillNext environment) above := by
    induction htemplates with
    | nil => intro above; rfl
    | cons hentry _ ih =>
        intro above
        rw [List.foldl_cons, List.foldl_cons, bind_eq_fillNext hentry, ih]
  exact hfold []

end SpaServer.EnvFile
