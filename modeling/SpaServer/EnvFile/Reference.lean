import SpaServer.Text.Basic

/-!
# References inside values

A value may refer to other variables: `$` and the name in braces, or the name, `:-` and a fallback
in braces. A name contains neither a colon nor a closing brace and a fallback no closing brace, so
references do not nest. A value is cut into pieces once; what replaces a reference is not looked at
again.
-/

namespace SpaServer.EnvFile

/-- A piece of a value: a character that stands for itself, or a reference. -/
inductive Piece
  | literal (c : Char)
  | reference (name : Text) (fallback : Text)
  deriving DecidableEq

/-- The reference whose opening brace stands before `text`, and the text after it. A missing
fallback is empty. -/
def reference? (text : Text) : Option (Piece × Text) :=
  let name := text.takeWhile fun c => c != '\x7d' && c != ':'
  match text.dropWhile fun c => c != '\x7d' && c != ':' with
  | '\x7d' :: after => some (.reference name [], after)
  | ':' :: '-' :: rest =>
    match rest.dropWhile (· != '\x7d') with
    | _ :: after => some (.reference name (rest.takeWhile (· != '\x7d')), after)
    | [] => none
  | _ => none

/-- A reference ends further on in the text. -/
theorem length_reference_lt {text after : Text} {piece : Piece}
    (read : reference? text = some (piece, after)) : after.length < text.length := by
  have front := (List.dropWhile_sublist (l := text) fun c => c != '\x7d' && c != ':').length_le
  revert read
  unfold reference?
  simp only
  split
  next eq =>
    intro read
    cases read
    rw [eq] at front
    exact front
  next rest eq =>
    rw [eq] at front
    have back := (List.dropWhile_sublist (l := rest) (· != '\x7d')).length_le
    split
    next eq' =>
      intro read
      cases read
      rw [eq'] at back
      simp only [List.length_cons] at front back
      omega
    next => simp
  next => simp

def pieces : Text → List Piece
  | [] => []
  | '$' :: '\x7b' :: rest =>
    match _found : reference? rest with
    | some (piece, after) => piece :: pieces after
    | none => .literal '$' :: pieces ('\x7b' :: rest)
  | c :: rest => .literal c :: pieces rest
  termination_by text => text.length
  decreasing_by
    · have := length_reference_lt _found
      simp only [List.length_cons]
      omega
    · simp
    · simp

def Piece.expand (referent? : Text → Option Text) : Piece → Text
  | .literal c => [c]
  | .reference name fallback => (referent? name).getD fallback

def expand (referent? : Text → Option Text) (value : Text) : Text :=
  (pieces value).flatMap (Piece.expand referent?)

end SpaServer.EnvFile
