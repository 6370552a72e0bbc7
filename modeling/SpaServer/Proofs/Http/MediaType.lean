import Mathlib.Data.List.Basic
import SpaServer.Http.CachePolicy
import SpaServer.Http.MediaType
import SpaServer.Proofs.Text.Cutting
import SpaServer.Proofs.Text.Lowercase

/-!
# Media types and how long they stay fresh

A guessed media type is a plain word in lower case, so the cache policy compares it as it stands.
Exactly the names with one of two deciding extensions are those of documents in HTML.
-/

namespace SpaServer.MediaType

def html : Text := "text/html".toList

/-! ### Plain words -/

/-- Whether a code is that of a small letter, of a digit or of a sign that media types are written
with. -/
def isTypeCode (n : Nat) : Bool := (97 ≤ n && n ≤ 122) || (45 ≤ n && n ≤ 57) || n == 43

theorem isTypeCode_iff {n : Nat} :
    isTypeCode n = true ↔ (97 ≤ n ∧ n ≤ 122) ∨ (45 ≤ n ∧ n ≤ 57) ∨ n = 43 := by
  simp [isTypeCode, or_assoc]

def isTypeChar (c : Char) : Bool := isTypeCode c.toNat

theorem plain_of_isTypeChar {c : Char} (hc : isTypeChar c = true) :
    c.toNat < 0x80 ∧ c.toLower = c ∧ Text.isBlank c = false := by
  have hsmall : c.toNat < 0x80 := by
    have hrange := isTypeCode_iff.1 hc
    omega
  exact ⟨hsmall, Text.forall_ascii
    (motive := fun c => isTypeChar c = true → c.toLower = c ∧ Text.isBlank c = false)
    (by decide) hsmall hc⟩

/-- The bytes of a text tell whether it is made of such characters: a character beyond ASCII begins
with a byte that is none of them. -/
theorem isTypeChar_of_bytes {text : String}
    (hbytes : text.toByteArray.data.toList.all (isTypeCode ·.toNat) = true) :
    ∀ c ∈ text.toList, isTypeChar c = true := by
  intro c hc
  have hencoded : text.toByteArray.data.toList = text.toList.flatMap String.utf8EncodeChar := by
    rw [← String.ofList_toList (s := text), String.toByteArray_ofList, String.toList_ofList,
      List.utf8Encode, List.data_toByteArray]
  have hchar : ∀ b ∈ String.utf8EncodeChar c, isTypeCode b.toNat = true := by
    intro b hb
    refine List.all_eq_true.1 hbytes b ?_
    rw [hencoded]
    exact List.mem_flatMap.2 ⟨c, hc, hb⟩
  have hcode : c.toNat = c.val.toNat := rfl
  rw [String.utf8EncodeChar] at hchar
  split at hchar
  · have hself := hchar _ List.mem_cons_self
    rwa [UInt8.toNat_ofNat', Nat.mod_eq_of_lt (by omega)] at hself
  · exfalso
    -- Whatever its length, an encoding beyond ASCII begins with a byte that is too large.
    repeat' split at hchar
    all_goals
      have hlead := isTypeCode_iff.1 (hchar _ List.mem_cons_self)
      rw [UInt8.toNat_ofNat'] at hlead
      omega

theorem essence_of_plain {text : Text} (hplain : ∀ c ∈ text, isTypeChar c = true) :
    CachePolicy.essence text = text := by
  have hmark : ';' ∉ text := fun hc => absurd (hplain ';' hc) (by decide)
  have hascii : text.IsAscii := fun c hc => (plain_of_isTypeChar (hplain c hc)).1
  have hsmall : text.map Char.toLower = text :=
    (List.map_congr_left fun c hc => (plain_of_isTypeChar (hplain c hc)).2.1).trans (List.map_id _)
  rw [CachePolicy.essence, Text.cut_of_not_mem hmark, Text.strip,
    Text.trim_of_kept fun c hc => (plain_of_isTypeChar (hplain c hc)).2.2,
    Text.lower_of_isAscii hascii, hsmall]

/-! ### The table -/

theorem entry?_eq_some {entries : List (String × String)} {key value : Text}
    (hentry : entry? entries key = some value) :
    ∃ entry ∈ entries, entry.1.toList = key ∧ entry.2.toList = value := by
  obtain ⟨entry, hfind, hvalue⟩ := Option.map_eq_some_iff.1 hentry
  have hkey : (entry.1.toList == key) = true :=
    List.find?_some (p := fun entry : String × String => entry.1.toList == key) hfind
  exact ⟨entry, List.mem_of_find?_eq_some hfind, beq_iff_eq.1 hkey, hvalue⟩

theorem plain_table :
    table.all (fun entry => entry.2.toByteArray.data.toList.all (isTypeCode ·.toNat)) = true := by
  decide +kernel

theorem plain_ofName (name : Text) : ∀ c ∈ ofName name, isTypeChar c = true := by
  rw [ofName]
  cases hguess : guess? name with
  | none => exact List.all_eq_true.1 (by decide)
  | some mediaType =>
      obtain ⟨entry, hentry, _, rfl⟩ := entry?_eq_some hguess
      exact isTypeChar_of_bytes (List.all_eq_true.1 plain_table entry hentry)

theorem documents : table.filter (fun entry => entry.2 == "text/html") =
    [(".htm", "text/html"), (".html", "text/html")] := by
  decide +kernel

theorem entry?_document {extension : String} (hextension : extension ∈ [".htm", ".html"]) :
    entry? table extension.toList = some html := by
  have hfind : ∀ extension ∈ [".htm", ".html"],
      table.find? (fun entry => entry.1 == extension) = some (extension, "text/html") := by
    decide +kernel
  have hsame : (fun entry : String × String => entry.1.toList == extension.toList) =
      fun entry => entry.1 == extension := by
    funext entry
    rw [Bool.eq_iff_iff, beq_iff_eq, beq_iff_eq, String.toList_inj]
  unfold entry?
  rw [hsame, hfind extension hextension]
  rfl

/-- **A file is taken for a document by its deciding extension alone.** -/
theorem ofName_eq_html_iff {name : Text} :
    ofName name = html ↔
      Text.lower (decidingExtension name) ∈ [".htm".toList, ".html".toList] := by
  constructor
  · intro hname
    rw [ofName] at hname
    cases hguess : guess? name with
    | none =>
        rw [hguess] at hname
        exact absurd hname (by decide)
    | some mediaType =>
        rw [hguess, Option.getD_some] at hname
        obtain ⟨entry, hentry, hkey, hvalue⟩ := entry?_eq_some hguess
        have htype : entry.2 = "text/html" := String.toList_inj.1 (hvalue.trans hname)
        have hdocument : entry ∈ table.filter (fun entry => entry.2 == "text/html") :=
          List.mem_filter.2 ⟨hentry, beq_iff_eq.2 htype⟩
        rw [documents] at hdocument
        rw [← hkey]
        simp only [List.mem_cons, List.not_mem_nil, or_false] at hdocument ⊢
        rcases hdocument with rfl | rfl
        · exact Or.inl rfl
        · exact Or.inr rfl
  · intro hextension
    simp only [List.mem_cons, List.not_mem_nil, or_false] at hextension
    rw [ofName, guess?]
    rcases hextension with hextension | hextension
    · rw [hextension, entry?_document (by simp), Option.getD_some]
    · rw [hextension, entry?_document (by simp), Option.getD_some]

/-! ### The directive -/

theorem directive_eq (contentType : Text) : CachePolicy.directive contentType =
    if CachePolicy.essence contentType = html then "public, max-age=0".toList
      else "public, max-age=86400".toList := by
  have hnever : CachePolicy.maxAge 0 = "public, max-age=0".toList := by decide
  have hday : CachePolicy.maxAge CachePolicy.oneDay = "public, max-age=86400".toList := by decide
  rw [CachePolicy.directive, hnever, hday]
  rfl

/-- **Documents are never fresh, and all else is for a day.** -/
theorem directive_ofName (name : Text) : CachePolicy.directive (ofName name) =
    if ofName name = html then "public, max-age=0".toList
      else "public, max-age=86400".toList := by
  rw [directive_eq, essence_of_plain (plain_ofName name)]

end SpaServer.MediaType
