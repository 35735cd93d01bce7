import SiteAudit.Batch.Page
import SiteAudit.Proofs.Rules.Lines
import SiteAudit.Proofs.Text.LineBreak
import SiteAudit.Proofs.Text.Utf8

/-!
# The findings on a page are those on its text

A page is decoded and its line breaks are made line feeds; then it is the text
alone that decides on the findings.  A page that holds no text, or no document,
has one finding, which says why, and so has a path at which there is no page.
-/

namespace SiteAudit
namespace Batch

open Text (IsLineMark markLines withLineFeeds)
open Text.Utf8 (encode)

def IsRefused (t : FileTree) (p : Path) (shown reason : String) : Prop :=
  checkPage t p (some shown) =
    .ok
      [{ file := shown
         code := "F001"
         message := "Unable to read or parse document: " ++ reason
         severity := "error"
         line := none }]

/-- What decides on the findings on a page, which are told under the name
`shown`. -/
structure JudgedByText (t : FileTree) (p : Path) (shown : String) : Prop where
  accepted : ∀ s d, t.lookup p = .ok (.file (encode s)) →
    Markup.Document.read (withLineFeeds s) = .ok d →
    checkPage t p (some shown) = .ok (Rules.check d shown)
  rejected : ∀ s r, t.lookup p = .ok (.file (encode s)) →
    Markup.Document.read (withLineFeeds s) = .error r →
    IsRefused t p shown r.message
  /-- Another page that holds the same lines, whatever ends them, has the same
  findings. -/
  anyBreaks :
    ∀ s mark t' p' mark', '\r' ∉ s → IsLineMark mark → IsLineMark mark' →
    t.lookup p = .ok (.file (encode (markLines mark s))) →
    t'.lookup p' = .ok (.file (encode (markLines mark' s))) →
    checkPage t' p' (some shown) = checkPage t p (some shown)
  malformed :
    ∀ bytes, t.lookup p = .ok (.file bytes) → (∀ s, bytes ≠ encode s) →
    ∃ m, Text.Utf8.decode bytes = .error m ∧
      IsRefused t p shown ("UnicodeDecodeError: " ++ m.message)
  directory : ∀ d, t.lookup p = .ok (.directory d) →
    IsRefused t p shown (AccessError.isDirectory.kind ++ ": " ++
      AccessError.isDirectory.message p)
  /-- A name on the way is not there, or stands for a file, or is too long.  A
  path with the null character is not among these: no page can be there, and it
  is not even tried. -/
  missing : ∀ e, t.lookup p = .error e →
    e = .missing ∨ e = .notDirectory ∨ e = .nameTooLong →
    IsRefused t p shown (e.kind ++ ": " ++ e.message p)

/-!
## Texts
-/

section Texts

variable {s : List Char} {bytes : List UInt8} {shown : String}

theorem checkBytes_encode (s : List Char) (shown : String) :
    checkBytes (encode s) shown = checkText (withLineFeeds s) shown := by
  have hdecoded : Text.Utf8.decode (encode s) = .ok s :=
    Text.Utf8.decode_eq_ok_iff.2 rfl
  simp only [checkBytes, hdecoded, Text.unifyLineBreaks_eq]

theorem checkBytes_markLines {mark : List Char} (h : IsLineMark mark)
    (noReturn : '\r' ∉ s) :
    checkBytes (encode (markLines mark s)) shown = checkText s shown := by
  rw [checkBytes_encode, Text.withLineFeeds_markLines h noReturn]

theorem exists_malformed (h : ∀ s, bytes ≠ encode s) :
    ∃ m, Text.Utf8.decode bytes = .error m := by
  cases hdecoded : Text.Utf8.decode bytes with
  | error m => exact ⟨m, rfl⟩
  | ok s => exact absurd (Text.Utf8.decode_eq_ok_iff.1 hdecoded) (h s)

end Texts

/-!
## Pages
-/

section Pages

variable {t : FileTree} {p : Path} {shown : String}

theorem checkPage_of_file {bytes : List UInt8} (named : shown ≠ "")
    (h : t.lookup p = .ok (.file bytes)) :
    checkPage t p (some shown) = .ok (checkBytes bytes shown) := by
  have hread : t.readBytes p = .ok bytes := by rw [FileTree.readBytes, h]
  simp [checkPage, hread, named]

theorem isRefused_of_access {e : AccessError} (named : shown ≠ "")
    (usable : e ≠ .nullCharacter) (h : t.readBytes p = .error e) :
    IsRefused t p shown (e.kind ++ ": " ++ e.message p) := by
  simp [IsRefused, checkPage, h, named, Finding.unreadable, Severity.error,
    Fault.describe]

end Pages

/-- With a name that is not empty, every page is judged by its text. -/
theorem page_judged_by_text (t : FileTree) (p : Path) (shown : String)
    (named : shown ≠ "") :
    JudgedByText t p shown := by
  refine
    { accepted := ?_
      rejected := ?_
      anyBreaks := ?_
      malformed := ?_
      directory := ?_
      missing := ?_ }
  · intro s d hfile hread
    rw [checkPage_of_file named hfile, checkBytes_encode]
    simp only [checkText, hread]
  · intro s r hfile hread
    rw [IsRefused, checkPage_of_file named hfile, checkBytes_encode]
    simp only [checkText, hread]
    rfl
  · intro s mark t' p' mark' noReturn hmark hmark' hfile hfile'
    rw [checkPage_of_file named hfile, checkPage_of_file named hfile',
      checkBytes_markLines hmark noReturn, checkBytes_markLines hmark' noReturn]
  · intro bytes hfile hbytes
    rcases exists_malformed hbytes with ⟨m, hm⟩
    refine ⟨m, hm, ?_⟩
    rw [IsRefused, checkPage_of_file named hfile]
    simp only [checkBytes, hm]
    rfl
  · intro d hdirectory
    have hread : t.readBytes p = .error .isDirectory := by
      rw [FileTree.readBytes, hdirectory]
    have husable : AccessError.isDirectory ≠ .nullCharacter := nofun
    exact isRefused_of_access named husable hread
  · intro e herror hkind
    have hread : t.readBytes p = .error e := by rw [FileTree.readBytes, herror]
    have husable : e ≠ .nullCharacter := by
      rcases hkind with rfl | rfl | rfl
      · exact nofun
      · exact nofun
      · exact nofun
    exact isRefused_of_access named husable hread

def manyBreaks : FileTree where
  root :=
    .file "both.html" (encode (markLines ['\r', '\n'] Rules.tangledPage))
      (.file "return.html" (encode (markLines ['\r'] Rules.tangledPage))
        (.file "overlong.html" [0xC0, 0x80] (.folder "inside" .empty .empty)))
  cwd := []

theorem judged_manyBreaks :
    "page" ≠ "" ∧
      checkPage manyBreaks (.ofString "both.html") (some "page") =
        .ok (Rules.check Rules.tangledDocument "page") ∧
      checkPage manyBreaks (.ofString "return.html") (some "page") =
        checkPage manyBreaks (.ofString "both.html") (some "page") ∧
      (∃ m, Text.Utf8.decode [0xC0, 0x80] = .error m ∧
        IsRefused manyBreaks (.ofString "overlong.html") "page"
          ("UnicodeDecodeError: " ++ m.message)) ∧
      (∃ reason, IsRefused manyBreaks (.ofString "inside") "page" reason) ∧
      ∃ reason,
        IsRefused manyBreaks (.ofString "inside/none.html") "page" reason := by
  have named : "page" ≠ "" := by decide
  have noReturn : '\r' ∉ Rules.tangledPage := by decide +kernel
  have hboth : manyBreaks.lookup (.ofString "both.html") =
      .ok (.file (encode (markLines ['\r', '\n'] Rules.tangledPage))) := rfl
  have hreturn : manyBreaks.lookup (.ofString "return.html") =
      .ok (.file (encode (markLines ['\r'] Rules.tangledPage))) := rfl
  refine ⟨named, ?_, ?_, ?_, ?_, ?_⟩
  · apply (page_judged_by_text manyBreaks (.ofString "both.html")
      "page" named).accepted _ _ hboth
    rw [Text.withLineFeeds_markLines .both noReturn]
    exact Rules.read_tangledPage
  · exact (page_judged_by_text manyBreaks (.ofString "both.html")
      "page" named).anyBreaks _ _ _ _ _ noReturn .both
      .carriageReturn hboth hreturn
  · apply (page_judged_by_text manyBreaks (.ofString "overlong.html")
      "page" named).malformed [0xC0, 0x80] rfl
    intro s hs
    have hdecoded := Text.Utf8.decode_eq_ok_iff.2 hs
    cases hdecoded
  · exact ⟨_, (page_judged_by_text manyBreaks (.ofString "inside")
      "page" named).directory .empty rfl⟩
  · exact ⟨_, (page_judged_by_text manyBreaks (.ofString "inside/none.html")
      "page" named).missing .missing rfl
      (.inl rfl)⟩

end Batch
end SiteAudit
