import SiteAudit.FileTree
import SiteAudit.Rules.Check
import SiteAudit.Text.LineBreak
import SiteAudit.Text.Utf8

/-!
# Checking one page

A page is a file that holds markup in UTF-8, with line breaks of any kind.  A
page that cannot be read, decoded or parsed has one finding, which says why.
Findings name the page by its display path: its way below the working directory,
or the path as it was given if the page lies elsewhere.
-/

namespace SiteAudit
namespace Batch

def displayPath (t : FileTree) (p : Path) : String :=
  if p.isUsable then
    match Path.below? t.cwd (p.resolve t.cwd) with
    | some names => (Path.mk .relative names).text
    | none => p.text
  else p.text

def checkText (s : List Char) (shown : String) : List Finding :=
  match Markup.Document.read s with
  | .error r => [.unreadable shown r.message]
  | .ok d => Rules.check d shown

def checkBytes (bytes : List UInt8) (shown : String) : List Finding :=
  match Text.Utf8.decode bytes with
  | .error m => [.unreadable shown ("UnicodeDecodeError: " ++ m.message)]
  | .ok s => checkText (Text.unifyLineBreaks s) shown

/-- The findings on a page, named by `display` if that is a text and by its
display path otherwise.  A path that cannot be tried is a failure. -/
def checkPage (t : FileTree) (p : Path) (display : Option String) :
    Except Fault (List Finding) :=
  let shown := match display with
    | none => displayPath t p
    | some s => if s == "" then displayPath t p else s
  match t.readBytes p with
  | .ok bytes => .ok (checkBytes bytes shown)
  | .error .nullCharacter =>
      .error ⟨AccessError.nullCharacter.kind,
        AccessError.nullCharacter.message p⟩
  | .error e => .ok [.unreadable shown (Fault.describe ⟨e.kind, e.message p⟩)]

end Batch
end SiteAudit
