import SiteAudit.Finding
import SiteAudit.Proofs.Template.Plain

/-!
# The messages of the catalog

Every message of the catalog is a plain template.  So a rule can fill its
message as soon as there is a value for each of its fields, and what comes out
is the message with the texts of the values in their places.
-/

namespace SiteAudit

open Template

/-- The pieces of a template that has no doubled braces; `done` holds the
characters of the piece that is being read, the last one first. -/
def Template.piecesFrom (done : List Char) : List Char → List Piece
  | [] => [.literal done.reverse]
  | c :: rest =>
      if c = '{' then .literal done.reverse :: piecesFrom [] rest
      else if c = '}' then .field done.reverse :: piecesFrom [] rest
      else piecesFrom (c :: done) rest

namespace Rule

def pieces (r : Rule) : List Piece :=
  piecesFrom [] r.message.toList

def fieldNames (r : Rule) : List String :=
  r.pieces.flatMap Piece.names

def filled (r : Rule) (values : List (String × Value)) : String :=
  String.ofList (r.pieces.flatMap (Piece.text values))

/-- The message of a rule is plain, and has no field with the name under which
lines are passed on. -/
structure IsPlain (r : Rule) : Prop where
  write_pieces : write r.pieces = r.message.toList
  plain : ∀ p ∈ r.pieces, p.IsPlain
  unreserved : Finding.lineName ∉ r.fieldNames

section Message

variable {r : Rule} {cs : List Char} (hmessage : r.message = String.ofList cs)

include hmessage

theorem pieces_of_message : r.pieces = piecesFrom [] cs := by
  rw [pieces, hmessage, String.toList_ofList]

theorem fieldNames_of_message {names : List String}
    (hnames : (piecesFrom [] cs).flatMap Piece.names = names) :
    r.fieldNames = names := by
  rw [fieldNames, pieces_of_message hmessage, hnames]

theorem isPlain_of_message (hwrite : write (piecesFrom [] cs) = cs)
    (hplain : ∀ p ∈ piecesFrom [] cs, p.IsPlain)
    (hnames : Finding.lineName ∉ (piecesFrom [] cs).flatMap Piece.names) :
    r.IsPlain where
  write_pieces := by
    rw [pieces_of_message hmessage, hwrite, hmessage, String.toList_ofList]
  plain := by rw [pieces_of_message hmessage]; exact hplain
  unreserved := by rw [fieldNames_of_message hmessage rfl]; exact hnames

theorem filled_of_message {start name : List Char}
    (hpieces : piecesFrom [] cs = [.literal start, .field name, .literal []])
    (s : String) :
    r.filled [(String.ofList name, .text s)] = String.ofList start ++ s := by
  rw [filled, pieces_of_message hmessage, hpieces]
  simp [Piece.text, Value.display, String.ofList_append]

theorem filled_of_message₂ {start name between name' : List Char}
    (hpieces : piecesFrom [] cs =
      [.literal start, .field name, .literal between, .field name',
        .literal []])
    (hne : String.ofList name' ≠ String.ofList name) (v v' : Value) :
    r.filled [(String.ofList name, v), (String.ofList name', v')] =
      String.ofList start ++ v.display ++ String.ofList between ++
        v'.display := by
  have hother : (String.ofList name' == String.ofList name) = false :=
    beq_eq_false_iff_ne.2 hne
  have hlookup : [(String.ofList name, v),
      (String.ofList name', v')].lookup (String.ofList name') = some v' := by
    rw [List.lookup_cons, hother, List.lookup_cons_self]
  rw [filled, pieces_of_message hmessage, hpieces]
  simp [Piece.text, hlookup, String.ofList_append, String.append_assoc]

end Message

end Rule

namespace Catalog

theorem isPlain_of_mem {r : Rule} (hr : r ∈ rules) : r.IsPlain := by
  revert r
  simp only [rules, List.forall_mem_cons, List.not_mem_nil, false_implies,
    implies_true, and_true]
  -- the characters of a message are read off its text, which is much faster
  -- than computing them
  and_intros <;> exact Rule.isPlain_of_message rfl rfl (by decide) (by decide)

theorem render_eq {r : Rule} (hr : r ∈ rules) {values : List (String × Value)}
    (hvalues : values.map (·.1) = r.fieldNames) :
    r.render values = .ok (r.filled values) := by
  apply Rule.render_of_plain (isPlain_of_mem hr).write_pieces
    (isPlain_of_mem hr).plain
  intro name hname
  have hkey : name ∈ values.map (·.1) := by
    rw [hvalues]
    exact hname
  rw [List.mem_map] at hkey
  rcases hkey with ⟨entry, hentry, rfl⟩
  rw [List.lookup_isSome_iff]
  exact ⟨entry, hentry, by simp⟩

theorem find_code {r : Rule} (hr : r ∈ rules) : find r.code = .ok r := by
  revert r
  decide

theorem ofRule_eq {r : Rule} (hr : r ∈ rules) {values : List (String × Value)}
    (hvalues : values.map (·.1) = r.fieldNames) (file : String)
    (line : Option WritableInt) :
    Finding.ofRule r.code file line values =
      .ok { file := file, code := r.code, message := r.filled values,
            severity := r.severity, line := line } := by
  have hreserved : (values.lookup Finding.lineName).isSome = false := by
    rw [Bool.eq_false_iff]
    intro hsome
    rcases List.lookup_isSome_iff.1 hsome with ⟨entry, hentry, hname⟩
    apply (isPlain_of_mem hr).unreserved
    rw [← hvalues, beq_iff_eq.1 hname]
    exact List.mem_map_of_mem hentry
  unfold Finding.ofRule
  rw [hreserved, find_code hr]
  simp only [Bool.false_eq_true, if_false, bind, Except.bind, pure, Except.pure,
    render_eq hr hvalues]

theorem nodup_codes : (rules.map (·.code)).Nodup := by
  decide

end Catalog

end SiteAudit
