import SiteAudit.Markup.ClosingMark
import SiteAudit.Markup.StartTag
import SiteAudit.Text.LineBreak

/-!
# Cutting markup into lexemes

A text is read twice over.  The first reading stops at the first construct that
the text does not complete.  The second starts there, knows that nothing more
will come, and takes what is incomplete as plain text.  A few constructs stop
the second reading as well; then all that is left becomes one piece of text,
unless an element with raw text is still open, in which case what is left is
dropped.
-/

namespace SiteAudit
namespace Markup

def continuesEndName (c : Char) : Bool :=
  c.isAlphanum || c == '-' || c == '.' || c == ':' || c == '_'

def plainEndName? (inside : List Char) : Option (List Char) :=
  match inside.dropWhile Text.isBlank with
  | [] => none
  | c :: rest =>
      if c.isAlpha && (rest.dropWhile continuesEndName).all Text.isBlank then
        some (c :: rest.takeWhile continuesEndName)
      else none

/-- What an end tag means; `inside` stands between its brackets, behind the
slash. -/
def endTagMeaning (mode : Mode) (inside : List Char) : Option Token × Mode :=
  let written := '<' :: '/' :: inside ++ ['>']
  match plainEndName? inside, mode with
  | some name, .markup =>
      (some (.endTag (Text.lower (String.ofList name))), .markup)
  | some name, .raw element =>
      let tag := Text.lower (String.ofList name)
      if tag == element then (some (.endTag tag), .markup)
        else (some (.text written), mode)
  | none, .raw _ => (some (.text written), mode)
  | none, .markup =>
      match inside with
      | [] => (none, .markup)
      | c :: _ =>
          if c.isAlpha then
            let name := inside.takeWhile (!endsTagName ·)
            (some (.endTag (Text.lower (String.ofList name))), .markup)
          else (some (.remark inside), .markup)

/-- An end tag, behind its opening bracket and slash; none if it is not
closed. -/
def readEndTag? (mode : Mode) (s : List Char) : Option Reading :=
  if s.contains '>' then
    let inside := s.takeWhile (· != '>')
    let (token, next) := endTagMeaning mode inside
    some { used := inside.length + 3, token := token, mode := next }
  else none

/-- A remark that starts behind `opening` characters and ends at the next
closing bracket. -/
def readRemark? (opening : Nat) (s : List Char) : Option Reading :=
  if s.contains '>' then
    let inside := s.takeWhile (· != '>')
    some { used := opening + inside.length + 1, token := some (.remark inside),
           mode := .markup }
  else none

def readComment? (s : List Char) : Option Reading :=
  (beforeMark? commentEnd s).map fun (inside, n) =>
    { used := 4 + inside.length + n, token := some (.remark inside),
      mode := .markup }

def continuesKeyword (c : Char) : Bool :=
  c.isAlphanum || c == '-' || c == '_' || c == '.'

def sectionMark? (keyword : List Char) : Option (List MarkPart) :=
  let word := String.ofList (keyword.map Char.toLower)
  if ["temp", "cdata", "ignore", "include", "rcdata"].contains word then
    some sectionEnd
  else if ["if", "else", "endif"].contains word then some conditionEnd
  else none

/-- The meaning of a section: character data, or a remark. -/
def sectionMeaning (inside : List Char) : Token :=
  if inside.take 6 |>.map Char.toUpper |>
      (· == ['C', 'D', 'A', 'T', 'A', '[']) then
    .characterData (inside.drop 6)
  else .remark inside

/-- A marked section, behind its opening mark of three characters; none if it is
not closed. -/
def readSection? (s : List Char) : Except Rejection (Option Reading) :=
  match s with
  | [] => .ok none
  | c :: _ =>
      if c.isAlpha then
        let keyword := s.takeWhile continuesKeyword
        let behind := s.dropWhile continuesKeyword
        let blanks := behind.takeWhile Text.isBlank
        if (behind.dropWhile Text.isBlank).isEmpty then .ok none
        else
          match sectionMark? keyword with
          | none => .error (.unknownKeyword (keyword ++ blanks))
          | some mark =>
              .ok ((beforeMark? mark s).map fun (inside, n) =>
                { used := 3 + inside.length + n,
                  token := some (sectionMeaning inside), mode := .markup })
      else .error (.missingKeyword (('<' :: '!' :: '[' :: s).take 20))

/-- A start tag, behind its opening bracket; none if it is not closed. -/
def readStartTag? (s : List Char) : Except Rejection (Option Reading) :=
  let tag := readStartTag s
  match tag.ending with
  | .incomplete => .ok none
  | .broken => do
      let _ ← resolveAttributes tag.attributes
      return some {
        used := tag.used
        token := some (.text (('<' :: s).take tag.used))
        mode := .markup
        used_pos := tag.used_pos }
  | .closed empty => do
      let attributes ← resolveAttributes tag.attributes
      let name := Text.lower (String.ofList tag.name)
      return some {
        used := tag.used
        token := some (.startTag name attributes empty)
        mode := if !empty && rawElements.contains name then .raw name
          else .markup
        used_pos := tag.used_pos }

/-- The construct behind an opening bracket; none if the text does not complete
it. -/
def readConstruct? (mode : Mode) (s : List Char) :
    Except Rejection (Option Reading) :=
  match s with
  | [] => .ok none
  | '/' :: rest => .ok (readEndTag? mode rest)
  | '!' :: '-' :: '-' :: rest => .ok (readComment? rest)
  | '!' :: '[' :: rest => readSection? rest
  | '!' :: rest => .ok (readRemark? 2 rest)
  | '?' :: rest => .ok (readRemark? 2 rest)
  | c :: _ =>
      if c.isAlpha then readStartTag? s else .ok (some (.text ['<'] mode))

/-- An incomplete construct at the end of the text: plain text up to the next
closing bracket, or else to the next opening one, or else the bracket alone. -/
def readRemains (mode : Mode) (s : List Char) : Reading :=
  if s.contains '>' then .text ('<' :: s.takeWhile (· != '>') ++ ['>']) mode
  else if s.contains '<' then .text ('<' :: s.takeWhile (· != '<')) mode
  else .text ['<'] mode

def semicolonLength (s : List Char) : Nat :=
  if s.head? == some ';' then 1 else 0

/-- A reference by number, behind its two opening characters; none if it is not
complete. -/
def readNumber? (mode : Mode) (s : List Char) :
    Except Rejection (Option Reading) :=
  let digits := s.takeWhile Char.isDigit
  match s.dropWhile Char.isDigit with
  | [] => .ok none
  | c :: rest =>
      if digits.isEmpty then
        let hex := rest.takeWhile Text.isHexDigit
        let behind := rest.dropWhile Text.isHexDigit
        if (c == 'x' || c == 'X') && !hex.isEmpty && !behind.isEmpty then
          .ok (some {
            used := 3 + hex.length + semicolonLength behind
            token := some (.text [Reference.numberInText (Text.hexNumber hex)])
            mode := mode })
        else .ok none
      else if Text.isHexDigit c then .ok none
      else
        (Reference.decimal digits).map fun n =>
          some {
            used := 2 + digits.length + semicolonLength (c :: rest)
            token := some (.text [Reference.numberInText n])
            mode := mode }

def continuesReference (c : Char) : Bool :=
  c.isAlphanum || c == '-' || c == '.'

/-- The length of the name of a reference, which must be followed by a character
that is no letter and no digit.  At the end of the text the name gives up its
last part for that. -/
def referenceNameLength? (s : List Char) : Option Nat :=
  let run := s.takeWhile continuesReference
  if !(s.dropWhile continuesReference).isEmpty then some run.length
  else
    match run.reverse.dropWhile Char.isAlphanum with
    | [] => none
    | _ :: front => some front.length

/-- A reference by name, behind its ampersand; none if it is not complete. -/
def readName? (mode : Mode) (s : List Char) : Option Reading :=
  (referenceNameLength? s).map fun n =>
    let name := s.take n
    { used := 1 + n + semicolonLength (s.drop n)
      token := some (.text ((Reference.expansion? name).getD ('&' :: name)))
      mode := mode }

/-- What reading does at one place: it goes on behind a lexeme, or it stops,
perhaps after one last lexeme. -/
inductive Step
  | read (r : Reading)
  | stop
  | stopAfter (r : Reading)

def stepAtAmpersand (final : Bool) (mode : Mode) (s : List Char) :
    Except Rejection Step :=
  match s with
  | [] => .ok .stop
  | '#' :: rest =>
      match readNumber? mode rest with
      | .error e => .error e
      | .ok (some r) => .ok (.read r)
      | .ok none =>
          .ok (if rest.contains ';' then .stopAfter (.text ['&', '#'] mode)
          else .stop)
  | c :: rest =>
      if c.isAlpha then
        match readName? mode s with
        | some r => .ok (.read r)
        | none =>
            .ok (if final && rest.isEmpty then
              .stopAfter { used := 1, token := none, mode := mode }
              else .stop)
      else .ok (.read (.text ['&'] mode))

def stepAtBracket (final : Bool) (mode : Mode) (s : List Char) :
    Except Rejection Step :=
  match readConstruct? mode s with
  | .error e => .error e
  | .ok (some r) => .ok (.read r)
  | .ok none => .ok (if final then .read (readRemains mode s) else .stop)

/-- Whether a character is plain text wherever it stands. -/
def isPlain (c : Char) : Bool :=
  c != '<' && c != '&'

def step (final : Bool) (mode : Mode) (c : Char) (rest : List Char) :
    Except Rejection Step :=
  match mode with
  | .raw element =>
      match beforeMark? (rawEnd element) (c :: rest) with
      | none => .ok .stop
      | some ([], _) => stepAtBracket final mode rest
      | some (before, _) => .ok (.read (.text before mode))
  | .markup =>
      if c == '<' then stepAtBracket final mode rest
      else if c == '&' then stepAtAmpersand final mode rest
      else .ok (.read (.text (c :: rest.takeWhile isPlain) mode))

/-- The lexeme that a reading takes from the start of a text. -/
def Reading.lexeme (r : Reading) (s : List Char) : Lexeme :=
  ⟨s.take r.used, r.token⟩

/-- Where a reading stopped: the lexemes so far, the last one first, the mode,
and the text left over. -/
structure Progress where
  done : List Lexeme
  mode : Mode
  rest : List Char

def scan (final : Bool) (done : List Lexeme) (mode : Mode) (s : List Char) :
    Except Rejection Progress :=
  match s with
  | [] => .ok ⟨done, mode, []⟩
  | c :: rest =>
      match step final mode c rest with
      | .error e => .error e
      | .ok .stop => .ok ⟨done, mode, c :: rest⟩
      | .ok (.stopAfter r) =>
          .ok ⟨r.lexeme (c :: rest) :: done, r.mode, (c :: rest).drop r.used⟩
      | .ok (.read r) => scan final (r.lexeme (c :: rest) ::
          done) r.mode ((c :: rest).drop r.used)
termination_by s.length
decreasing_by exact length_drop_lt r.used_pos

def leftover (mode : Mode) (rest : List Char) : List Lexeme :=
  match mode with
  | .raw _ => []
  | .markup => if rest.isEmpty then [] else [⟨rest, some (.text rest)⟩]

def lexemes (s : List Char) : Except Rejection (List Lexeme) :=
  match scan false [] .markup s with
  | .error e => .error e
  | .ok first =>
      match scan true first.done first.mode first.rest with
      | .error e => .error e
      | .ok second =>
          .ok (second.done.reverse ++ leftover second.mode second.rest)

structure PlacedToken where
  line : Nat
  token : Token

def placeTokens (line : Nat) : List Lexeme → List PlacedToken
  | [] => []
  | l :: rest =>
      let others := placeTokens (line + Text.countLineFeeds l.source) rest
      match l.token with
      | none => others
      | some t => ⟨line, t⟩ :: others

def tokens (s : List Char) : Except Rejection (List PlacedToken) :=
  (lexemes s).map (placeTokens 1)

end Markup
end SiteAudit
