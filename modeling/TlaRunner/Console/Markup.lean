import TlaRunner.Console.Emoji
import TlaRunner.Console.Literal
import TlaRunner.Console.Strip
import TlaRunner.Console.Style

/-!
# Styled text

Styled text marks its parts by tags in square brackets: `[name]` opens a style,
`[/name]` closes the last open style of that name, and `[/]` closes the last one; what
is still open at the end is closed there.  Only a bracket followed by a small letter,
`#`, `/` or `@` starts a tag, and a backslash before it makes it plain text.  A tag that
starts with `@` names an action, whose arguments have to be literal values.

`Marked.ofMarkup` gives the text without its tags, with pictures for their names and
with a mark for every tag.  Closing what is not open is refused, and so are arguments
that are no values.  A style is only looked into where the text is drawn, so
`Marked.fault?` tells what is refused then.
-/

namespace TlaRunner.Console

/-- Why styled text is refused. -/
inductive MarkupFault
  /-- A closing tag closes no open tag. -/
  | unopened (tag : Text) (position : Nat)
  /-- A closing tag without a name closes nothing. -/
  | nothingOpen (position : Nat)
  /-- A component of a color is no numeral. -/
  | numeral (error : Text.NumeralError)
  /-- The arguments of an action are no literal value. -/
  | arguments (given action : Text) (fault : LiteralFault)
  deriving DecidableEq, Repr

/-- The wording of a refusal. -/
def MarkupFault.message : MarkupFault → Text
  | unopened tag position =>
    "closing tag '[".toList ++ tag ++ "]' at position ".toList ++ Text.ofNat position
      ++ " doesn't match any open tag".toList
  | nothingOpen position =>
    "closing tag '[/]' at position ".toList ++ Text.ofNat position
      ++ " has nothing to close".toList
  | numeral error => error.message
  | arguments given action fault =>
    let place := match fault with
      | .malformed _ => Text.quoted given ++ " in ".toList ++ Text.quoted action
      | _ => Text.quoted action
    "error parsing ".toList ++ place ++ "; ".toList ++ fault.message

/-! ## Tags -/

/-- Whether a character may follow the bracket of a tag. -/
def opensTag (c : Char) : Bool :=
  ('a' ≤ c && c ≤ 'z') || c = '#' || c = '/' || c = '@'

/-- What stands in the tag at the front of a text. -/
def tag? : Text → Option Text
  | '[' :: c :: s =>
    if opensTag c then
      let body := s.takeWhile fun d => d ≠ '[' && d ≠ ']'
      match s.drop body.length with
      | ']' :: _ => some (c :: body)
      | _ => none
    else none
  | _ => none

/-- A piece of styled text. -/
inductive Piece
  | plain (s : Text)
  /-- A tag and the number of characters before it. -/
  | tag (content : Text) (position : Nat)
  deriving DecidableEq, Repr

/-- A piece of plain text, unless it is empty. -/
def plainPiece (held : Text) : List Piece :=
  if held.isEmpty then [] else [.plain held.reverse]

/-- Cuts the rest of a text into pieces.  `held` is the plain text before it, last
character first, and `skip` counts the characters that were read ahead. -/
def piecesFrom (position skip : Nat) (held : Text) : Text → List Piece
  | [] => plainPiece held
  | c :: s =>
    match skip with
    | n + 1 => piecesFrom (position + 1) n held s
    | 0 =>
      let slashes := if c = '\\' then ((c :: s).takeWhile (· = '\\')).length else 0
      match tag? ((c :: s).drop slashes) with
      | none => piecesFrom (position + 1) 0 (c :: held) s
      | some tag =>
        let kept := (if slashes < 2 then [] else [Piece.plain (Text.repeated (slashes / 2) '\\')])
        let piece :=
          if slashes % 2 = 1 then Piece.plain ('[' :: tag ++ [']'])
          else .tag tag (position + slashes)
        plainPiece held ++ kept ++ piece
          :: piecesFrom (position + 1) (slashes + tag.length + 1) [] s

/-- The pieces of styled text. -/
def piecesOf (s : Text) : List Piece :=
  piecesFrom 0 0 [] s

/-! ## Text -/

/-- Whether a character is shown by nothing at all. -/
def isDropped (c : Char) : Bool :=
  c.toNat = 7 || c.toNat = 8 || c.toNat = 11 || c.toNat = 12 || c.toNat = 13

/-- A text without the characters that are shown by nothing. -/
def sanitize (s : Text) : Text :=
  s.filter (!isDropped ·)

/-- The text that a plain piece shows. -/
def shownText (s : Text) : Text :=
  sanitize (replacePictures s)

/-! ## Styles -/

/-- A tag that is open. -/
structure OpenTag where
  /-- The place where it was opened. -/
  start : Nat
  /-- The name of its style. -/
  name : Text
  /-- What stands behind an equals sign. -/
  parameters : Option Text
  deriving DecidableEq, Repr

/-- The words that name the style of a tag. -/
def OpenTag.style (tag : OpenTag) : Text :=
  match tag.parameters with
  | some parameters => tag.name ++ ' ' :: parameters
  | none => tag.name

/-- What stands in a tag before and behind an equals sign. -/
def splitTag (tag : Text) : Text × Option Text :=
  match tag.dropWhile (· ≠ '=') with
  | [] => (tag, none)
  | _ :: parameters => (tag.takeWhile (· ≠ '='), some parameters)

/-- Takes out the first tag with a name. -/
def takeTag (name : Text) : List OpenTag → Option (OpenTag × List OpenTag)
  | [] => none
  | tag :: rest =>
    if tag.name = name then some (tag, rest)
    else (takeTag name rest).map fun (found, rest) => (found, tag :: rest)

/-- The arguments in the parameters of an action, if these have the form of a name and
arguments; otherwise all of them. -/
def argumentsOf (parameters : Text) : Text :=
  let parameters := Text.strip parameters
  let rest := parameters.dropWhile fun c => Text.isWord c || c = '.'
  if rest.isEmpty then "()".toList
  else if Text.startsWith ['('] rest && Text.endsWith [')'] rest && !rest.contains '\n' then rest
  else parameters

/-- Checks the arguments of an action. -/
def checkAction (parameters : Text) : Except MarkupFault Unit :=
  let given := argumentsOf parameters
  (checkLiteral given).mapError (.arguments given parameters)

/-- The mark that a tag leaves when it is closed. -/
def OpenTag.close (stop : Nat) (tag : OpenTag) : Except MarkupFault Mark :=
  if Text.startsWith ['@'] tag.name then do
    if let some (c :: rest) := tag.parameters then checkAction (c :: rest)
    return ⟨tag.start, stop, []⟩
  else .ok ⟨tag.start, stop, tag.style⟩

/-- The style a name is compared by. -/
def comparedStyle (name : Text) : Except MarkupFault Text :=
  (normalStyle name).mapError .numeral

/-- Adds what pieces show.  `tags` are the open tags, last one first, `shown` is the text
so far, last character first, and `size` its length; `marks` are the marks of the tags
that were closed, last one first. -/
def drawFrom (tags : List OpenTag) (marks : List Mark) (shown : Text) (size : Nat) :
    List Piece → Except MarkupFault Marked
  | [] =>
    let marks := tags.reverse.map (fun tag => ⟨tag.start, size, tag.style⟩) ++ marks
    .ok ⟨shown.reverse, marks.mergeSort fun a b => a.start ≤ b.start⟩
  | .plain s :: rest =>
    let s := shownText (Text.replace "\\[".toList ['['] s)
    drawFrom tags marks (s.reverse ++ shown) (size + s.length) rest
  | .tag content position :: rest =>
    match splitTag content with
    | ('/' :: name, _) => do
      let name := Text.strip name
      if name.isEmpty then
        match tags with
        | [] => .error (.nothingOpen position)
        | tag :: tags => drawFrom tags ((← tag.close size) :: marks) shown size rest
      else
        match takeTag (← comparedStyle name) tags with
        | none => .error (.unopened content position)
        | some (tag, tags) => drawFrom tags ((← tag.close size) :: marks) shown size rest
    | (name, parameters) => do
      drawFrom (⟨size, ← comparedStyle name, parameters⟩ :: tags) marks shown size rest

/-- What is refused when a marked part is drawn. -/
def Mark.fault? (m : Mark) : Option MarkupFault :=
  match Style.ofName? m.style with
  | .ok _ => none
  | .error error => some (.numeral error)

namespace Marked

/-- What styled text shows. -/
def ofMarkup (s : Text) : Except MarkupFault Marked :=
  if s.contains '[' then drawFrom [] [] [] 0 (piecesOf s) else .ok (plain (shownText s))

/-- What is refused when a marked text is drawn. -/
def fault? (m : Marked) : Option MarkupFault :=
  m.marks.findSome? (·.fault?)

/-- The strips of lines that are drawn together. -/
def strips (lines : List Marked) : Except MarkupFault (List Strip) :=
  match lines.findSome? (·.fault?) with
  | some fault => .error fault
  | none => .ok (lines.map pieces)

end Marked

end TlaRunner.Console
