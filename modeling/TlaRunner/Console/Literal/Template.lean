import TlaRunner.Console.Literal.Fault

/-!
# Templates

A template is text with expressions in curly brackets; a doubled bracket stands for the
bracket itself.  Behind an expression may stand an equals sign, then a conversion behind
an exclamation mark, then a format behind a colon, which is a template again.  A format
may hold expressions, but these have no formats with expressions of their own.

An expression ends at the first of these signs that stands outside its brackets and
strings, where `!=`, `==`, `<=` and `>=` are no ends.  It is checked as if it stood in
round brackets.
-/

namespace TlaRunner.Console.Literal

/-- A refusal of a template. -/
abbrev Checked (α : Type) := Except Fault α

/-- Refuses a template. -/
def refuseTemplate {α : Type} (fault : TemplateFault) : Checked α :=
  .error (.template fault)

/-! ## Text -/

/-- How the text before an expression ends. -/
structure TextEnd where
  /-- The text. -/
  text : Text
  /-- Whether it ends with a doubled bracket, behind which more text may follow. -/
  doubled : Bool
  /-- What follows. -/
  rest : Text
  deriving DecidableEq, Repr

/-- The same end of a text that has more characters in front. -/
def TextEnd.add (front : Text) (e : TextEnd) : TextEnd :=
  { e with text := front ++ e.text }

/-- Whether a character is a curly bracket. -/
def isCurly (c : Char) : Bool :=
  c = '\x7b' || c = '\x7d'

/-- Where a name in curly brackets stands, if one is passed over. -/
inductive NamePlace
  | outside
  /-- Behind the letter that announces it. -/
  | announced
  | inside
  deriving DecidableEq, Repr

/-- Finds the end of the text in front of an expression, or in front of the bracket that
closes a format. -/
def textEnd (isRaw : Bool) (level : Nat) (place : NamePlace) : Text → Checked TextEnd
  | [] => .ok ⟨[], false, []⟩
  | c :: s =>
    match place with
    | .inside => do
      return (← textEnd isRaw level (if c = '\x7d' then .outside else .inside) s).add [c]
    | .announced => do
      return (← textEnd isRaw level (if c = '\x7b' then .inside else .outside) s).add [c]
    | .outside =>
      let curly (front : Text) (c : Char) (s : Text) : Checked TextEnd :=
        if level ≠ 0 then .ok ⟨front, false, c :: s⟩
        else
          match s with
          | d :: rest =>
            if d = c then .ok ⟨front ++ [c], true, rest⟩
            else if c = '\x7d' then refuseTemplate .lonelyClose
            else .ok ⟨front, false, c :: s⟩
          | [] => if c = '\x7d' then refuseTemplate .lonelyClose else .ok ⟨front, false, [c]⟩
      if c = '\\' && !isRaw then
        match s with
        | [] => .ok ⟨[c], false, []⟩
        | d :: s =>
          if isCurly d then curly [c] d s
          else do
            return (← textEnd isRaw level (if d = 'N' then .announced else .outside) s).add [c, d]
      else if isCurly c then curly [] c s
      else do return (← textEnd isRaw level .outside s).add [c]

/-! ## Expressions -/

/-- What a part of an expression stands in. -/
structure Inside where
  /-- The quote of the string it stands in, if there is one. -/
  quote : Option Char
  /-- Whether the quote is a triple one. -/
  long : Bool
  /-- The open brackets, last one first. -/
  opens : Text
  deriving DecidableEq, Repr

/-- Whether a character opens a string or a bracket, or closes a bracket. -/
def closerOf (c : Char) : Char :=
  if c = '(' then ')' else if c = '\x7b' then '\x7d' else c

/-- Finds the end of an expression: the expression, and what follows.  `skip` counts the
characters that were read ahead. -/
def expressionEnd (inside : Inside) (skip : Nat) : Text → Checked (Text × Text)
  | [] =>
    if inside.quote.isSome then refuseTemplate .openString
    else
      match inside.opens with
      | bracket :: _ => refuseTemplate (.unmatched bracket)
      | [] => .ok ([], [])
  | c :: s =>
    let goOn (inside : Inside) (skip : Nat) : Checked (Text × Text) := do
      let (e, rest) ← expressionEnd inside skip s
      return (c :: e, rest)
    let tripled : Bool := match s with
      | a :: b :: _ => a = c && b = c
      | _ => false
    match skip with
    | skip + 1 => goOn inside skip
    | 0 =>
      if c = '\\' then refuseTemplate .backslash
      else
        match inside.quote with
        | some quote =>
          if c = quote && !inside.long then goOn { inside with quote := none } 0
          else if c = quote && tripled then goOn { inside with quote := none, long := false } 2
          else goOn inside 0
        | none =>
          if isQuote c then
            goOn { inside with quote := some c, long := tripled } (if tripled then 2 else 0)
          else if c = '(' || c = '\x7b' then
            if inside.opens.length < depthLimit then goOn { inside with opens := c :: inside.opens } 0
            else refuseTemplate .tooDeep
          else if c = '#' then refuseTemplate .comment
          else if inside.opens.isEmpty && "!:\x7d=><".toList.contains c then
            if "!=><".toList.contains c && s.head? = some '=' then goOn inside 1
            else if c = '<' || c = '>' then goOn inside 0
            else .ok ([], c :: s)
          else if c = ')' || c = '\x7d' then
            match inside.opens with
            | [] => refuseTemplate (.unmatched c)
            | bracket :: opens =>
              if closerOf bracket = c then goOn { inside with opens } 0
              else refuseTemplate (.mismatched c bracket)
          else goOn inside 0

/-- Whether a character is passed over between tokens. -/
def isLoose (c : Char) : Bool :=
  isGap c || c = '\n'

/-- Whether a character is passed over behind an equals sign. -/
def isSpace (c : Char) : Bool :=
  isLoose c || c = '\r' || c = '\x0b'

/-- Checks an expression that ends before a character. -/
def checkInner (inner : Text → Checked Unit) (e : Text) (stop : Char) : Checked Unit :=
  if e.all isLoose then refuseTemplate (.empty (if stop = '\x7d' then none else some stop))
  else
    match inner ('(' :: e ++ [')']) with
    | .error (.token fault) => .error (.token fault)
    | .error fault => .error (.inTemplate fault)
    | .ok () => .ok ()

/-- Passes over an equals sign behind an expression. -/
def afterEquals : Text → Text
  | '=' :: s => s.dropWhile isSpace
  | s => s

/-- Passes over a conversion. -/
def afterConversion : Text → Checked Text
  | '!' :: s =>
    match s with
    | [] => refuseTemplate .unclosed
    | c :: s => if "sra".toList.contains c then .ok s else refuseTemplate .conversion
  | s => .ok s

/-! ## Templates -/

/-- Checks a template, and gives what follows a format.  Each round passes over a
character or more, so the length of the text is enough `fuel`.  A format is a template of
a higher level than the template it stands in. -/
def checkTemplate (inner : Text → Checked Unit) (isRaw : Bool) (level : Nat) :
    (fuel : Nat) → Text → Checked Text
  | 0, s => .ok s
  | fuel + 1, s => do
    let front ← textEnd isRaw level .outside s
    if !isRaw then (checkEscapes front.text).mapError .string
    if front.doubled then checkTemplate inner isRaw level fuel front.rest
    else
      match front.rest with
      | '\x7b' :: s =>
        if 2 ≤ level then refuseTemplate .nested
        let (e, rest) ← expressionEnd ⟨none, false, []⟩ 0 s
        match rest with
        | [] => refuseTemplate .unclosed
        | stop :: _ =>
          checkInner inner e stop
          let rest ← afterConversion (afterEquals rest)
          let rest ← (match rest with
            | ':' :: s => checkTemplate inner isRaw (level + 1) fuel s
            | rest => .ok rest)
          match rest with
          | '\x7d' :: s => checkTemplate inner isRaw level fuel s
          | _ => refuseTemplate .unclosed
      | rest => if level ≠ 0 && rest.isEmpty then refuseTemplate .unclosed else .ok rest

end TlaRunner.Console.Literal
