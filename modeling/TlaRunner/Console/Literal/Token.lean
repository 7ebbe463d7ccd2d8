import TlaRunner.Console.Literal.Number
import TlaRunner.Text.Name
import TlaRunner.Text.Printable

/-!
# Tokens of expressions

An expression is read as tokens: names, numbers, quoted strings and signs.  Between the
tokens of one line stand spaces, tabs, form feeds, comments, and line ends behind a
backslash.  Any other line end is a token itself, unless a bracket is open or nothing
stood on the line.  The last token is the end of the text.

Reading stops at the first fault, and the tokens before it are kept: what is wrong with
their order may be told instead.  A fault `rules` if it is told whatever else is wrong.
-/

namespace TlaRunner.Console.Literal

/-- The kinds of tokens. -/
inductive TokenKind
  | name | number | string | sign | lineEnd | indent | stop
  deriving DecidableEq, Repr

/-- A token. -/
structure Token where
  /-- Its kind. -/
  kind : TokenKind
  /-- How it is written. -/
  text : Text
  /-- The number of brackets that are open behind it. -/
  depth : Nat
  /-- The line it starts on. -/
  line : Nat
  deriving DecidableEq, Repr

/-- Why a text has no more tokens. -/
inductive TokenFault
  /-- A closing bracket closes nothing. -/
  | unmatched (close : Char)
  /-- A closing bracket closes a bracket of another kind, which may be on another line. -/
  | mismatched (close opened : Char) (line : Option Nat)
  /-- A bracket is not closed. -/
  | unclosed (opened : Char) (line : Nat)
  /-- Too many brackets are open. -/
  | tooDeep
  /-- A string is not closed, as is seen on a line. -/
  | openString (long : Bool) (line : Nat)
  /-- A number is refused. -/
  | number (fault : NumberFault)
  /-- A character is no part of a name. -/
  | character (c : Char)
  /-- Something follows a backslash. -/
  | continued
  /-- Nothing follows a line end behind a backslash. -/
  | cutOff
  deriving DecidableEq, Repr

namespace TokenFault

/-- The wording of a fault. -/
def message : TokenFault → Text
  | unmatched close => "unmatched '".toList ++ close :: ['\'']
  | mismatched close opened line =>
    "closing parenthesis '".toList ++ close :: "' does not match opening parenthesis '".toList
      ++ opened :: '\''
      :: ((line.map fun n => " on line ".toList ++ Text.ofNat n).getD [])
  | unclosed opened _ => '\'' :: opened :: "' was never closed".toList
  | tooDeep => "too many nested parentheses".toList
  | openString long line =>
    (if long then "unterminated triple-quoted string literal".toList
      else "unterminated string literal".toList)
      ++ " (detected at line ".toList ++ Text.ofNat line ++ [')']
  | number fault => fault.message
  | character c =>
    let code := "U+".toList ++ Text.padLeft 4 '0' ((Nat.toDigits 16 c.toNat).map Char.toUpper)
    if Text.isPrintable c then
      "invalid character '".toList ++ c :: "' (".toList ++ code ++ [')']
    else "invalid non-printable character ".toList ++ code
  | continued => "unexpected character after line continuation character".toList
  | cutOff => "unexpected EOF while parsing".toList

/-- Whether a fault is told whatever else is wrong with the tokens before it. -/
def rules : TokenFault → Bool
  | unclosed .. | continued | cutOff => false
  | _ => true

end TokenFault

/-- The tokens of a text up to the first fault. -/
structure Tokens where
  /-- The tokens. -/
  tokens : List Token
  /-- The fault behind the last of them. -/
  fault : Option TokenFault
  deriving DecidableEq, Repr

/-- Puts tokens in front. -/
def Tokens.add (before : List Token) (t : Tokens) : Tokens :=
  ⟨before ++ t.tokens, t.fault⟩

/-! ## Strings -/

/-- Whether a character is a quote. -/
def isQuote (c : Char) : Bool :=
  c = '"' || c = '\''

/-- The letters that may stand before a string, in lower case. -/
def stringLetters : List Text :=
  ["b".toList, "u".toList, "r".toList, "f".toList, "br".toList, "rb".toList, "fr".toList,
    "rf".toList]

/-- The letters before the string at the front of a text, which may be none. -/
def lettersOf? (s : Text) : Option Text :=
  let letters := s.takeWhile Char.isAlpha
  if (s.drop letters.length).head?.any isQuote
      && (letters.isEmpty || stringLetters.contains (Text.lower letters)) then some letters
  else none

/-- Passes over a string to its end, which takes three quotes if it is `long`.  `run`
counts the quotes that were read last. -/
def closeString (quote : Char) (long : Bool) (run : Nat) : Text → Option Text
  | [] => none
  | c :: s =>
    if c = quote then
      if !long || run = 2 then some s else closeString quote long (run + 1) s
    else if c = '\n' && !long then none
    else if c = '\\' then
      match s with
      | [] => none
      | _ :: s => closeString quote long 0 s
    else closeString quote long 0 s

/-- The number of line ends in a text. -/
def lineEnds (s : Text) : Nat :=
  s.count '\n'

/-- The lines that a string without an end goes on for. -/
def openLines (long : Bool) : Text → Nat
  | '\\' :: '\n' :: s => openLines long s + 1
  | '\\' :: _ :: s => openLines long s
  | '\n' :: s => if long then openLines long s + 1 else 0
  | _ :: s => openLines long s
  | [] => 0

/-- Passes over the string at the front of a text, behind its letters. -/
def stringEnd (line : Nat) : Text → Except TokenFault Text
  | a :: b :: c :: s =>
    if a = b && b = c then
      match closeString a true 0 s with
      | some rest => .ok rest
      | none => .error (.openString true (line + openLines true s))
    else if a = b then .ok (c :: s)
    else short a (b :: c :: s)
  | [a, b] => if a = b then .ok [] else short a [b]
  | a :: s => short a s
  | [] => .ok []
where
  /-- Passes over the rest of a string on one line. -/
  short (quote : Char) (s : Text) : Except TokenFault Text :=
    match closeString quote false 0 s with
    | some rest => .ok rest
    | none => .error (.openString false (line + openLines false s))

/-! ## Signs -/

/-- The signs of several characters, longer ones first. -/
def longSigns : List Text :=
  ["**=".toList, "...".toList, "//=".toList, "<<=".toList, ">>=".toList, "!=".toList,
    "%=".toList, "&=".toList, "**".toList, "*=".toList, "+=".toList, "-=".toList,
    "->".toList, "//".toList, "/=".toList, ":=".toList, "<<".toList, "<=".toList,
    "<>".toList, "==".toList, ">=".toList, ">>".toList, "@=".toList, "^=".toList,
    "|=".toList]

/-- The sign at the front of a text that starts with a character. -/
def signOf (c : Char) (s : Text) : Text :=
  (longSigns.find? (Text.startsWith · (c :: s))).getD [c]

/-- The bracket that a closing bracket closes. -/
def opening? (c : Char) : Option Char :=
  if c = ')' then some '(' else if c = '\x7d' then some '\x7b' else none

/-- A bracket that is open. -/
structure Open where
  /-- The bracket. -/
  bracket : Char
  /-- Its line. -/
  line : Nat
  deriving DecidableEq, Repr

/-- The greatest number of brackets that are open together. -/
def depthLimit : Nat := 200

/-- The open brackets behind a sign. -/
def bracketsAfter (line : Nat) (sign : Text) (opens : List Open) :
    Except TokenFault (List Open) :=
  match sign with
  | [c] =>
    if c = '(' ∨ c = '\x7b' then
      if opens.length < depthLimit then .ok (⟨c, line⟩ :: opens) else .error .tooDeep
    else
      match opening? c, opens with
      | none, opens => .ok opens
      | some _, [] => .error (.unmatched c)
      | some bracket, last :: opens =>
        if last.bracket = bracket then .ok opens
        else
          .error (.mismatched c last.bracket (if last.line = line then none else some last.line))
  | _ => .ok opens

/-! ## Texts -/

/-- Whether a character is a space between tokens. -/
def isGap (c : Char) : Bool :=
  c = ' ' || c = '\t' || c = '\x0c'

/-- How far spaces indent what follows. -/
def indentOf (column : Nat) : Text → Nat
  | ' ' :: s => indentOf (column + 1) s
  | '\t' :: s => indentOf ((column / 8 + 1) * 8) s
  | '\x0c' :: s => indentOf 0 s
  | _ => column

/-- What follows the end of a text. -/
def ending (line : Nat) : List Open → Tokens
  | [] => ⟨[⟨.stop, [], 0, line⟩], none⟩
  | last :: _ => ⟨[], some (.unclosed last.bracket last.line)⟩

/-- The tokens of the rest of a text.  Each round passes over a character or more, so
the length of the text is enough `fuel`.  `opens` are the open brackets, last one first,
and nothing stood on the line before if it is `fresh`. -/
def tokensFrom (line : Nat) (fresh : Bool) (opens : List Open) : (fuel : Nat) → Text → Tokens
  | 0, _ => ending line opens
  | fuel + 1, s =>
    let rest := s.dropWhile isGap
    let depth := opens.length
    match rest with
    | [] => ending line opens
    | '#' :: comment => tokensFrom line fresh opens fuel (comment.dropWhile (· ≠ '\n'))
    | '\n' :: s =>
      let more := tokensFrom (line + 1) true opens fuel s
      if fresh || depth ≠ 0 then more else more.add [⟨.lineEnd, [], depth, line⟩]
    | c :: s' =>
      let inward := if fresh && depth = 0 && indentOf 0 s ≠ 0 then [⟨.indent, [], 0, line⟩] else []
      let stopAt (fault : TokenFault) : Tokens := ⟨inward, some fault⟩
      let goOn (kind : TokenKind) (opens : List Open) (rest' : Text) : Tokens :=
        let text := rest.take (rest.length - rest'.length)
        (tokensFrom (line + lineEnds text) false opens fuel rest').add
          (inward ++ [⟨kind, text, opens.length, line⟩])
      match lettersOf? rest with
      | some letters =>
        match stringEnd line (rest.drop letters.length) with
        | .ok rest => goOn .string opens rest
        | .error fault => stopAt fault
      | none =>
        if c.isAlpha || c = '_' || 128 ≤ c.toNat then
          match Text.nameBreak? (rest.takeWhile isWordUnit) with
          | none => goOn .name opens (rest.dropWhile isWordUnit)
          | some c => stopAt (.character c)
        else if startsNumber rest then
          match number rest with
          | .ok rest => goOn .number opens rest
          | .error fault => stopAt (.number fault)
        else if c = '\\' then
          match s' with
          | ['\n'] =>
            match ending line opens with
            | ⟨_, some fault⟩ => stopAt fault
            | _ => stopAt .cutOff
          | '\n' :: s => (tokensFrom (line + 1) false opens fuel s).add inward
          | _ => stopAt .continued
        else
          let sign := signOf c s'
          if !Text.isPrintable c then stopAt (.character c)
          else
            match bracketsAfter line sign opens with
            | .ok opens => goOn .sign opens (rest.drop sign.length)
            | .error fault => stopAt fault

/-- The tokens of a text. -/
def tokensOf (s : Text) : Tokens :=
  tokensFrom 1 true [] (s.length + 1) s

end TlaRunner.Console.Literal
