import TlaRunner.Console.Literal.Quote

/-!
# Refused expressions

Most expressions that break the rules are refused in general words.  For common
mistakes there are words of their own.
-/

namespace TlaRunner.Console.Literal

/-- Why the parameters of a function are refused. -/
inductive ParameterFault
  /-- A parameter without a default follows one that has it. -/
  | needsDefault
  /-- The parameters stand in brackets. -/
  | bracketed
  /-- Nothing stands before a slash. -/
  | firstSlash
  /-- There are two slashes. -/
  | slashTwice
  /-- A slash follows a star. -/
  | slashAfterStar
  /-- A star follows a slash at once. -/
  | starAtSlash
  /-- No name follows a star. -/
  | bareStar
  /-- The parameter behind a star has a default. -/
  | starDefault
  /-- There are two stars. -/
  | starTwice
  /-- The parameter behind two stars has a default. -/
  | lastDefault
  /-- Something follows the parameter behind two stars. -/
  | afterLast
  /-- A default is missing. -/
  | emptyDefault
  deriving DecidableEq, Repr

/-- The wording of refused parameters. -/
def ParameterFault.message : ParameterFault → Text
  | needsDefault => "non-default argument follows default argument".toList
  | bracketed => "Lambda expression parameters cannot be parenthesized".toList
  | firstSlash => "at least one argument must precede /".toList
  | slashTwice => "/ may appear only once".toList
  | slashAfterStar => "/ must be ahead of *".toList
  | starAtSlash => "expected comma between / and *".toList
  | bareStar => "named arguments must follow bare *".toList
  | starDefault => "var-positional argument cannot have default value".toList
  | starTwice => "* argument may appear only once".toList
  | lastDefault => "var-keyword argument cannot have default value".toList
  | afterLast => "arguments cannot follow var-keyword argument".toList
  | emptyDefault => "expected default value expression".toList

/-- Why a template is refused. -/
inductive TemplateFault
  /-- A closing bracket stands alone. -/
  | lonelyClose
  /-- The bracket of an expression is not closed. -/
  | unclosed
  /-- An expression is empty, before a character that ends it or before its bracket. -/
  | empty (before : Option Char)
  /-- An expression holds a backslash. -/
  | backslash
  /-- An expression holds the sign of a comment. -/
  | comment
  /-- A string in an expression is not closed. -/
  | openString
  /-- A bracket in an expression has no partner. -/
  | unmatched (bracket : Char)
  /-- A bracket in an expression closes one of another kind. -/
  | mismatched (close opened : Char)
  /-- Too many brackets are open in an expression. -/
  | tooDeep
  /-- Expressions are nested too deeply. -/
  | nested
  /-- A conversion is not known. -/
  | conversion
  deriving DecidableEq, Repr

/-- The wording of a refused template. -/
def TemplateFault.message (f : TemplateFault) : Text :=
  match f with
  | lonelyClose => "f-string: single '\x7d' is not allowed".toList
  | unclosed => "f-string: expecting '\x7d'".toList
  | empty none => "f-string: empty expression not allowed".toList
  | empty (some c) => "f-string: expression required before '".toList ++ [c, '\'']
  | backslash => "f-string expression part cannot include a backslash".toList
  | comment => "f-string expression part cannot include '#'".toList
  | openString => "f-string: unterminated string".toList
  | unmatched bracket => "f-string: unmatched '".toList ++ [bracket, '\'']
  | mismatched close opened =>
    "f-string: closing parenthesis '".toList ++ close
      :: "' does not match opening parenthesis '".toList ++ [opened, '\'']
  | tooDeep => "f-string: too many nested parenthesis".toList
  | nested => "f-string: expressions nested too deeply".toList
  | conversion =>
    "f-string: invalid conversion character: expected 's', 'r', or 'a'".toList

/-- Why an expression is refused. -/
inductive Fault
  /-- It breaks a rule. -/
  | plain
  /-- A line is indented. -/
  | indented
  /-- It is nested too deeply. -/
  | tooLarge
  /-- Its tokens cannot be read. -/
  | token (fault : TokenFault)
  /-- An integer has too many digits. -/
  | numeral (error : Text.NumeralError)
  /-- A string is refused. -/
  | string (fault : StringFault)
  /-- A template is refused. -/
  | template (fault : TemplateFault)
  /-- An expression in a template is refused. -/
  | inTemplate (fault : Fault)
  /-- Parameters are refused. -/
  | parameters (fault : ParameterFault)
  /-- Two expressions follow each other. -/
  | noComma
  /-- A condition has no second branch. -/
  | noElse
  /-- A procedure is called without brackets. -/
  | bareCall (procedure : Text)
  /-- A value is named that cannot be. -/
  | named (what : Text)
  /-- An equals sign stands alone behind a name. -/
  | equals
  /-- An equals sign stands alone behind another expression. -/
  | equalsAfter (what : Text)
  /-- What is assigned to is no target. -/
  | target (what : Text)
  /-- The name of an argument is no name. -/
  | argumentName
  /-- What a loop yields is unpacked. -/
  | yieldUnpacked
  /-- What a loop yields needs brackets. -/
  | yieldSeveral
  /-- What a loop yields is a table to unpack. -/
  | yieldTable
  /-- A loop among arguments needs brackets. -/
  | bareLoop
  /-- An argument to unpack follows a table of arguments. -/
  | unpackedLate
  /-- An argument without a name follows one that has it, or a table of arguments. -/
  | unnamedLate (afterTable : Bool)
  /-- A star stands where nothing can be unpacked. -/
  | starred (double : Bool)
  /-- The value of an entry has a star. -/
  | starredValue
  /-- An entry has no value. -/
  | noValue
  /-- An entry has no colon. -/
  | noColon
  deriving DecidableEq, Repr

/-- The wording of a refused expression. -/
def Fault.message : Fault → Text
  | plain => "invalid syntax".toList
  | indented => "unexpected indent".toList
  | tooLarge => []
  | token fault => fault.message
  | numeral error =>
    error.message ++ " - Consider hexadecimal for huge integer literals ".toList
      ++ "to avoid decimal conversion limits.".toList
  | string fault => fault.message
  | template fault => fault.message
  | inTemplate fault => "f-string: ".toList ++ fault.message
  | parameters fault => fault.message
  | noComma => "invalid syntax. Perhaps you forgot a comma?".toList
  | noElse => "expected 'else' after 'if' expression".toList
  | bareCall procedure =>
    "Missing parentheses in call to '".toList ++ procedure ++ "'. Did you mean ".toList
      ++ procedure ++ "(...)?".toList
  | named what => "cannot use assignment expressions with ".toList ++ what
  | equals => "invalid syntax. Maybe you meant '==' or ':=' instead of '='?".toList
  | equalsAfter what =>
    "cannot assign to ".toList ++ what
      ++ " here. Maybe you meant '==' instead of '='?".toList
  | target what => "cannot assign to ".toList ++ what
  | argumentName =>
    "expression cannot contain assignment, perhaps you meant \"==\"?".toList
  | yieldUnpacked => "iterable unpacking cannot be used in comprehension".toList
  | yieldSeveral => "did you forget parentheses around the comprehension target?".toList
  | yieldTable => "dict unpacking cannot be used in dict comprehension".toList
  | bareLoop => "Generator expression must be parenthesized".toList
  | unpackedLate =>
    "iterable argument unpacking follows keyword argument unpacking".toList
  | unnamedLate afterTable =>
    "positional argument follows keyword argument".toList
      ++ (if afterTable then " unpacking".toList else [])
  | starred double =>
    if double then "cannot use double starred expression here".toList
    else "cannot use starred expression here".toList
  | starredValue => "cannot use a starred expression in a dictionary value".toList
  | noValue => "expression expected after dictionary key and ':'".toList
  | noColon => "':' expected after dictionary key".toList

end TlaRunner.Console.Literal
