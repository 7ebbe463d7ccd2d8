import TlaRunner.Console.Screen

/-!
# Messages

What the program itself says is printed as plain text, behind a mark for its tone
where marks are wanted.  A heading stands apart from what was printed before: either
between dashes or in the middle of a rule.  Headings are styled text.
-/

namespace TlaRunner.Console

/-- The tone of a message. -/
inductive Tone
  | note
  | success
  | caution
  | failure
  deriving DecidableEq, Repr

/-- The mark of a tone. -/
def Tone.mark : Tone → Text
  | note => "ℹ️ ".toList
  | success => "✅ ".toList
  | caution => "⚠️ ".toList
  | failure => "❌ ".toList

namespace Screen

/-- The lines of a message. -/
def message (screen : Screen) (marked : Bool) (tone : Tone) (s : Text) : List Text :=
  screen.text ((if marked then tone.mark else []) ++ s)

/-- The lines of a heading between dashes. -/
def heading (screen : Screen) (title : Text) : Except MarkupFault (List Text) :=
  screen.markup ("\n--- ".toList ++ title ++ " ---".toList)

/-- The lines of a heading in a rule. -/
def ruledHeading (screen : Screen) (title : Text) : Except MarkupFault (List Text) := do
  if title.isEmpty then return [[], screen.rule]
  return [[], ← screen.titledRule (← Marked.ofMarkup title)]

end Screen

end TlaRunner.Console
