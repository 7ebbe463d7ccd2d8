import TlaRunner.Text.Numeral
import TlaRunner.Text.Scan

/-!
# Message markers

In tool mode the output interleaves free text with messages.  A message stands
between a start marker with its code and optional class, and an end marker with
its code, each on a line of its own:

    @!@!@STARTMSG 2185:0 @!@!@
    @!@!@ENDMSG 2185 @!@!@

A line is a marker if nothing else but blanks stands on it.  Lines that are shown
to the user lose the markers inside them.
-/

namespace TlaRunner.Protocol

open Text (Scan)

/-- The characters around a marker. -/
def fence : Text := "@!@!@".toList

/-- What a line says about messages. -/
inductive Marker
  /-- A message starts, with the digits of its code and class. -/
  | start (code : Text) (subCode : Option Text)
  /-- A message ends, with the digits of its code. -/
  | stop (code : Text)
  deriving DecidableEq, Repr

/-- Reads the digits of a class behind a colon. -/
def classDigits : Scan Text := do
  Scan.literal [':']
  Scan.digits

/-- Reads a start marker. -/
def startMarker : Scan (Text × Option Text) := do
  Scan.literal (fence ++ "STARTMSG".toList)
  let _ ← Scan.many Text.isBlank
  let code ← Scan.digits
  let subCode ← Scan.optional classDigits
  let _ ← Scan.many Text.isBlank
  Scan.literal fence
  return (code, subCode)

/-- Reads an end marker. -/
def endMarker : Scan Text := do
  Scan.literal (fence ++ "ENDMSG".toList)
  let _ ← Scan.many Text.isBlank
  let code ← Scan.digits
  let _ ← Scan.many Text.isBlank
  Scan.literal fence
  return code

/-- Reads a marker of either kind, where an end marker may have a class too. -/
def anyMarker : Scan Unit := do
  Scan.literal fence
  Scan.literal "START".toList <|> Scan.literal "END".toList
  Scan.literal "MSG".toList
  let _ ← Scan.many Text.isBlank
  let _ ← Scan.digits
  let _ ← Scan.optional classDigits
  let _ ← Scan.many Text.isBlank
  Scan.literal fence

/-- The marker a line consists of. -/
def Marker.ofLine? (line : Text) : Option Marker :=
  let s := Text.strip line
  match Scan.front (startMarker <* Scan.atEnd) s with
  | some (code, subCode) => some (.start code subCode)
  | none => (Scan.front (endMarker <* Scan.atEnd) s).map .stop

/-- A line without the markers inside it, or nothing if it had nothing else.  A
line that was empty stays. -/
def stripMarkers (line : Text) : Option Text :=
  if line.isEmpty then some line
  else
    let cleaned := Scan.eraseAll anyMarker line
    if cleaned.isEmpty then none else some cleaned

end TlaRunner.Protocol
