import TlaRunner.Protocol.Session

/-!
# Messages without a grammar

A decoder that only shows what the protocol delivers: each message becomes one
progress event that spells it out as a JSON array of its code, its class and its
lines.  Lines outside messages are passed over.
-/

namespace TlaRunner.Protocol.Plain

/-- A character in a JSON string. -/
def jsonChar (c : Char) : Text :=
  if c = '"' then "\\\"".toList
  else if c = '\\' then "\\\\".toList
  else if c = '\n' then "\\n".toList
  else if c = '\r' then "\\r".toList
  else if c = '\t' then "\\t".toList
  else if c.toNat = 8 then "\\b".toList
  else if c.toNat = 12 then "\\f".toList
  else if c.toNat < 0x20 then "\\u".toList ++ Text.padLeft 4 '0' (Nat.toDigits 16 c.toNat)
  else [c]

/-- A JSON string. -/
def jsonString (s : Text) : Text :=
  '"' :: s.flatMap jsonChar ++ ['"']

/-- A JSON array. -/
def jsonArray (items : List Text) : Text :=
  '[' :: Text.join ", ".toList items ++ [']']

/-- A message as JSON. -/
def spell (m : Message) : Text :=
  jsonArray [Text.ofNat m.code, (m.subCode.map Text.ofNat).getD "null".toList,
    jsonArray (m.lines.map jsonString)]

/-- The tool whose name the events carry. -/
def tool : Tool := .modelChecker

/-- The decoder. -/
def decoder : Decoder Unit ParseReport where
  tool := tool
  onLine g _ := ⟨g, .ok []⟩
  onMessage g m := ⟨g, .ok [.progress tool (spell m) none]⟩
  onEnd g := (g, [])
  report g _ := ⟨tool, [], [], g.conditions⟩
  wrap := .parse

/-- A session before any output. -/
def session : Session Unit ParseReport :=
  .start ⟨(), .empty, []⟩

end TlaRunner.Protocol.Plain
