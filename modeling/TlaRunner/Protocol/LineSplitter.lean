import TlaRunner.Text.Utf8

/-!
# Lines from chunks

Tool output arrives in chunks that end anywhere, inside a line or inside a
character.  The splitter keeps what is not finished: the bytes of a character in
its decoder, and the characters of a line.  A line ends at a line feed and loses
one carriage return before it.  `flush` gives up the unfinished line when the
output ends, if it has a character.

A chunk of text skips the decoder: bytes that wait there stay behind it.
-/

namespace TlaRunner.Protocol

/-- A piece of output. -/
inductive Chunk
  /-- Encoded. -/
  | bytes (content : Bytes)
  /-- Decoded. -/
  | text (content : Text)
  deriving DecidableEq, Repr

/-- The bytes of a chunk. -/
def Chunk.encoded : Chunk → Bytes
  | .bytes content => content
  | .text content => Text.encode content

/-- The unfinished part of the output. -/
structure LineSplitter where
  /-- The unfinished character. -/
  decoder : Text.Decoder
  /-- The unfinished line, last character first. -/
  held : Text
  deriving DecidableEq, Repr

namespace LineSplitter

/-- The splitter before any output. -/
def start : LineSplitter := ⟨.ready, []⟩

/-- The line of the held characters, without one carriage return at its end. -/
def lineOf : Text → Text
  | '\r' :: held => held.reverse
  | held => held.reverse

/-- The lines that characters complete, and the characters held after them. -/
def pushAll (held : Text) : Text → List Text × Text
  | [] => ([], held)
  | c :: s =>
    if c = '\n' then
      let later := pushAll [] s
      (lineOf held :: later.1, later.2)
    else pushAll (c :: held) s

/-- Reads decoded characters. -/
def pushText (splitter : LineSplitter) (s : Text) : List Text × LineSplitter :=
  let result := pushAll splitter.held s
  (result.1, { splitter with held := result.2 })

/-- Reads a chunk: the lines it completes, and the splitter after it. -/
def feed (splitter : LineSplitter) : Chunk → List Text × LineSplitter
  | .text content => splitter.pushText content
  | .bytes content =>
    let decoded := splitter.decoder.run content
    { splitter with decoder := decoded.2 }.pushText decoded.1

/-- The line left over at the end of the output, if any, and a splitter that holds
nothing. -/
def flush (splitter : LineSplitter) : List Text × LineSplitter :=
  let held := splitter.decoder.finish.reverse ++ splitter.held
  (if held.isEmpty then [] else [lineOf held], start)

theorem pushAll_append (held a b : Text) :
    pushAll held (a ++ b) =
      ((pushAll held a).1 ++ (pushAll (pushAll held a).2 b).1,
        (pushAll (pushAll held a).2 b).2) := by
  induction a generalizing held with
  | nil => simp [pushAll]
  | cons c s ih => by_cases h : c = '\n' <;> simp [pushAll, h, ih]

end LineSplitter

end TlaRunner.Protocol
