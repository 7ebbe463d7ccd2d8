import TlaRunner.Checker.Decoder
import TlaRunner.Protocol.Reading

/-!
# Chunks and lines

`linesOf` cuts a whole output into lines, and `readLines` reads lines and then
ends the output.  Reading chunks is reading the lines of the bytes they make
together (`consume_bytes`), so where the output was cut cannot be seen.  This holds of
any bytes: what an unfinished or malformed character becomes depends on the bytes
around it, since the decoder and the held line carry over from one chunk to the next.
-/

namespace TlaRunner.Protocol

/-! ## The splitter -/

namespace LineSplitter

/-- The line left over when the output ends, if it has a character. -/
def rest (held : Text) : List Text :=
  if held.isEmpty then [] else [lineOf held]

/-- The lines of a text, its end included. -/
def linesOfText (s : Text) : List Text :=
  (pushAll [] s).1 ++ rest (pushAll [] s).2

/-- The lines of a whole output. -/
def linesOf (bytes : Bytes) : List Text :=
  linesOfText (Text.decode bytes)

/-- Reads chunks in order. -/
def feedAll (splitter : LineSplitter) : List Chunk → List Text × LineSplitter
  | [] => ([], splitter)
  | chunk :: later =>
    let here := splitter.feed chunk
    let after := here.2.feedAll later
    (here.1 ++ after.1, after.2)

theorem feed_bytes_append (splitter : LineSplitter) (a b : Bytes) :
    splitter.feed (.bytes (a ++ b)) =
      ((splitter.feed (.bytes a)).1 ++ ((splitter.feed (.bytes a)).2.feed (.bytes b)).1,
        ((splitter.feed (.bytes a)).2.feed (.bytes b)).2) := by
  simp only [feed, pushText, Text.Decoder.run_append, pushAll_append]

/-- The splitter sees the bytes and not the chunks. -/
theorem feedAll_bytes (splitter : LineSplitter) (chunks : List Bytes) :
    splitter.feedAll (chunks.map .bytes) = splitter.feed (.bytes chunks.flatten) := by
  induction chunks generalizing splitter with
  | nil => rfl
  | cons chunk later ih =>
      rw [List.map_cons, List.flatten_cons, feed_bytes_append, feedAll, ih]

/-- An unfinished character has no line feed. -/
theorem pushAll_finish (held : Text) (decoder : Text.Decoder) :
    pushAll held decoder.finish = ([], decoder.finish.reverse ++ held) := by
  cases decoder with
  | ready => rfl
  | within left bits low high => rfl
  | surrogate => rfl

/-- What the splitter gives while it reads and when the output ends are the lines of
the output. -/
theorem feed_flush (bytes : Bytes) :
    (start.feed (.bytes bytes)).1 ++ (start.feed (.bytes bytes)).2.flush.1 = linesOf bytes := by
  simp only [linesOf, linesOfText, Text.decode, pushAll_append, pushAll_finish, feed, pushText,
    flush, start, rest, List.append_nil]
  rfl

end LineSplitter

/-! ## Emissions one after another -/

namespace Emissions

variable {α : Type}

/-- Goes on from a state that was reached without a fault. -/
def andThen (here : α × Emissions) (next : α → α × Emissions) : α × Emissions :=
  match here.2.fault with
  | some _ => here
  | none => ((next here.1).1, ⟨here.2.seen ++ (next here.1).2.seen, (next here.1).2.fault⟩)

theorem andThen_of_fault {here : α × Emissions} {fault : Fault}
    (h : here.2.fault = some fault) (next : α → α × Emissions) :
    andThen here next = here := by
  rw [andThen, h]

theorem andThen_of_ok {here : α × Emissions} (h : here.2.fault = none)
    (next : α → α × Emissions) :
    andThen here next =
      ((next here.1).1, ⟨here.2.seen ++ (next here.1).2.seen, (next here.1).2.fault⟩) := by
  rw [andThen, h]

theorem andThen_assoc (here : α × Emissions) (next last : α → α × Emissions) :
    andThen (andThen here next) last = andThen here fun a => andThen (next a) last := by
  simp only [andThen]
  cases hfault : here.2.fault with
  | some fault => simp only [hfault]
  | none =>
      cases hnext : (next here.1).2.fault with
      | some fault => simp only [hnext]
      | none => simp only [List.append_assoc]

end Emissions

/-! ## Reports -/

/-- A session has a report once it has a result. -/
theorem Session.report_eq_ok_iff {σ ρ : Type} {d : Decoder σ ρ} {s : Session σ ρ} {report : ρ} :
    s.report d = .ok report ↔ s.result = some report := by
  rw [Session.report]
  cases s.result with
  | none => exact iff_of_false (fun h => by cases h) fun h => by cases h
  | some result => rw [Except.ok.injEq, Option.some.injEq]

/-! ## Reading lines -/

namespace Reading

variable {σ ρ : Type} (d : Decoder σ ρ)

/-- Ends the output. -/
def closeLines (stopped : Bool) (s : Session σ ρ) : Session σ ρ × Emissions :=
  ((s.close d stopped).1, Emissions.ofEvents (s.close d stopped).2)

/-- Reads lines in order, and then ends the output. -/
def readLines (s : Session σ ρ) (lines : List Text) (stopped : Bool) :
    Session σ ρ × Emissions :=
  Emissions.andThen (feedLines d s lines) (closeLines d stopped)

theorem feedLines_cons (s : Session σ ρ) (line : Text) (lines : List Text) :
    feedLines d s (line :: lines) =
      Emissions.andThen ((s.feed d line).1, .ofReply (s.feed d line).2)
        fun s => feedLines d s lines := by
  rcases hfeed : s.feed d line with ⟨after, reply⟩
  rw [feedLines, hfeed]
  cases hfault : (Emissions.ofReply reply).fault with
  | some fault => rw [Emissions.andThen_of_fault hfault]; simp only [hfault]
  | none => rw [Emissions.andThen_of_ok hfault]; simp only [hfault]

theorem feedLines_append (s : Session σ ρ) (a b : List Text) :
    feedLines d s (a ++ b) =
      Emissions.andThen (feedLines d s a) fun s => feedLines d s b := by
  induction a generalizing s with
  | nil => rfl
  | cons line a ih =>
      rw [List.cons_append, feedLines_cons, feedLines_cons, Emissions.andThen_assoc]
      simp only [ih]

theorem readLines_append (s : Session σ ρ) (a b : List Text) (stopped : Bool) :
    readLines d s (a ++ b) stopped =
      Emissions.andThen (feedLines d s a) fun s => readLines d s b stopped := by
  rw [readLines, feedLines_append, Emissions.andThen_assoc]
  rfl

theorem feedChunks_cons (r : Reading σ ρ) (chunk : Chunk) (later : List Chunk) :
    r.feedChunks d (chunk :: later) =
      Emissions.andThen (r.feedChunk d chunk) fun r => r.feedChunks d later := by
  rw [feedChunks]
  cases hfault : (r.feedChunk d chunk).2.fault with
  | some fault =>
      rw [Emissions.andThen_of_fault hfault]
      simp only [hfault]
  | none =>
      rw [Emissions.andThen_of_ok hfault]
      simp only [hfault]

theorem feedChunks_singleton (r : Reading σ ρ) (chunk : Chunk) :
    r.feedChunks d [chunk] = r.feedChunk d chunk := by
  rw [feedChunks_cons]
  cases hfault : (r.feedChunk d chunk).2.fault with
  | some fault => exact Emissions.andThen_of_fault hfault _
  | none =>
      rw [Emissions.andThen_of_ok hfault]
      simp only [feedChunks, List.append_nil, ← hfault]

theorem feedChunks_append (r : Reading σ ρ) (a b : List Chunk) :
    r.feedChunks d (a ++ b) =
      Emissions.andThen (r.feedChunks d a) fun r => r.feedChunks d b := by
  induction a generalizing r with
  | nil => rfl
  | cons chunk a ih =>
      rw [List.cons_append, feedChunks_cons, feedChunks_cons, Emissions.andThen_assoc]
      simp only [ih]

/-- Reading chunks is reading the lines they complete.  The splitter is behind only
where a fault ended the reading. -/
theorem feedChunks_eq (splitter : LineSplitter) (s : Session σ ρ) (chunks : List Chunk) :
    let run := feedLines d s (splitter.feedAll chunks).1
    ∃ rest, feedChunks d ⟨splitter, s⟩ chunks = (⟨rest, run.1⟩, run.2) ∧
      (run.2.fault = none → rest = (splitter.feedAll chunks).2) := by
  induction chunks generalizing splitter s with
  | nil => exact ⟨splitter, rfl, fun _ => rfl⟩
  | cons chunk later ih =>
      simp only [LineSplitter.feedAll, feedLines_append, feedChunks, feedChunk]
      cases hfault : (feedLines d s (splitter.feed chunk).1).2.fault with
      | some fault =>
          rw [Emissions.andThen_of_fault hfault]
          exact ⟨_, rfl, fun h => by simp [hfault] at h⟩
      | none =>
          rw [Emissions.andThen_of_ok hfault]
          obtain ⟨rest, hrun, hrest⟩ :=
            ih (splitter.feed chunk).2 (feedLines d s (splitter.feed chunk).1).1
          rw [hrun]
          exact ⟨rest, rfl, hrest⟩

/-- A chunk that was read without a fault may be read in two. -/
theorem feedChunk_append {r : Reading σ ρ} {a : Bytes}
    (h : (r.feedChunk d (.bytes a)).2.fault = none) (b : Bytes) :
    (r.feedChunk d (.bytes (a ++ b))).1 =
        ((r.feedChunk d (.bytes a)).1.feedChunk d (.bytes b)).1 ∧
      (r.feedChunk d (.bytes (a ++ b))).2.fault =
        ((r.feedChunk d (.bytes a)).1.feedChunk d (.bytes b)).2.fault := by
  simp only [feedChunk, LineSplitter.feed_bytes_append, feedLines_append] at h ⊢
  rw [Emissions.andThen_of_ok h]
  exact ⟨rfl, rfl⟩

/-- The end of an output is the end of its last line. -/
theorem finish_eq (r : Reading σ ρ) (stopped : Bool) :
    ((r.finish d stopped).1.session, (r.finish d stopped).2) =
      readLines d r.session r.splitter.flush.1 stopped := by
  simp only [finish, readLines, Emissions.andThen]
  cases (feedLines d r.session r.splitter.flush.1).2.fault with
  | some fault => rfl
  | none => rfl

/-- A whole output is chunks and an end. -/
theorem consume_eq (s : Session σ ρ) (chunks : List Chunk) (stopped : Bool) :
    consume d s chunks stopped =
      readLines d s ((LineSplitter.start.feedAll chunks).1
        ++ (LineSplitter.start.feedAll chunks).2.flush.1) stopped := by
  obtain ⟨rest, hrun, hrest⟩ := feedChunks_eq d .start s chunks
  rw [readLines_append, consume, start, hrun]
  cases hfault : (feedLines d s (LineSplitter.start.feedAll chunks).1).2.fault with
  | some fault =>
      rw [Emissions.andThen_of_fault hfault]
      simp only [hfault]
  | none =>
      rw [Emissions.andThen_of_ok hfault, ← hrest hfault, ← finish_eq d ⟨rest, _⟩]
      simp only [hfault]

/-- Reading an output in chunks is reading its lines. -/
theorem consume_bytes (s : Session σ ρ) (chunks : List Bytes) (stopped : Bool) :
    consume d s (chunks.map .bytes) stopped =
      readLines d s (LineSplitter.linesOf chunks.flatten) stopped := by
  rw [consume_eq, LineSplitter.feedAll_bytes, LineSplitter.feed_flush]

/-- An output that was read in one chunk without a fault was consumed when it is finished. -/
theorem consume_of_feedChunk {s : Session σ ρ} {output : Bytes}
    (h : ((start s).feedChunk d (.bytes output)).2.fault = none) (stopped : Bool) :
    let read := ((start s).feedChunk d (.bytes output)).1
    (consume d s [.bytes output] stopped).1 = (read.finish d stopped).1.session ∧
      (consume d s [.bytes output] stopped).2.fault = (read.finish d stopped).2.fault := by
  simp only [consume, feedChunks, h, and_self]

/-- Chunks that were read without a fault were consumed when the reading is finished. -/
theorem consume_of_feedChunks {s : Session σ ρ} {chunks : List Chunk} {r : Reading σ ρ}
    {seen : List Emission} (h : (start s).feedChunks d chunks = (r, ⟨seen, none⟩))
    (stopped : Bool) :
    consume d s chunks stopped = ((r.finish d stopped).1.session,
      ⟨seen ++ (r.finish d stopped).2.seen, (r.finish d stopped).2.fault⟩) := by
  rw [consume, h]

/-- Where the output was cut into chunks cannot be seen: what is shown, the events, the
fault that ended the reading and the report depend on its bytes alone. -/
theorem consume_congr (s : Session σ ρ) {first second : List Bytes}
    (h : first.flatten = second.flatten) (stopped : Bool) :
    consume d s (first.map .bytes) stopped = consume d s (second.map .bytes) stopped := by
  rw [consume_bytes, consume_bytes, h]

/-- Cuts inside a character, between the two characters of a line end, and before an
unfinished character. -/
theorem consume_congr_cut :
    let whole : List Bytes := [[0xE2, 0x82, 0xAC, 0x0D, 0x0A, 0xE2, 0x82]]
    let cut : List Bytes := [[0xE2], [0x82, 0xAC, 0x0D], [], [0x0A, 0xE2], [0x82]]
    consume Checker.decoder (Checker.session none) (whole.map .bytes) false =
      consume Checker.decoder (Checker.session none) (cut.map .bytes) false :=
  consume_congr Checker.decoder (Checker.session none) (by decide) false

end Reading

end TlaRunner.Protocol
