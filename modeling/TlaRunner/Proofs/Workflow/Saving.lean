import TlaRunner.Proofs.Files.Saver
import TlaRunner.Proofs.Protocol.Chunking
import TlaRunner.Proofs.Workflow.Relay

/-!
# Output that is saved

A run that saves its output writes every piece before it reads it.  So wherever it stops, be it in
the middle of an output that cannot be read, its file holds the pieces that it took, once the file
is closed, and it read those pieces and no others (`Plan.Pulls`).

`Plan.Saves` says what the file of a run holds and what the run has told at each stage, and
`Saves.act` what something that happens to the run makes of it.
-/

namespace TlaRunner.Workflow

open Files (Saver)
open Supervision (Child Exit)
open Protocol (Emission Emissions Reading)

variable {σ ρ : Type}

namespace Plan

/-! ## Pieces on their way into the file -/

/-- Pieces were taken from a state in which the saver had got some bytes: they were read as they
are, and the saver has got them, too. -/
structure Takes (p : Plan σ ρ) (s : ReadState σ ρ) (path : Path) (written : Bytes)
    (pulled : List Bytes) (after : ReadState σ ρ) : Prop where
  /-- What the saver has got. -/
  saver : ∃ last, after.saver = some last ∧ last.path = path ∧
    last.Has after.bench.host (written ++ pulled.flatten)
  /-- What was read. -/
  reading : after.reading = (s.reading.feedChunks p.decoder (pulled.map .bytes)).1
  /-- What was seen in it was told. -/
  yields : s.bench.Yields after.bench.host.tree
    (s.reading.feedChunks p.decoder (pulled.map .bytes)).2.seen after.bench
  /-- The run fails where it cannot be read. -/
  failure : after.failure =
    (s.reading.feedChunks p.decoder (pulled.map .bytes)).2.fault.map Failure.output

variable {p : Plan σ ρ} {s : ReadState σ ρ} {path : Path} {written : Bytes}

/-- One piece is written and read. -/
theorem takes_readPiece (hok : s.failure = none) {saver : Saver} (hsaver : s.saver = some saver)
    (hhas : saver.Has s.bench.host written) (piece : Bytes) :
    p.Takes s saver.path written [piece] (p.readPiece s piece) := by
  obtain ⟨last, tree, hwrite, hpath, hlast⟩ := hhas.write piece
  have hpiece : p.readPiece s piece =
      ⟨(s.bench.setTree tree).relay (s.reading.feedChunk p.decoder (.bytes piece)).2.seen,
        (s.reading.feedChunk p.decoder (.bytes piece)).1, some last,
        (s.reading.feedChunk p.decoder (.bytes piece)).2.fault.map .output⟩ := by
    rw [readPiece, hok, hsaver]
    simp only [Option.mapM_some, hwrite]
    rfl
  have hrelay := (s.bench.setTree tree).yields_relay
    (s.reading.feedChunk p.decoder (.bytes piece)).2.seen
  have hhost : (p.readPiece s piece).bench.host = { s.bench.host with tree } := by
    rw [hpiece, hrelay.host]
    rfl
  constructor
  case saver =>
    refine ⟨last, by rw [hpiece], hpath, ?_⟩
    rw [hhost, List.flatten_singleton]
    exact hlast
  case reading => rw [hpiece, List.map_singleton, Reading.feedChunks_singleton]
  case yields =>
    rw [hhost, hpiece, List.map_singleton, Reading.feedChunks_singleton]
    exact (s.bench.yields_setTree tree).trans hrelay
  case failure => rw [hpiece, List.map_singleton, Reading.feedChunks_singleton]

/-- Taking some pieces and then more. -/
theorem Takes.trans {first more : List Bytes} {middle after : ReadState σ ρ}
    (hfirst : p.Takes s path written first middle) (hok : middle.failure = none)
    (hmore : p.Takes middle path (written ++ first.flatten) more after) :
    p.Takes s path written (first ++ more) after := by
  have hfault : (s.reading.feedChunks p.decoder (first.map .bytes)).2.fault = none := by
    rw [hfirst.failure] at hok
    exact Option.map_eq_none_iff.mp hok
  have hboth : s.reading.feedChunks p.decoder ((first ++ more).map .bytes) =
      ((middle.reading.feedChunks p.decoder (more.map .bytes)).1,
        ⟨(s.reading.feedChunks p.decoder (first.map .bytes)).2.seen ++
          (middle.reading.feedChunks p.decoder (more.map .bytes)).2.seen,
        (middle.reading.feedChunks p.decoder (more.map .bytes)).2.fault⟩) := by
    rw [List.map_append, Reading.feedChunks_append, Emissions.andThen_of_ok hfault,
      ← hfirst.reading]
  constructor
  case saver =>
    obtain ⟨last, hlast, hpath, hhas⟩ := hmore.saver
    refine ⟨last, hlast, hpath, ?_⟩
    rw [List.flatten_append, ← List.append_assoc]
    exact hhas
  case reading => rw [hboth, hmore.reading]
  case yields =>
    rw [hboth]
    exact hfirst.yields.trans hmore.yields
  case failure => rw [hboth, hmore.failure]

/-- A run that has failed takes nothing. -/
theorem foldl_readPiece_of_failure {failure : Failure} (h : s.failure = some failure)
    (pieces : List Bytes) : pieces.foldl p.readPiece s = s := by
  induction pieces with
  | nil => rfl
  | cons piece rest ih =>
      have hpiece : p.readPiece s piece = s := by rw [readPiece, h]
      rw [List.foldl_cons, hpiece]
      exact ih

/-- How far pieces are taken: one after the other, as long as they can be read. -/
structure Pulls (p : Plan σ ρ) (s : ReadState σ ρ) (path : Path) (written : Bytes)
    (pieces pulled : List Bytes) : Prop where
  /-- They are taken. -/
  takes : p.Takes s path written pulled (pieces.foldl p.readPiece s)
  /-- They come first, and none is left if all can be read. -/
  first : ∃ left, pieces = pulled ++ left ∧
    ((pieces.foldl p.readPiece s).failure = none → left = [])
  /-- Those before the last can be read. -/
  readable : (s.reading.feedChunks p.decoder (pulled.dropLast.map .bytes)).2.fault = none

theorem pulls_pieces (hok : s.failure = none) {saver : Saver} (hsaver : s.saver = some saver)
    (hhas : saver.Has s.bench.host written) (pieces : List Bytes) :
    ∃ pulled, p.Pulls s saver.path written pieces pulled := by
  induction pieces generalizing s saver written with
  | nil =>
      refine ⟨[], ⟨⟨saver, hsaver, rfl, ?_⟩, rfl, Bench.Rests.refl _, hok⟩, ⟨[], rfl, fun _ => rfl⟩,
        rfl⟩
      rw [List.flatten_nil, List.append_nil]
      exact hhas
  | cons piece rest ih =>
      have htakes : p.Takes s saver.path written [piece] (p.readPiece s piece) :=
        takes_readPiece hok hsaver hhas piece
      cases hnext : (p.readPiece s piece).failure with
      | some failure =>
          -- the piece cannot be read, so it is the last
          have hlast : (piece :: rest).foldl p.readPiece s = p.readPiece s piece :=
            foldl_readPiece_of_failure hnext rest
          refine ⟨[piece], hlast ▸ htakes, ⟨rest, rfl, fun hnone => ?_⟩, rfl⟩
          rw [hlast, hnext] at hnone
          cases hnone
      | none =>
          obtain ⟨last, hlast, hpath, hgot⟩ := htakes.saver
          obtain ⟨pulled, hrest⟩ := ih hnext hlast hgot
          rw [hpath] at hrest
          obtain ⟨left, hsplit, hleft⟩ := hrest.first
          refine ⟨piece :: pulled, htakes.trans hnext hrest.takes,
            ⟨left, congrArg (piece :: ·) hsplit, hleft⟩, ?_⟩
          cases pulled with
          | nil => rfl
          | cons second pulled =>
              have hfault :
                  (s.reading.feedChunks p.decoder ([piece].map .bytes)).2.fault = none := by
                rw [htakes.failure] at hnext
                exact Option.map_eq_none_iff.mp hnext
              show (s.reading.feedChunks p.decoder
                (([piece] ++ (second :: pulled).dropLast).map .bytes)).2.fault = none
              rw [List.map_append, Reading.feedChunks_append, Emissions.andThen_of_ok hfault,
                ← htakes.reading]
              exact hrest.readable

/-! ## Closing the file -/

/-- When a run closes its file, the file holds all that the saver has got. -/
theorem read?_closeSaver {b : Bench} {saver : Saver} {written : Bytes}
    (hhas : saver.Has b.host written) :
    (closeSaver b (some saver)).host.read? saver.path = .ok (some written) :=
  hhas.read?_close

theorem read?_abandon {b : Bench} {saver : Saver} {written : Bytes}
    (hhas : saver.Has b.host written) (p : Plan σ ρ) (process : Nat) (failure : Failure) :
    (p.abandon b process (some saver) failure).1.host.read? saver.path = .ok (some written) := by
  have hrests : (closeSaver b (some saver)).Rests (p.abandon b process (some saver) failure).1 :=
    (Bench.rests_modifyChild _ process _).trans (p.rests_conclude _ _)
  rw [hrests.host]
  exact read?_closeSaver hhas

theorem yields_closeSaver (b : Bench) (saver : Saver) :
    b.Yields (saver.close b.host.tree).2 [] (closeSaver b (some saver)) :=
  b.yields_setTree _

theorem yields_abandon (p : Plan σ ρ) (b : Bench) (process : Nat) (saver : Saver)
    (failure : Failure) :
    b.Yields (saver.close b.host.tree).2 [] (p.abandon b process (some saver) failure).1 :=
  (yields_closeSaver b saver).rests ((Bench.rests_modifyChild _ process _).trans
    (p.rests_conclude _ _))

/-- Whatever pieces come to a run that has opened its file, the file holds those that it took when
it is closed. -/
theorem tees {b : Bench} {saver : Saver} {tree : Files.Tree}
    (hopen : (Saver.of path).open b.host = .ok (saver, tree)) (p : Plan σ ρ)
    (pieces : List Bytes) :
    let s : ReadState σ ρ := ⟨b.setTree tree, .start p.session, some saver, none⟩
    let after := pieces.foldl p.readPiece s
    ∃ pulled, p.Pulls s path [] pieces pulled ∧
      (closeSaver after.bench after.saver).host.read? path = .ok (some pulled.flatten) := by
  intro s after
  obtain ⟨rfl, hhas⟩ := Files.Saver.has_of_open hopen
  obtain ⟨pulled, hpulls⟩ := pulls_pieces (p := p) (s := s) rfl rfl hhas pieces
  obtain ⟨last, hlast, hpath, hgot⟩ := hpulls.takes.saver
  have hclosed : (closeSaver after.bench after.saver).host.read? last.path =
      .ok (some pulled.flatten) := hlast ▸ read?_closeSaver hgot
  exact ⟨pulled, hpulls, hpath ▸ hclosed⟩

/-- A run that opens a file has a saver that has got nothing. -/
theorem openSaver_ok (hsaved : p.saved = true) {b after : Bench} {saver : Option Saver}
    (h : p.openSaver b = .ok (saver, after)) :
    ∃ file tree, saver = some file ∧ Files.outputFile p.spec.modulePath = .ok file.path ∧
      b.Yields tree [] after ∧ file.Has after.host [] := by
  rw [openSaver, if_pos hsaved] at h
  cases hpath : Files.outputFile p.spec.modulePath with
  | error error =>
      rw [hpath] at h
      cases h
  | ok path =>
      rw [hpath] at h
      change (((Saver.of path).open b.host).mapError Failure.saver >>= fun opened =>
        pure (some opened.1, b.setTree opened.2)) = _ at h
      cases hopen : (Saver.of path).open b.host with
      | error fault =>
          rw [hopen] at h
          cases h
      | ok opened =>
          rw [hopen] at h
          cases h
          obtain ⟨rfl, hhas⟩ := Files.Saver.has_of_open hopen
          exact ⟨opened.1, opened.2, rfl, rfl, b.yields_setTree _, hhas⟩

/-! ## What a file holds at each stage -/

/-- The file for the output holds bytes. -/
def Filed (p : Plan σ ρ) (b : Bench) (bytes : Bytes) : Prop :=
  ∃ path, Files.outputFile p.spec.modulePath = .ok path ∧ b.host.read? path = .ok (some bytes)

/-- Of an output that its file holds a report was made, and what was seen in it was told. -/
structure Records (p : Plan σ ρ) (b : Bench) (told : List Emission) (report : ρ)
    (pulled : List Bytes) (stopped : Bool) : Prop where
  /-- The file holds the output. -/
  filed : p.Filed b pulled.flatten
  /-- All of it can be read. -/
  fault : (Reading.consume p.decoder p.session (pulled.map .bytes) stopped).2.fault = none
  /-- The report is made of it. -/
  report : (Reading.consume p.decoder p.session (pulled.map .bytes) stopped).1.result = some report
  /-- What was seen in it was told. -/
  told : told = b.shown (Reading.consume p.decoder p.session (pulled.map .bytes) stopped).2.seen

/-- What the file of a run holds that saves its output, and what the run has told. -/
inductive Saves (p : Plan σ ρ) (b : Bench) (told : List Emission) : Stage σ ρ → Prop
  /-- The run has not begun to read. -/
  | prepares {stage : Stage σ ρ} (htool : stage.tool? = none) (hopen : stage.isEnded = false)
      (htold : told = []) : Saves p b told stage
  /-- Its saver has got what it has read. -/
  | reads {process : Nat} {reading : Reading σ ρ} {saver : Saver} {pulled : List Bytes}
      {seen : List Emission} (hpath : Files.outputFile p.spec.modulePath = .ok saver.path)
      (hhas : saver.Has b.host pulled.flatten)
      (hread : (Reading.start p.session).feedChunks p.decoder (pulled.map .bytes) =
        (reading, ⟨seen, none⟩))
      (htold : told = b.shown seen) : Saves p b told (.reading process reading (some saver))
  /-- Its file holds what it has read. -/
  | waits {process : Nat} {report : ρ} {pulled : List Bytes} {stopped : Bool}
      (hrecords : p.Records b told report pulled stopped) : Saves p b told (.exiting process report)

/-- How a run breaks off while it reads: its file holds what it took, and what could be seen in that
was told. -/
inductive Breaks (p : Plan σ ρ) (after : Bench) (told : List Emission) :
    Stage σ ρ → Failure → Prop
  /-- It was given up after some pieces. -/
  | dropped {process : Nat} {reading : Reading σ ρ} {saver : Option Saver} {failure : Failure}
      {pulled : List Bytes} {seen : List Emission} (hfiled : p.Filed after pulled.flatten)
      (hread : (Reading.start p.session).feedChunks p.decoder (pulled.map .bytes) =
        (reading, ⟨seen, none⟩))
      (htold : told = after.shown seen) :
      Breaks p after told (.reading process reading saver) failure
  /-- The last piece that it took cannot be read. -/
  | stuck {stage : Stage σ ρ} {fault : Protocol.Fault} {pulled : List Bytes}
      (hfiled : p.Filed after pulled.flatten)
      (hfault : ((Reading.start p.session).feedChunks p.decoder (pulled.map .bytes)).2.fault =
        some fault)
      (htold : told = after.shown
        ((Reading.start p.session).feedChunks p.decoder (pulled.map .bytes)).2.seen) :
      Breaks p after told stage (.output fault)
  /-- The output has ended, but no report can be made of it. -/
  | cut {stage : Stage σ ρ} {fault : Protocol.Fault} {pulled : List Bytes} {stopped : Bool}
      (hfiled : p.Filed after pulled.flatten)
      (hfault : let run := Reading.consume p.decoder p.session (pulled.map .bytes) stopped
        run.2.fault = some fault ∨ run.2.fault = none ∧ run.1.report p.decoder = .error fault)
      (htold : told = after.shown
        (Reading.consume p.decoder p.session (pulled.map .bytes) stopped).2.seen) :
      Breaks p after told stage (.output fault)

/-- What something that happens to a run makes of its file and of what it has told. -/
inductive Pours (p : Plan σ ρ) (stage : Stage σ ρ) (after : Bench) (told : List Emission) :
    Stage σ ρ → Prop
  /-- The run goes on. -/
  | goes {next : Stage σ ρ} (h : p.Saves after told next) : Pours p stage after told next
  /-- Its process has ended. -/
  | leaves {process : Nat} {report : ρ} {exit : Exit} (hstage : stage = .exiting process report)
      (h : p.Saves after told stage) : Pours p stage after told (.ended (.ok (report, exit)))
  /-- It breaks off while it reads. -/
  | breaks {failure : Failure} (h : p.Breaks after told stage failure) :
      Pours p stage after told (.ended (.error failure))
  /-- It fails when it does not read. -/
  | fails {failure : Failure} (hsaver : stage.saver? = none) :
      Pours p stage after told (.ended (.error failure))

variable {b after : Bench} {told : List Emission} {stage : Stage σ ρ}

theorem Filed.of_host {bytes : Bytes} (h : p.Filed b bytes) (hhost : after.host = b.host) :
    p.Filed after bytes := by
  rw [Filed, hhost]
  exact h

/-- What happens beside the run does not matter, if it leaves the host alone. -/
theorem Saves.of_host (h : p.Saves b told stage) (hhost : after.host = b.host)
    (hattended : after.attended = b.attended) : p.Saves after told stage := by
  have hshown := Bench.shown_of_attended hattended
  cases h with
  | prepares htool hopen htold => exact .prepares htool hopen htold
  | reads hpath hhas hread htold =>
      refine .reads hpath ?_ hread (htold.trans (hshown _).symm)
      rw [hhost]
      exact hhas
  | waits h =>
      exact .waits ⟨h.filed.of_host hhost, h.fault, h.report, h.told.trans (hshown _).symm⟩

/-! ## Stages -/

/-- What a run comes to that has told something. -/
def Turns (p : Plan σ ρ) (b : Bench) (told : List Emission) (stage : Stage σ ρ) (after : Bench)
    (next : Stage σ ρ) : Prop :=
  ∃ tree seen, b.Yields tree seen after ∧ p.Pours stage after (told ++ b.shown seen) next

/-- Where nothing happens, nothing more is told. -/
theorem turns_of_rests (hrests : b.Rests after) {next : Stage σ ρ}
    (h : p.Pours stage after told next) : p.Turns b told stage after next := by
  refine ⟨_, [], hrests, ?_⟩
  rw [Bench.shown_nil, List.append_nil]
  exact h

/-- A run that has not begun to read has told nothing. -/
theorem turns_of_isEarly (hrests : b.Rests after) {next : Stage σ ρ} (hnext : next.IsEarly)
    (hsaver : stage.saver? = none) : p.Turns b [] stage after next := by
  refine turns_of_rests hrests ?_
  rcases hnext with ⟨htool, hopen⟩ | ⟨failure, rfl⟩
  · exact .goes (.prepares htool hopen rfl)
  · exact .fails hsaver

theorem turns_launch (hsaved : p.saved = true) (b : Bench) (executable : Path) :
    p.Turns b [] (.launching executable) (p.launch b executable).1 (p.launch b executable).2 := by
  rw [launch]
  split
  next => exact turns_of_isEarly (p.rests_conclude b _) (Or.inr ⟨_, rfl⟩) rfl
  next arguments _ =>
    obtain ⟨hstart, hattach⟩ := p.rests_started b executable arguments
    split
    next heq =>
      rw [heq] at hstart
      exact turns_of_isEarly (hstart.trans (p.rests_conclude _ _)) (Or.inr ⟨_, rfl⟩) rfl
    next started process heq =>
      rw [heq] at hattach
      have hheld := hattach process
      simp only
      split
      next failure _ =>
        exact turns_of_isEarly (hheld.trans (p.rests_abandon _ process failure))
          (Or.inr ⟨_, rfl⟩) rfl
      next saver opened hopen =>
        obtain ⟨file, tree, rfl, hpath, hopened, hhas⟩ := openSaver_ok hsaved hopen
        split
        next error _ =>
          exact ⟨_, [], hheld.yields (hopened.trans (yields_abandon p opened process file _)),
            .fails rfl⟩
        next =>
          refine ⟨tree, [], hheld.yields hopened, .goes ?_⟩
          have hnothing : file.Has opened.host ([] : List Bytes).flatten := hhas
          refine .reads hpath hnothing rfl ?_
          rw [Bench.shown_nil, Bench.shown_nil, List.append_nil]

theorem turns_leave {process : Nat} {report : ρ} (h : p.Saves b told (.exiting process report)) :
    p.Turns b told (.exiting process report) (p.leave b process report).1
      (p.leave b process report).2 := by
  obtain ⟨hrests, hnext⟩ := p.rests_leave b process report
  have hthen := h.of_host hrests.host hrests.attended
  refine turns_of_rests hrests ?_
  rcases hnext with hwaits | ⟨exit, hended⟩
  · rw [hwaits]
    exact .goes hthen
  · rw [hended]
    exact .leaves rfl hthen

/-- What was read before and what is read then was told, once it was shown. -/
theorem told_append {tree : Files.Tree} {seen more : List Emission}
    (hyields : b.Yields tree more after) (htold : told = b.shown seen) :
    told ++ b.shown more = after.shown (seen ++ more) := by
  rw [Bench.shown_of_attended hyields.attended, Bench.shown_append, htold]

/-- A run that is given up while it reads. -/
theorem turns_abandon {process : Nat} {reading : Reading σ ρ} {saver : Option Saver}
    (h : p.Saves b told (.reading process reading saver)) (failure : Failure) :
    p.Turns b told (.reading process reading saver) (p.abandon b process saver failure).1
      (p.abandon b process saver failure).2 := by
  cases h with
  | prepares htool => cases htool
  | @reads _ _ saver pulled seen hpath hhas hread htold =>
      have hyields := yields_abandon p b process saver failure
      refine ⟨_, [], hyields, .breaks (.dropped ?_ hread ?_)⟩
      · exact ⟨saver.path, hpath, read?_abandon hhas p process failure⟩
      · rw [told_append hyields htold, List.append_nil]

/-- How far a run has come with its output that had seen some of it before. -/
structure Reached (p : Plan σ ρ) (b : Bench) (seen more : List Emission) (pulled : List Bytes)
    (s : ReadState σ ρ) : Prop where
  /-- The saver has got all that was taken. -/
  saver : ∃ saver, s.saver = some saver ∧
    Files.outputFile p.spec.modulePath = .ok saver.path ∧ saver.Has s.bench.host pulled.flatten
  /-- That was read. -/
  reading : ((Reading.start p.session).feedChunks p.decoder (pulled.map .bytes)).1 = s.reading
  /-- More was seen in it than before. -/
  seen : ((Reading.start p.session).feedChunks p.decoder (pulled.map .bytes)).2.seen = seen ++ more
  /-- The run fails where it cannot be read. -/
  failure : s.failure =
    ((Reading.start p.session).feedChunks p.decoder (pulled.map .bytes)).2.fault.map Failure.output
  /-- What was seen besides was told. -/
  yields : b.Yields s.bench.host.tree more s.bench

/-- A run that reads comes further by the pieces that it takes. -/
theorem reached_readOn (process : Nat) (child : Child) {reading : Reading σ ρ} {saver : Saver}
    {before : List Bytes} {seen : List Emission}
    (hpath : Files.outputFile p.spec.modulePath = .ok saver.path)
    (hhas : saver.Has b.host before.flatten)
    (hread : (Reading.start p.session).feedChunks p.decoder (before.map .bytes) =
      (reading, ⟨seen, none⟩)) :
    ∃ more pulled,
      p.Reached b seen more pulled (p.readOn b process child reading (some saver)) := by
  obtain ⟨pulled, hpulls⟩ := pulls_pieces (p := p)
    (s := ⟨b.modifyChild process fun c => { c with unread := [] }, reading, some saver, none⟩)
    rfl rfl hhas (Child.pieces Child.readSize child.unread.length child.unread)
  have htakes := hpulls.takes
  rw [← readOn] at htakes
  have hfault : ((Reading.start p.session).feedChunks p.decoder (before.map .bytes)).2.fault =
      none := by rw [hread]
  have hall : (Reading.start p.session).feedChunks p.decoder ((before ++ pulled).map .bytes) =
      ((reading.feedChunks p.decoder (pulled.map .bytes)).1,
        ⟨seen ++ (reading.feedChunks p.decoder (pulled.map .bytes)).2.seen,
          (reading.feedChunks p.decoder (pulled.map .bytes)).2.fault⟩) := by
    rw [List.map_append, Reading.feedChunks_append, Emissions.andThen_of_ok hfault, hread]
  refine ⟨_, before ++ pulled, ?_, ?_, ?_, ?_, (b.rests_modifyChild process _).yields htakes.yields⟩
  · obtain ⟨last, hlast, hsame, hgot⟩ := htakes.saver
    refine ⟨last, hlast, hsame ▸ hpath, ?_⟩
    rw [List.flatten_append]
    exact hgot
  · rw [hall, htakes.reading]
  · rw [hall]
  · rw [hall, htakes.failure]

section

variable {here : Bench} {reading : Reading σ ρ} {saver : Saver} {pulled : List Bytes}
  {seen more : List Emission}

/-- When more is told, the saver still has got what it had. -/
theorem yields_last (hyields : b.Yields here.host.tree more here)
    (hhas : saver.Has here.host pulled.flatten) (last : List Emission) :
    b.Yields here.host.tree (more ++ last) (here.relay last) ∧
      saver.Has (here.relay last).host pulled.flatten := by
  have hrelay := here.yields_relay last
  refine ⟨hyields.trans hrelay, ?_⟩
  rw [hrelay.host]
  exact hhas

/-- A run may break off when its output has ended. -/
theorem turns_cut (htold : told = b.shown seen) (hyields : b.Yields here.host.tree more here)
    (hpath : Files.outputFile p.spec.modulePath = .ok saver.path)
    (hhas : saver.Has here.host pulled.flatten)
    (hread : (Reading.start p.session).feedChunks p.decoder (pulled.map .bytes) =
      (reading, ⟨seen ++ more, none⟩)) (process : Nat) {stopped : Bool} {fault : Protocol.Fault}
    (hfault : let last := reading.finish p.decoder stopped
      last.2.fault = some fault ∨
        last.2.fault = none ∧ last.1.session.report p.decoder = .error fault) :
    let last := (reading.finish p.decoder stopped).2.seen
    p.Turns b told stage (p.abandon (here.relay last) process (some saver) (.output fault)).1
      (.ended (.error (.output fault))) := by
  intro last
  obtain ⟨hrelayed, hgot⟩ := yields_last hyields hhas last
  have hcut := hrelayed.trans
    (yields_abandon p (here.relay last) process saver (.output fault))
  rw [List.append_nil] at hcut
  have hconsume := Reading.consume_of_feedChunks p.decoder hread stopped
  have hfiled : p.Filed (p.abandon (here.relay last) process (some saver) (.output fault)).1
      pulled.flatten := ⟨saver.path, hpath, read?_abandon hgot p process _⟩
  have hunread : let run := Reading.consume p.decoder p.session (pulled.map .bytes) stopped
      run.2.fault = some fault ∨
        run.2.fault = none ∧ run.1.report p.decoder = .error fault := by
    rw [hconsume]
    exact hfault
  refine ⟨_, _, hcut, .breaks (.cut hfiled hunread ?_)⟩
  rw [told_append hcut htold, hconsume, List.append_assoc]

/-- Otherwise it makes a report of the whole output, which its file holds. -/
theorem turns_reported (htold : told = b.shown seen) (hyields : b.Yields here.host.tree more here)
    (hpath : Files.outputFile p.spec.modulePath = .ok saver.path)
    (hhas : saver.Has here.host pulled.flatten)
    (hread : (Reading.start p.session).feedChunks p.decoder (pulled.map .bytes) =
      (reading, ⟨seen ++ more, none⟩)) (process : Nat) {stopped : Bool} {report : ρ}
    (hfault : (reading.finish p.decoder stopped).2.fault = none)
    (hreport : (reading.finish p.decoder stopped).1.session.report p.decoder = .ok report) :
    let last := (reading.finish p.decoder stopped).2.seen
    p.Turns b told stage (closeSaver (here.relay last) (some saver)) (.exiting process report) := by
  intro last
  obtain ⟨hrelayed, hgot⟩ := yields_last hyields hhas last
  have hclosed := hrelayed.trans (yields_closeSaver (here.relay last) saver)
  rw [List.append_nil] at hclosed
  have hconsume := Reading.consume_of_feedChunks p.decoder hread stopped
  have hrecords : p.Records (closeSaver (here.relay last) (some saver))
      (told ++ b.shown (more ++ last)) report pulled stopped := by
    constructor
    case filed => exact ⟨saver.path, hpath, read?_closeSaver hgot⟩
    case fault =>
      rw [hconsume]
      exact hfault
    case report =>
      rw [hconsume]
      exact Protocol.Session.report_eq_ok_iff.mp hreport
    case told => rw [told_append hclosed htold, hconsume, List.append_assoc]
  exact ⟨_, _, hclosed, .goes (.waits hrecords)⟩

end

/-- A run that reads takes what pieces there are. -/
theorem turns_read {process : Nat} {reading : Reading σ ρ} {saver : Option Saver}
    (h : p.Saves b told (.reading process reading saver)) :
    p.Turns b told (.reading process reading saver) (p.read b process reading saver).1
      (p.read b process reading saver).2 := by
  cases h with
  | prepares htool => cases htool
  | @reads _ _ saver before seen hpath hhas hread htold =>
      rw [Plan.read]
      split
      next => exact turns_of_rests (.refl b) (.goes (.reads hpath hhas hread htold))
      next child _ =>
        obtain ⟨more, pulled, hreached⟩ :=
          reached_readOn process child hpath hhas hread
        generalize p.readOn b process child reading (some saver) = s at hreached ⊢
        obtain ⟨last, hlast, hfile, hgot⟩ := hreached.saver
        simp only [hlast]
        split
        next failure hfailed =>
          -- what was taken last cannot be read
          obtain ⟨fault, hfault, rfl⟩ :=
            Option.map_eq_some_iff.mp (hreached.failure.symm.trans hfailed)
          have hyields :=
            hreached.yields.trans (yields_abandon p s.bench process last (.output fault))
          rw [List.append_nil] at hyields
          refine ⟨_, more, hyields, .breaks (.stuck ?_ hfault ?_)⟩
          · exact ⟨last.path, hfile, read?_abandon hgot p process _⟩
          · rw [told_append hyields htold, hreached.seen]
        next hok =>
          have hfault : ((Reading.start p.session).feedChunks p.decoder
              (pulled.map .bytes)).2.fault = none := by
            rw [hreached.failure] at hok
            exact Option.map_eq_none_iff.mp hok
          have hnow : (Reading.start p.session).feedChunks p.decoder (pulled.map .bytes) =
              (s.reading, ⟨seen ++ more, none⟩) := by
            rw [← hreached.reading, ← hreached.seen, ← hfault]
          split
          next =>
            exact ⟨_, more, hreached.yields,
              .goes (.reads hfile hgot hnow (told_append hreached.yields htold))⟩
          next =>
            split
            next fault hfault =>
              exact turns_cut htold hreached.yields hfile hgot hnow process (Or.inl hfault)
            next hfinished =>
              split
              next fault hnone =>
                exact turns_cut htold hreached.yields hfile hgot hnow process
                  (Or.inr ⟨hfinished, hnone⟩)
              next report hreport =>
                exact turns_reported htold hreached.yields hfile hgot hnow process hfinished hreport

/-- Whatever happens to a run that saves its output, its file holds what it took. -/
theorem Saves.act (h : p.Saves b told stage) (hsaved : p.saved = true) (act : Act) :
    p.Turns b told stage (p.act b stage act).1 (p.act b stage act).2 := by
  have hopen : stage.isEnded = false := by
    cases h with
    | prepares _ hopen => exact hopen
    | reads => rfl
    | waits => rfl
  have hnothing (hearly : stage.tool? = none) : told = [] := by
    cases h with
    | prepares _ _ htold => exact htold
    | reads => cases hearly
    | waits => cases hearly
  cases act with
  | step =>
      cases stage with
      | locating =>
          obtain rfl := hnothing rfl
          obtain ⟨hrests, hnext⟩ := p.rests_locate b
          exact turns_of_isEarly hrests hnext rfl
      | probing process executable =>
          obtain rfl := hnothing rfl
          obtain ⟨hrests, hnext⟩ := p.rests_learn b process executable
          exact turns_of_isEarly hrests hnext rfl
      | launching executable =>
          obtain rfl := hnothing rfl
          exact turns_launch hsaved b executable
      | reading process reading saver => exact turns_read h
      | exiting process report => exact turns_leave h
      | ended result => cases hopen
  | upset reason =>
      cases stage with
      | reading process reading saver => exact turns_abandon h _
      | _ => exact turns_of_rests (.refl b) (.goes h)
  | cancel =>
      cases stage with
      | reading process reading saver => exact turns_abandon h _
      | ended result => cases hopen
      | _ => exact turns_of_rests (p.rests_conclude b _) (.fails rfl)

end Plan

end TlaRunner.Workflow
