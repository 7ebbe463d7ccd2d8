import TlaRunner.Proofs.Analyzer.Decoder
import TlaRunner.Proofs.Analyzer.Grammar
import TlaRunner.Proofs.Protocol.Wrapping

/-!
# Messages around the analyzer's output

The analyzer's decoder reads a message as its lines (`readsByLine`).  Its grammar goes on
from one line to the next, with a finding that may still be read, and it makes no difference
to it when the lines come: whatever the grammar reads may be wrapped in messages
(`readLines_wrapped_eq`).
-/

namespace TlaRunner.Analyzer

open Protocol (Gathered Event Part Marker Session deliver)
open Protocol.Reading (readLines)

theorem onLines_eq (g : Gathered Grammar) (lines : List Text) :
    onLines g lines = deliver decoder g (lines.map fun line => .item (.line line)) := by
  induction lines generalizing g with
  | nil => rfl
  | cons line rest ih =>
      rw [onLines, List.map_cons, deliver]
      simp only [ih]
      rfl

/-- A message is its lines. -/
theorem readsByLine : decoder.ReadsByLine := fun g m => onLines_eq g m.lines

/-- Lines that the grammar reads are read without a fault. -/
theorem deliver_of_reads {g : Gathered Grammar} {lines : List Text}
    (h : g.grammar.Reads lines) :
    ∃ after events, deliver decoder g (lines.map fun line => .item (.line line)) =
      ⟨after, .ok events⟩ := by
  induction lines generalizing g with
  | nil => exact ⟨g, [], rfl⟩
  | cons line rest ih =>
      obtain ⟨⟨result, hread⟩, hrest⟩ := h
      obtain ⟨middle, first, hline⟩ : ∃ middle first, onLine g line = ⟨middle, .ok first⟩ := by
        simp only [onLine, hread]
        exact ⟨_, _, rfl⟩
      rw [← grammar_onLine hline] at hrest
      obtain ⟨after, last, hlast⟩ := ih hrest
      exact ⟨after, first ++ last, Protocol.deliver_cons_eq_ok.mpr
        ⟨middle, first, last, hline, hlast, rfl⟩⟩

/-- Lines without markers that the grammar reads lead to a report without an anomaly. -/
theorem report_of_reads {lines : List Text} (hunmarked : ∀ line ∈ lines, Marker.ofLine? line = none)
    (hreads : Grammar.start.Reads lines) (stopped : Bool) :
    (readLines decoder session lines stopped).2.fault = none ∧
      ∃ report, (readLines decoder session lines stopped).1.report decoder = .ok report ∧
        report.conditions = [] := by
  obtain ⟨after, events, hdeliver⟩ := deliver_of_reads (g := session.gathered) hreads
  have hshort : ∀ line ∈ lines, Protocol.ShortLine line := fun line hline =>
    Protocol.short_of_unmarked (hunmarked line hline)
  have hall := Protocol.driveAll_unmarked hunmarked ▸ hdeliver
  obtain ⟨hsession, hfault, -⟩ := Protocol.Reading.readLines_of_ok hshort hall stopped
  have hconditions : (decoder.onEnd after).1.conditions = [] := by
    have hlines := Protocol.conditions_items (lines.map .line)
    rw [List.map_map] at hlines
    rw [announces.keepsConditions.onEnd after,
      Protocol.conditions_of_deliver announces.keepsConditions hdeliver]
    exact hlines
  refine ⟨hfault, decoder.report (decoder.onEnd after).1 stopped, ?_, hconditions⟩
  exact Session.report_eq_ok_iff.mpr (congrArg Session.result hsession)

/-- Lines without markers that the grammar reads may be wrapped in messages, some of them or
all, with any codes.  They are read without a fault either way, with the same events and the
same lines shown, and they lead to the same report, which has no anomaly. -/
theorem readLines_wrapped_eq {parts : List Part}
    (hunmarked : ∀ line ∈ parts.flatMap Part.content, Marker.ofLine? line = none)
    (hreads : Grammar.start.Reads (parts.flatMap Part.content)) (stopped : Bool) :
    let bare := readLines decoder session (parts.flatMap Part.content) stopped
    let wrapped := readLines decoder session (parts.flatMap Part.lines) stopped
    bare.2.fault = none ∧ wrapped.2.fault = none ∧ wrapped.2.events = bare.2.events ∧
      wrapped.2.echoes = bare.2.echoes ∧
      ∃ report, bare.1.report decoder = .ok report ∧ wrapped.1.report decoder = .ok report ∧
        report.conditions = [] := by
  obtain ⟨hfault, report, hreport, hconditions⟩ := report_of_reads hunmarked hreads stopped
  obtain ⟨hsession, hwrapped, hevents, hechoes⟩ :=
    Protocol.Reading.readLines_wrapped readsByLine hunmarked hfault
  have hsame := (congrArg (Session.report decoder) hsession).trans hreport
  exact ⟨hfault, hwrapped, hevents, hechoes, report, hreport, hsame, hconditions⟩

/-- A finding whose location stands in one message and whose text stands in another one,
behind a message without lines.  The markers have blanks, zeros and classes. -/
def scattered : List Part :=
  [.bare "Parsing file /a/Spec.tla".toList,
    .wrapped ⟨"@!@!@STARTMSG 2220:00 @!@!@".toList, " @!@!@ENDMSG 02220@!@!@\t".toList, 2220,
      some 0, by decide, by decide, by decide, by decide⟩
      ["line 1, col 2 to line 3, col 4 of module Spec".toList],
    .wrapped ⟨"@!@!@STARTMSG7@!@!@".toList, "@!@!@ENDMSG 7 @!@!@".toList, 7, none, by decide,
      by decide, by decide, by decide⟩ [],
    .wrapped ⟨"@!@!@STARTMSG 1:1 @!@!@".toList, "@!@!@ENDMSG 1 @!@!@".toList, 1, some 1, by decide,
      by decide, by decide, by decide⟩ ["first".toList, "second".toList]]

theorem readLines_wrapped_eq_scattered :
    let wrapped := readLines decoder session (scattered.flatMap Part.lines) false
    wrapped.2.fault = none ∧ wrapped.2.events =
        (readLines decoder session (scattered.flatMap Part.content) false).2.events := by
  have hunmarked : ∀ line ∈ scattered.flatMap Part.content, Marker.ofLine? line = none := by decide
  obtain ⟨-, hfault, hevents, -⟩ :=
    readLines_wrapped_eq hunmarked (Grammar.start.reads_of_short (by decide)) false
  exact ⟨hfault, hevents⟩

end TlaRunner.Analyzer
