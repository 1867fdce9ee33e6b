import StackDepth.Proofs.ReportText
import StackDepth.Proofs.Utf8

namespace StackDepth

namespace Sink

variable {sink : Sink} {bytes : List UInt8}

theorem write_append_of_le (h : bytes.length ≤ sink.room) (more : List UInt8) :
    sink.write (bytes ++ more) = (sink.write bytes).1.write more := by
  have htake : (bytes ++ more).take sink.room = bytes ++ more.take (sink.room - bytes.length) := by
    rw [List.take_append, List.take_of_length_le h]
  have hfits : bytes.length + more.length ≤ sink.room ↔
      more.length ≤ sink.room - bytes.length := by omega
  simp only [write, htake, List.take_of_length_le h, List.append_assoc, List.length_append, hfits,
    Nat.sub_sub]

theorem write_append_of_lt (h : sink.room < bytes.length) (more : List UInt8) :
    sink.write (bytes ++ more) = sink.write bytes := by
  have htake : (bytes ++ more).take sink.room = bytes.take sink.room :=
    List.take_append_of_le_length (Nat.le_of_lt h)
  have hroom : sink.room - (bytes.length + more.length) = sink.room - bytes.length := by omega
  have hfits : bytes.length + more.length ≤ sink.room ↔ bytes.length ≤ sink.room := by omega
  simp only [write, htake, List.length_append, hroom, hfits]

theorem writeAll_eq_write (sink : Sink) (pieces : List String) :
    sink.writeAll pieces = sink.write (Utf8.encode (String.join pieces).toList) := by
  induction pieces generalizing sink with
  | nil => simp [writeAll, write, Utf8.encode]
  | cons piece pieces ih =>
    have hjoin : (String.join (piece :: pieces)).toList =
        piece.toList ++ (String.join pieces).toList := by simp
    rw [writeAll, hjoin, Utf8.encode_append]
    by_cases h : (Utf8.encode piece.toList).length ≤ sink.room
    · have hwrite : sink.write (Utf8.encode piece.toList) =
          ((sink.write (Utf8.encode piece.toList)).1, true) := by simp [write, h]
      rw [write_append_of_le h, ← ih, hwrite]
    · have hwrite : sink.write (Utf8.encode piece.toList) =
          ((sink.write (Utf8.encode piece.toList)).1, false) := by simp [write, h]
      rw [write_append_of_lt (Nat.lt_of_not_le h), hwrite]

end Sink

namespace Measurement

variable {m : Measurement}

theorem writeTo_eq (m : Measurement) (sink : Sink) :
    m.writeTo sink = ((sink.write (Utf8.encode m.report.toList)).1,
      if sink.room < (Utf8.encode m.report.toList).length then .full
      else if m.isTooWide then .tooWide else .complete) := by
  have hall := sink.writeAll_eq_write (m.lines.map (· ++ "\n"))
  rw [writeTo, hall, ← report]
  by_cases h : (Utf8.encode m.report.toList).length ≤ sink.room
  · simp [Sink.write, h, Nat.not_lt.mpr h]
  · simp [Sink.write, h, Nat.lt_of_not_le h]

/-- A report on a writer with room for `limit` bytes. Where all lines can be written, the writer
keeps the first `limit` bytes of the text, and writing fails where the text is longer; the pieces in
which the text comes make no difference. At the first step whose line is too wide the writing breaks
off, and until then it is as with the lines in front of it alone. -/
theorem writeTo_keeps_beginning (m : Measurement) (limit : Nat) :
    ((∀ step ∈ m.trace, 4 * step.depth ≤ widestIndent) →
      let bytes := Utf8.encode m.text.toList
      let kept : Sink := ⟨limit - bytes.length, bytes.take limit⟩
      m.writeTo ⟨limit, []⟩ = (kept, if limit < bytes.length then .full else .complete) ∧
      ∀ pieces, String.join pieces = m.text →
        Sink.writeAll ⟨limit, []⟩ pieces = (kept, decide (bytes.length ≤ limit))) ∧
    ∀ before step after, m.trace = before ++ step :: after →
      (∀ s ∈ before, 4 * s.depth ≤ widestIndent) →
      widestIndent < 4 * step.depth → 4 * step.depth < UInt64.size →
      let bytes := Utf8.encode (textBefore before).toList
      m.writeTo ⟨limit, []⟩ = (⟨limit - bytes.length, bytes.take limit⟩,
        if limit < bytes.length then .full else .tooWide) := by
  constructor
  · intro hdepth bytes kept
    have hwide := isTooWide_eq_false hdepth
    constructor
    · rw [writeTo_eq, report_eq_text hwide, hwide]
      rfl
    · intro pieces hpieces
      rw [Sink.writeAll_eq_write, hpieces]
      rfl
  · intro before step after htrace hbefore hdeep hword bytes
    have hnarrow : ∀ s ∈ before, s.isTooWide = false := fun s hs ↦
      TraceStep.isTooWide_eq_false (hbefore s hs)
    have hstep : step.isTooWide := by
      simp only [widestIndent] at hdeep
      exact TraceStep.isTooWide_of_le (by omega) hword
    obtain ⟨hwide, hreport⟩ := report_eq_textBefore htrace hnarrow hstep
    rw [writeTo_eq, hreport, hwide]
    rfl

theorem accentMeasurement_writeTo :
    (∀ step ∈ (Measurement.mk "é" 24 [⟨0, "é", 24⟩]).trace, 4 * step.depth ≤ widestIndent) ∧
    (Measurement.mk "é" 24 [⟨0, "é", 24⟩]).writeTo ⟨8, []⟩ =
      (⟨0, Utf8.encode "stack: ".toList ++ [0xC3]⟩, .full) := by
  have hdepth : ∀ step ∈ (Measurement.mk "é" 24 [⟨0, "é", 24⟩]).trace,
      4 * step.depth ≤ widestIndent := by decide
  refine ⟨hdepth, ?_⟩
  rw [((writeTo_keeps_beginning ⟨"é", 24, [⟨0, "é", 24⟩]⟩ 8).1 hdepth).1]
  decide +kernel

theorem deepMeasurement_writeTo :
    (Measurement.mk "e" 1 [⟨16384, "n", 2⟩]).writeTo ⟨3, []⟩ = (⟨3, []⟩, .tooWide) ∧
    (Utf8.encode (Measurement.mk "e" 1 [⟨16384, "n", 2⟩]).text.toList).take 3 = [32, 32, 32] := by
  have hindent : 3 ≤ (TraceStep.mk 16384 "n" 2).indent := by decide
  have htext : List.replicate 3 ' ' <+: (Measurement.mk "e" 1 [⟨16384, "n", 2⟩]).text.toList := by
    rw [text, textBefore, List.map_singleton, String.toList_append, String.toList_join,
      List.flatMap_singleton]
    refine List.IsPrefix.trans ?_ (List.prefix_append _ _)
    exact (TraceStep.replicate_prefix_line hindent).trans (by simp)
  obtain ⟨rest, hrest⟩ := htext
  constructor
  · decide +kernel
  · rw [← hrest, Utf8.encode_append]
    rfl

end Measurement

end StackDepth
