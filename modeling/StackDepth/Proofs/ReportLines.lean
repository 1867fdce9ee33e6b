import StackDepth.Proofs.Numerals
import StackDepth.Proofs.ReportSink

namespace StackDepth

open Text

theorem Text.append_cons_inj {α : Type} [DecidableEq α] {c : α} {w w' s s' : List α}
    (hs : c ∉ s) (hs' : c ∉ s') (h : w ++ c :: s = w' ++ c :: s') : w = w' ∧ s = s' := by
  have hcut := cut?_beq_append (List.mem_reverse.not.mpr hs) w.reverse
  have hcut' := cut?_beq_append (List.mem_reverse.not.mpr hs') w'.reverse
  have hreverse := congrArg List.reverse h
  simp only [List.reverse_append, List.reverse_cons, List.append_assoc, List.singleton_append]
    at hreverse
  rw [hreverse, hcut'] at hcut
  simpa [eq_comm, and_comm] using hcut

theorem Text.toDigits_inj {n n' : Nat} (h : Nat.toDigits 10 n = Nat.toDigits 10 n') : n = n' := by
  have hvalue (k : Nat) : valueOf 10 (Nat.toDigits 10 k) = k :=
    valueOf_toDigits (by decide) (by decide) k
  rw [← hvalue n, h, hvalue]

theorem Text.mark_not_mem_toDigits {c : Char} (hc : digit? 10 c = none) (n : Nat) :
    c ∉ Nat.toDigits 10 n :=
  not_mem_toDigits (by decide) (by decide) hc n

inductive ReportLine where
  | step (s : TraceStep)
  | total (entry : String) (bytes : UInt64)

namespace ReportLine

def chars : ReportLine → List Char
  | .step s => s.line.toList
  | .total entry bytes => (Measurement.summary ⟨entry, bytes, []⟩).toList

/-- What the line names has no line feed in it, and the line is not too wide. -/
def Plain : ReportLine → Prop
  | .step s => '\n' ∉ s.name.toList ∧ 4 * s.depth ≤ widestIndent
  | .total entry _ => '\n' ∉ entry.toList

variable {s s' : TraceStep} {entry entry' : String} {bytes bytes' : UInt64}

theorem chars_step (h : 4 * s.depth ≤ widestIndent) : chars (.step s) =
    List.replicate (4 * s.depth) ' ' ++ ("stack: ".toList ++
      ((s.name.toList ++ ' ' :: Nat.toDigits 10 s.frame.toNat) ++ " bytes".toList)) := by
  have hindent : s.indent = 4 * s.depth :=
    TraceStep.indent_eq (Nat.lt_of_le_of_lt h (by decide))
  simp [chars, TraceStep.line, hindent, toString]

theorem chars_total (entry : String) (bytes : UInt64) : chars (.total entry bytes) =
    "stack ".toList ++ ((entry.toList ++ " =".toList) ++ ' ' :: Nat.toDigits 10 bytes.toNat) := by
  simp [chars, Measurement.summary, toString]

theorem chars_step_inj (h : 4 * s.depth ≤ widestIndent) (h' : 4 * s'.depth ≤ widestIndent)
    (htext : chars (.step s) = chars (.step s')) : s = s' := by
  rw [chars_step h, chars_step h'] at htext
  have hs (rest : List Char) : ∀ c ∈ ("stack: ".toList ++ rest).head?, (c == ' ') = false := by
    rintro c ⟨⟩
    decide
  have hblank (n : Nat) : ∀ c ∈ List.replicate n ' ', c == ' ' := by simp
  -- the blanks in front tell the depth, and what is behind them tells the name and the frame
  have hindent := congrArg (List.takeWhile (· == ' ')) htext
  have hrest := congrArg (List.dropWhile (· == ' ')) htext
  rw [takeWhile_append_eq (hblank _) (hs _), takeWhile_append_eq (hblank _) (hs _)] at hindent
  rw [dropWhile_append_eq (hblank _) (hs _), dropWhile_append_eq (hblank _) (hs _)] at hrest
  have hdepth : s.depth = s'.depth := by
    have hlength := congrArg List.length hindent
    simp only [List.length_replicate] at hlength
    omega
  have hnamed := List.append_cancel_right (List.append_cancel_left hrest)
  obtain ⟨hname, hframe⟩ :=
    append_cons_inj (mark_not_mem_toDigits rfl _) (mark_not_mem_toDigits rfl _) hnamed
  have hname : s.name = s'.name := String.toList_inj.mp hname
  have hframe : s.frame = s'.frame := UInt64.toNat_inj.mp (toDigits_inj hframe)
  cases s
  cases s'
  simp_all

theorem chars_total_inj (h : chars (.total entry bytes) = chars (.total entry' bytes')) :
    entry = entry' ∧ bytes = bytes' := by
  rw [chars_total, chars_total] at h
  obtain ⟨hentry, hbytes⟩ := append_cons_inj (mark_not_mem_toDigits rfl _)
    (mark_not_mem_toDigits rfl _) (List.append_cancel_left h)
  exact ⟨String.toList_inj.mp (List.append_cancel_right hentry),
    UInt64.toNat_inj.mp (toDigits_inj hbytes)⟩

/-- A step begins with a blank or has a colon where a total has a blank. -/
theorem chars_step_ne_chars_total (h : 4 * s.depth ≤ widestIndent) :
    chars (.step s) ≠ chars (.total entry bytes) := by
  rw [chars_step h, chars_total]
  intro htext
  cases hdepth : 4 * s.depth with
  | zero => simp [hdepth] at htext
  | succ n => simp [hdepth, List.replicate_succ] at htext

theorem chars_inj {a b : ReportLine} (ha : a.Plain) (hb : b.Plain) (h : a.chars = b.chars) :
    a = b := by
  cases a with
  | step s =>
    cases b with
    | step s' => rw [chars_step_inj ha.2 hb.2 h]
    | total entry bytes => exact absurd h (chars_step_ne_chars_total ha.2)
  | total entry bytes =>
    cases b with
    | step s' => exact absurd h.symm (chars_step_ne_chars_total hb.2)
    | total entry' bytes' =>
      obtain ⟨rfl, rfl⟩ := chars_total_inj h
      rfl

theorem newline_not_mem_chars {a : ReportLine} (ha : a.Plain) : '\n' ∉ a.chars := by
  cases a with
  | step s =>
    have hname : '\n' ∉ s.name.toList := ha.1
    have hdigits : '\n' ∉ Nat.toDigits 10 s.frame.toNat := mark_not_mem_toDigits rfl _
    rw [chars_step ha.2]
    simp [hname, hdigits]
  | total entry bytes =>
    have hentry : '\n' ∉ entry.toList := ha
    have hdigits : '\n' ∉ Nat.toDigits 10 bytes.toNat := mark_not_mem_toDigits rfl _
    rw [chars_total]
    simp [hentry, hdigits]

theorem eq_of_map_chars_eq {as bs : List ReportLine} (ha : ∀ a ∈ as, a.Plain)
    (hb : ∀ b ∈ bs, b.Plain) (h : as.map chars = bs.map chars) : as = bs := by
  induction as generalizing bs with
  | nil => simpa [eq_comm] using h
  | cons a as ih =>
    cases bs with
    | nil => simp at h
    | cons b bs =>
      obtain ⟨hfirst, hrest⟩ := List.cons.inj h
      obtain ⟨ha, has⟩ := List.forall_mem_cons.mp ha
      obtain ⟨hb, hbs⟩ := List.forall_mem_cons.mp hb
      rw [chars_inj ha hb hfirst, ih has hbs hrest]

/-- The measurements whose lines these are; `steps` come from the lines before. -/
def gather (steps : List TraceStep) : List ReportLine → List Measurement
  | [] => []
  | .step s :: rest => gather (steps ++ [s]) rest
  | .total entry bytes :: rest => ⟨entry, bytes, steps⟩ :: gather [] rest

@[simp]
theorem gather_map_step (steps trace : List TraceStep) (rest : List ReportLine) :
    gather steps (trace.map .step ++ rest) = gather (steps ++ trace) rest := by
  induction trace generalizing steps with
  | nil => simp
  | cons s trace ih =>
    rw [List.map_cons, List.cons_append, gather, ih, List.append_assoc, List.singleton_append]

end ReportLine

namespace Measurement

open ReportLine

structure Printable (m : Measurement) : Prop where
  entry : '\n' ∉ m.entry.toList
  names : ∀ s ∈ m.trace, '\n' ∉ s.name.toList
  narrow : ∀ s ∈ m.trace, 4 * s.depth ≤ widestIndent

def reportLines (m : Measurement) : List ReportLine :=
  m.trace.map .step ++ [.total m.entry m.bytes]

variable {m : Measurement} {ms : List Measurement}

theorem Printable.plain (h : m.Printable) : ∀ line ∈ m.reportLines, line.Plain := by
  intro line hline
  rcases List.mem_append.mp hline with hstep | htotal
  · obtain ⟨s, hs, rfl⟩ := List.mem_map.mp hstep
    exact ⟨h.names s hs, h.narrow s hs⟩
  · obtain rfl := List.mem_singleton.mp htotal
    exact h.entry

theorem Printable.toList_report (h : m.Printable) :
    m.report.toList = (m.reportLines.map chars).flatMap (· ++ ['\n']) := by
  rw [report_eq_text (isTooWide_eq_false h.narrow)]
  simp [Measurement.text, textBefore, reportLines, ReportLine.chars, summary, List.flatMap_map]

@[simp]
theorem gather_flatMap_reportLines (ms : List Measurement) :
    gather [] (ms.flatMap reportLines) = ms := by
  induction ms with
  | nil => rfl
  | cons m ms ih =>
    rw [List.flatMap_cons, reportLines]
    simp [gather, ih]

theorem plain_of_mem_reportLines (h : ∀ m ∈ ms, m.Printable) :
    ∀ line ∈ ms.flatMap reportLines, line.Plain := by
  intro line hline
  obtain ⟨m, hm, hline⟩ := List.mem_flatMap.mp hline
  exact (h m hm).plain line hline

theorem lines_join_report (h : ∀ m ∈ ms, m.Printable) :
    Text.lines (String.join (ms.map report)).toList = (ms.flatMap reportLines).map chars := by
  have htext : (String.join (ms.map report)).toList =
      ((ms.flatMap reportLines).map chars).flatMap (· ++ ['\n']) := by
    rw [String.toList_join, List.flatMap_map, List.map_flatMap, List.flatMap_assoc]
    exact List.flatMap_congr fun m hm ↦ (h m hm).toList_report
  rw [htext]
  apply lines_flatMap
  intro l hl
  obtain ⟨line, hline, rfl⟩ := List.mem_map.mp hl
  exact newline_not_mem_chars (plain_of_mem_reportLines h line hline)

/-- Reports that are printed one after another tell apart all that was measured: entries, names,
depths and numbers, whatever blanks and signs the names have in them. -/
theorem join_report_inj (ms ms' : List Measurement) (h : ∀ m ∈ ms, m.Printable)
    (h' : ∀ m ∈ ms', m.Printable) :
    String.join (ms.map report) = String.join (ms'.map report) ↔ ms = ms' := by
  constructor
  · intro hjoin
    have hlines : (ms.flatMap reportLines).map chars = (ms'.flatMap reportLines).map chars := by
      rw [← lines_join_report h, ← lines_join_report h', hjoin]
    have hsame :=
      eq_of_map_chars_eq (plain_of_mem_reportLines h) (plain_of_mem_reportLines h') hlines
    rw [← gather_flatMap_reportLines ms, hsame, gather_flatMap_reportLines]
  · rintro rfl
    rfl

def mimicked : List Measurement :=
  [⟨"f = 8", 8, [⟨1, "stack: f 8 bytes", 8⟩]⟩]

def mimic : List Measurement :=
  [⟨"f", 8, [⟨1, "f", 8⟩, ⟨2, "stack: f", 8⟩]⟩, ⟨"f = 8", 8, []⟩]

theorem join_report_mimicked :
    (∀ m ∈ mimicked, m.Printable) ∧ (∀ m ∈ mimic, m.Printable) ∧
      String.join (mimicked.map report) ≠ String.join (mimic.map report) := by
  have hmimicked : ∀ m ∈ mimicked, m.Printable := by
    intro m hm
    obtain rfl := List.mem_singleton.mp hm
    exact ⟨by decide, by decide, by decide⟩
  have hmimic : ∀ m ∈ mimic, m.Printable := by
    intro m hm
    rcases List.mem_pair.mp hm with rfl | rfl
    · exact ⟨by decide, by decide, by decide⟩
    · exact ⟨by decide, by decide, by decide⟩
  refine ⟨hmimicked, hmimic, (join_report_inj mimicked mimic hmimicked hmimic).not.mpr ?_⟩
  decide

end Measurement

end StackDepth
