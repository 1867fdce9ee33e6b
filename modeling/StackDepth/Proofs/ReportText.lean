import StackDepth.Report
import StackDepth.Proofs.TextCut

namespace StackDepth

namespace TraceStep

variable {step : TraceStep}

theorem le_depth_of_isTooWide (h : step.isTooWide) : 16384 ≤ step.depth := by
  have hlt : widestIndent < step.indent := by simpa [isTooWide] using h
  have hle : step.indent ≤ 4 * step.depth := by
    rw [indent, UInt64.toNat_mul, UInt64.toNat_ofNat']
    exact Nat.le_trans (Nat.mod_le _ _) (Nat.mul_le_mul_left 4 (Nat.mod_le _ _))
  simp only [widestIndent] at hlt
  omega

theorem indent_eq (h : 4 * step.depth < UInt64.size) : step.indent = 4 * step.depth := by
  rw [indent, UInt64.toNat_mul, UInt64.toNat_ofNat_of_lt' (by omega)]
  exact Nat.mod_eq_of_lt h

theorem isTooWide_of_le (hle : 16384 ≤ step.depth) (hlt : 4 * step.depth < UInt64.size) :
    step.isTooWide := by
  simp only [isTooWide, indent_eq hlt, widestIndent, decide_eq_true_eq]
  omega

theorem isTooWide_eq_false (h : 4 * step.depth ≤ widestIndent) : step.isTooWide = false := by
  apply Bool.eq_false_iff.mpr
  intro hwide
  have hle := le_depth_of_isTooWide hwide
  simp only [widestIndent] at h
  omega

theorem replicate_prefix_line {n : Nat} (h : n ≤ step.indent) :
    List.replicate n ' ' <+: step.line.toList := by
  rw [line, String.toList_append, String.toList_ofList]
  have hblanks : List.replicate n ' ' <+: List.replicate step.indent ' ' :=
    List.prefix_replicate_iff.mpr (by simpa using h)
  exact hblanks.trans (List.prefix_append _ _)

end TraceStep

namespace Measurement

variable {m : Measurement}

def textBefore (before : List TraceStep) : String :=
  String.join (before.map fun step ↦ step.line ++ "\n")

/-- A line for each step and one for the total. -/
def text (m : Measurement) : String :=
  textBefore m.trace ++ (m.summary ++ "\n")

theorem report_eq_text (h : m.isTooWide = false) : m.report = m.text := by
  apply String.toList_inj.mp
  simp [report, lines, h, text, textBefore, List.flatMap_map]

theorem isTooWide_eq_false (h : ∀ step ∈ m.trace, 4 * step.depth ≤ widestIndent) :
    m.isTooWide = false := by
  apply List.any_eq_false.mpr
  intro step hstep
  simp [TraceStep.isTooWide_eq_false (h step hstep)]

theorem report_eq_textBefore {before after : List TraceStep} {step : TraceStep}
    (htrace : m.trace = before ++ step :: after) (hbefore : ∀ s ∈ before, s.isTooWide = false)
    (hstep : step.isTooWide) : m.isTooWide ∧ m.report = textBefore before := by
  have hwide : m.isTooWide := by simp [isTooWide, htrace, hstep]
  have htake : m.trace.takeWhile (!·.isTooWide) = before := by
    rw [htrace]
    refine Text.takeWhile_append_eq ?_ ?_
    · intro s hs
      simp [hbefore s hs]
    · intro s hs
      obtain rfl : step = s := Option.some.inj hs
      simp [hstep]
  refine ⟨hwide, ?_⟩
  rw [report, lines, if_pos hwide, htake, List.map_map]
  rfl

end Measurement

end StackDepth
