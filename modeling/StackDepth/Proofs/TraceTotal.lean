import StackDepth.Proofs.CallForest
import Mathlib.Algebra.BigOperators.Group.Finset.Basic

namespace StackDepth

def lastAt? (steps : List TraceStep) (depth : Nat) : Option TraceStep :=
  (steps.filter (·.depth = depth)).getLast?

/-- The frames that the last steps above a depth have left on the stack. -/
def framesAbove (steps : List TraceStep) (depth : Nat) : Nat :=
  ∑ d ∈ Finset.range depth, ((lastAt? steps d).map (·.frame.toNat)).getD 0

def stackAt (steps : List TraceStep) (i : Nat) : Nat :=
  (steps[i]?.map fun step ↦ framesAbove (steps.take (i + 1)) (step.depth + 1)).getD 0

def peak (steps : List TraceStep) : Nat :=
  ((List.range steps.length).map (stackAt steps)).max?.getD 0

/-- The first step is at depth zero and all others below it, none of them by more than one below
the step in front of it. -/
def IsOutline (steps : List TraceStep) : Prop :=
  ∃ first rest, steps = first :: rest ∧ first.depth = 0 ∧ (∀ step ∈ rest, 1 ≤ step.depth) ∧
    steps.IsChain fun a b ↦ b.depth ≤ a.depth + 1

section Steps

variable {steps more : List TraceStep} {step : TraceStep} {depth : Nat}

theorem lastAt?_append_of_ne (h : ∀ s ∈ more, s.depth ≠ depth) :
    lastAt? (steps ++ more) depth = lastAt? steps depth := by
  have hmore : more.filter (·.depth = depth) = [] := by simpa using h
  rw [lastAt?, lastAt?, List.filter_append, hmore, List.append_nil]

@[simp]
theorem lastAt?_concat : lastAt? (steps ++ [step]) step.depth = some step := by
  simp [lastAt?]

theorem framesAbove_append (h : ∀ s ∈ more, depth ≤ s.depth) :
    framesAbove (steps ++ more) depth = framesAbove steps depth := by
  refine Finset.sum_congr rfl fun d hd ↦ ?_
  have hlt := Finset.mem_range.mp hd
  rw [lastAt?_append_of_ne fun s hs ↦ (Nat.lt_of_lt_of_le hlt (h s hs)).ne']

@[simp]
theorem framesAbove_concat (steps : List TraceStep) (step : TraceStep) :
    framesAbove (steps ++ [step]) (step.depth + 1) =
      framesAbove steps step.depth + step.frame.toNat := by
  have habove : framesAbove (steps ++ [step]) step.depth = framesAbove steps step.depth :=
    framesAbove_append (by simp)
  rw [framesAbove, Finset.sum_range_succ, ← framesAbove, habove, lastAt?_concat]
  rfl

/-- The stack at each of some steps, after others. -/
def totals (before : List TraceStep) : List TraceStep → List Nat
  | [] => []
  | step :: rest =>
    framesAbove (before ++ [step]) (step.depth + 1) :: totals (before ++ [step]) rest

theorem totals_append (before xs ys : List TraceStep) :
    totals before (xs ++ ys) = totals before xs ++ totals (before ++ xs) ys := by
  induction xs generalizing before with
  | nil => simp [totals]
  | cons step xs ih => simp [totals, ih]

theorem totals_eq_map_stackAt (before steps : List TraceStep) : totals before steps =
    (List.range steps.length).map fun i ↦ stackAt (before ++ steps) (before.length + i) := by
  induction steps generalizing before with
  | nil => rfl
  | cons step rest ih =>
    rw [totals, ih, List.length_cons, List.range_succ_eq_map, List.map_cons, List.map_map]
    congr 1
    · simp [stackAt, List.take_length_add_append]
    · refine List.map_congr_left fun i _ ↦ ?_
      simp [Nat.add_assoc, Nat.add_comm 1 i]

theorem peak_le_iff {bound : Nat} : peak steps ≤ bound ↔ ∀ n ∈ totals [] steps, n ≤ bound := by
  have htotals : totals [] steps = (List.range steps.length).map (stackAt steps) := by
    simp [totals_eq_map_stackAt]
  rw [peak, ← htotals]
  cases h : (totals [] steps).max? with
  | none => simp [List.max?_eq_none_iff.mp h]
  | some worst => exact List.max?_le_iff h

theorem exists_lastAt?_of_isChain
    (hstep : (steps ++ [step]).IsChain fun a b ↦ b.depth ≤ a.depth + 1)
    (hfirst : ∀ s ∈ (steps ++ [step]).head?, s.depth = 0) (hdepth : depth ≤ step.depth) :
    ∃ s, lastAt? (steps ++ [step]) depth = some s := by
  -- from the last step backwards, until one is at the depth
  induction steps using List.reverseRecOn generalizing step with
  | nil =>
    obtain rfl : step.depth = depth := by
      have := hfirst step (by simp)
      omega
    exact ⟨step, lastAt?_concat⟩
  | append_singleton steps prev ih =>
    by_cases he : step.depth = depth
    · subst he
      exact ⟨step, lastAt?_concat⟩
    · obtain ⟨hprev, -, hlink⟩ := List.isChain_append.mp hstep
      have hle : step.depth ≤ prev.depth + 1 := hlink prev (by simp) step (by simp)
      rw [lastAt?_append_of_ne (by simpa using he)]
      exact ih hprev (by simpa using hfirst) (by omega)

theorem IsOutline.exists_lastAt? (h : IsOutline steps) {i : Nat} (hi : steps[i]? = some step)
    (hdepth : depth ≤ step.depth) : ∃ s, lastAt? (steps.take (i + 1)) depth = some s := by
  obtain ⟨first, rest, rfl, hfirst, -, hchain⟩ := h
  have htake : (first :: rest).take (i + 1) = (first :: rest).take i ++ [step] := by
    rw [List.take_add_one, hi]
    rfl
  rw [htake]
  refine exists_lastAt?_of_isChain ?_ ?_ hdepth
  · rw [← htake]
    exact hchain.take _
  · simp [← htake, hfirst]

end Steps

namespace CallForest

def sizes : CallForest → List Nat
  | nil => []
  | node _ r below beside => r.frame.toNat :: (below.sizes.map (r.frame.toNat + ·) ++ beside.sizes)

theorem height_le_iff {f : CallForest} {bound : Nat} :
    f.height ≤ bound ↔ ∀ n ∈ f.sizes, n ≤ bound := by
  induction f generalizing bound with
  | nil => simp [height, sizes]
  | node s r below beside ihBelow ihBeside =>
    have hbelow : below.height ≤ bound - r.frame.toNat ↔
        ∀ n ∈ below.sizes, n ≤ bound - r.frame.toNat := ihBelow
    rw [height, sizes, Nat.max_le, ihBeside]
    simp only [List.forall_mem_cons, List.forall_mem_append, List.forall_mem_map]
    constructor
    · rintro ⟨h, hbeside⟩
      refine ⟨by omega, fun n hn ↦ ?_, hbeside⟩
      have hn := hbelow.mp (by omega) n hn
      omega
    · rintro ⟨hroot, h, hbeside⟩
      have hle := hbelow.mpr fun n hn ↦ Nat.le_sub_of_add_le' (h n hn)
      exact ⟨by omega, hbeside⟩

theorem le_depth_of_mem_trace {f : CallForest} {depth : Nat} :
    ∀ step ∈ f.trace depth, depth ≤ step.depth := by
  induction f generalizing depth with
  | nil => simp
  | node s r below beside ihBelow ihBeside =>
    intro step hstep
    rw [trace_node] at hstep
    rcases List.mem_cons.mp hstep with rfl | hstep
    · exact le_rfl
    · rcases List.mem_append.mp hstep with hstep | hstep
      · exact Nat.le_of_succ_le (ihBelow step hstep)
      · exact ihBeside step hstep

theorem le_depth_of_mem_tree (below : CallForest) (step : TraceStep) :
    ∀ t ∈ [step] ++ below.trace (step.depth + 1), step.depth ≤ t.depth := by
  intro t ht
  rcases List.mem_append.mp ht with ht | ht
  · rw [List.mem_singleton.mp ht]
  · exact Nat.le_of_succ_le (le_depth_of_mem_trace t ht)

theorem totals_trace (f : CallForest) (before : List TraceStep) (depth : Nat) :
    totals before (f.trace depth) = f.sizes.map (framesAbove before depth + ·) := by
  induction f generalizing before depth with
  | nil => rfl
  | node s r below beside ihBelow ihBeside =>
    let step : TraceStep := ⟨depth, r.name, r.frame⟩
    have hbelow : framesAbove (before ++ [step]) (depth + 1) =
        framesAbove before depth + r.frame.toNat := framesAbove_concat before step
    -- nothing from `step` on is above `depth`, so the trees beside start from the same frames
    have hbeside : framesAbove (before ++ [step] ++ below.trace (depth + 1)) depth =
        framesAbove before depth := by
      rw [List.append_assoc]
      exact framesAbove_append (below.le_depth_of_mem_tree step)
    rw [trace_node, totals, totals_append, ihBelow, ihBeside, hbelow, hbeside, sizes]
    simp [Nat.add_assoc]

theorem peak_trace (f : CallForest) : peak (f.trace 0) = f.height := by
  refine eq_of_forall_ge_iff fun bound ↦ ?_
  rw [peak_le_iff, height_le_iff, totals_trace]
  simp [framesAbove]

theorem head?_trace_eq (f : CallForest) (depth : Nat) :
    ∀ step ∈ (f.trace depth).head?, step.depth = depth := by
  cases f with
  | nil => simp
  | node s r below beside => simp

theorem isChain_trace (f : CallForest) (depth : Nat) :
    (f.trace depth).IsChain fun a b ↦ b.depth ≤ a.depth + 1 := by
  induction f generalizing depth with
  | nil => exact .nil
  | node s r below beside ihBelow ihBeside =>
    rw [trace_node, ← List.cons_append, List.isChain_append, List.isChain_cons]
    refine ⟨⟨fun step hstep ↦ ?_, ihBelow (depth + 1)⟩, ihBeside depth, fun a ha b hb ↦ ?_⟩
    · exact (head?_trace_eq below _ step hstep).le
    · rw [head?_trace_eq beside _ b hb]
      rcases List.mem_cons.mp (List.mem_of_getLast? ha) with rfl | ha
      · exact Nat.le_succ _
      · have hle := le_depth_of_mem_trace a ha
        omega

end CallForest

namespace Program

theorem Unfolds.isOutline_trace {p : Program} {context : HintContext} {id : Nat} {f : CallForest}
    (h : p.Unfolds context [id] f) : IsOutline (f.trace 0) := by
  have hchain := f.isChain_trace 0
  cases h with
  | @node _ _ _ r below _ hr hbelow hnil =>
    cases hnil
    rw [CallForest.trace_node, CallForest.trace_nil, List.append_nil] at hchain ⊢
    exact ⟨_, _, rfl, rfl, fun step hstep ↦ CallForest.le_depth_of_mem_trace step hstep, hchain⟩

/-- A trace proves its total. A measurement without a trace has no bytes, and its entry is not the
name of a single routine. Any other trace goes through the call tree of its entry in pre-order, its
depths are those of an outline, and its bytes are the largest stack that its steps tell of, clamped
once. -/
theorem measure_bytes_eq_peak_trace (routines : List Routine) (hints : List Chain)
    (entry : String) (m : Measurement)
    (h : ((analyze routines).withHints hints).measure entry = .ok m) :
    let p := (analyze routines).withHints hints
    ((¬∃ id, p.NamesOnly entry id) ∧ m.trace = [] ∧ m.bytes = 0) ∨
    (∃ id tree, p.NamesOnly entry id ∧ p.Unfolds (.root p.hints) [id] tree ∧
        m.trace = tree.trace 0) ∧
      IsOutline m.trace ∧
      (∀ i step, m.trace[i]? = some step → ∀ depth ≤ step.depth,
        ∃ s, lastAt? (m.trace.take (i + 1)) depth = some s) ∧
      m.bytes.toNat = min (UInt64.size - 1) (peak m.trace) := by
  intro p
  by_cases hid : ∃ id, p.NamesOnly entry id
  · obtain ⟨id, hid⟩ := hid
    obtain ⟨tree, htree, -, rfl⟩ :=
      (measure_eq_ok_iff_exists_unfolds hid).mp h
    have houtline := htree.isOutline_trace
    refine .inr ⟨⟨id, tree, hid, htree, rfl⟩, houtline, ?_, ?_⟩
    · exact fun i step hi depth hdepth ↦ houtline.exists_lastAt? hi hdepth
    · rw [tree.toNat_bytes, tree.peak_trace]
  · obtain rfl : ⟨entry, 0, []⟩ = m := Except.ok.inj ((measure_of_not_namesOnly hid).symm.trans h)
    exact .inl ⟨hid, rfl, rfl⟩

def relayListing : List Routine :=
  [.ofKinds "main" 0x8000 [.stackAdjust 16, .branch 0x8010, .branch 0x8020],
    .ofKinds "relay" 0x8010 [.stackAdjust 8, .branch 0x8020],
    .ofKinds "sink" 0x8020 [.stackAdjust 32],
    .ofKinds "idle" 0x8030 [.stackAdjust 4]]

theorem relayListing_peak :
    let p := (analyze relayListing).withHints [["main", "idle"]]
    let m : Measurement := ⟨"main", 56, [⟨0, "main", 16⟩, ⟨1, "relay", 8⟩, ⟨2, "sink", 32⟩,
      ⟨1, "sink", 32⟩, ⟨1, "idle", 4⟩]⟩
    p.measure "main" = .ok m ∧
    (∃ id tree, p.NamesOnly "main" id ∧ p.Unfolds (.root p.hints) [id] tree ∧
        m.trace = tree.trace 0) ∧
      IsOutline m.trace ∧
      (∀ i step, m.trace[i]? = some step → ∀ depth ≤ step.depth,
        ∃ s, lastAt? (m.trace.take (i + 1)) depth = some s) ∧
      m.bytes.toNat = min (UInt64.size - 1) (peak m.trace) ∧
    (List.range 5).map (stackAt m.trace) = [16, 24, 56, 48, 20] := by
  intro p m
  have h : p.measure "main" = .ok m := by decide +kernel
  obtain ⟨-, hempty, -⟩ | ⟨htree, houtline, hlast, hbytes⟩ :=
    measure_bytes_eq_peak_trace relayListing [["main", "idle"]] "main" m h
  · exact absurd hempty (List.cons_ne_nil _ _)
  · exact ⟨h, htree, houtline, hlast, hbytes, by decide⟩

end Program

end StackDepth
