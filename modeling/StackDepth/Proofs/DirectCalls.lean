import StackDepth.Proofs.CallGraph
import Mathlib.Order.Bounds.Defs

namespace StackDepth

section FirstOccurrence

variable {α β : Type} [DecidableEq β]

theorem findIdx_cons_of_ne {f : α → Option β} {x : α} {b : β} (h : f x ≠ some b) (xs : List α) :
    (x :: xs).findIdx (f · == some b) = xs.findIdx (f · == some b) + 1 := by
  have hx : (f x == some b) = false := beq_eq_false_iff_ne.mpr h
  rw [List.findIdx_cons, hx]
  rfl

/-- Values without repetitions stand in the order in which the list first leads to them. -/
theorem pairwise_findIdx_eraseDups (f : α → Option β) (xs : List α) :
    (xs.filterMap f).eraseDups.Pairwise fun b c ↦
      xs.findIdx (f · == some b) < xs.findIdx (f · == some c) := by
  induction xs generalizing f with
  | nil => exact List.Pairwise.nil
  | cons x xs ih =>
    cases hx : f x with
    | none =>
      have hne (b : β) : f x ≠ some b := by simp [hx]
      rw [List.filterMap_cons_none hx]
      apply (ih f).imp
      intro b c hlt
      rw [findIdx_cons_of_ne (hne b), findIdx_cons_of_ne (hne c)]
      omega
    | some y =>
      -- without the values `y`, the rest comes from a list of the same kind
      have hrest : (xs.filterMap f).filter (fun b ↦ !b == y) =
          xs.filterMap fun a ↦ (f a).filter fun b ↦ !b == y := List.filter_filterMap
      have hmem (b : β) (hb : b ∈ ((xs.filterMap f).filter fun b ↦ !b == y).eraseDups) :
          y ≠ b := by
        rw [List.mem_eraseDups, List.mem_filter] at hb
        rintro rfl
        simp at hb
      have hfilter (b : β) (hb : y ≠ b) (a : α) :
          (((f a).filter fun b ↦ !b == y) == some b) = (f a == some b) := by
        cases f a with
        | none => rfl
        | some d => by_cases hd : d = y <;> simp [Option.filter, hd, hb]
      have hne (b : β) (hb : y ≠ b) : f x ≠ some b := by simpa [hx] using hb
      rw [List.filterMap_cons_some hx, List.eraseDups_cons, List.pairwise_cons]
      constructor
      · intro b hb
        rw [findIdx_cons_of_ne (hne b (hmem b hb))]
        simp [List.findIdx_cons, hx]
      · have hpairs := ih fun a ↦ (f a).filter fun b ↦ !b == y
        rw [← hrest] at hpairs
        refine hpairs.imp_of_mem ?_
        intro b c hb hc hlt
        simp only [hfilter b (hmem b hb), hfilter c (hmem c hc)] at hlt
        rw [findIdx_cons_of_ne (hne b (hmem b hb)), findIdx_cons_of_ne (hne c (hmem c hc))]
        omega

end FirstOccurrence

def Instruction.Enters (p : Program) (i : Instruction) (c : Nat) : Prop :=
  ∃ target, i.kind = .branch target ∧ p.routineAt? target = some c

namespace Instruction

variable {p : Program} {i : Instruction} {c : Nat}

theorem enters_iff : i.Enters p c ↔ i.kind.target?.bind p.routineAt? = some c := by
  cases hi : i.kind <;> simp [Enters, hi, Kind.target?]

instance (p : Program) (c : Nat) : DecidablePred fun i : Instruction ↦ i.Enters p c :=
  fun _ ↦ decidable_of_iff _ enters_iff.symm

end Instruction

namespace Routine

variable {r : Routine} {p : Program}

theorem directCallees_eq_eraseDups (routineAt : UInt64 → Option Nat) (r : Routine) :
    r.directCallees routineAt =
      (r.body.filterMap fun i ↦ i.kind.target?.bind routineAt).eraseDups := by
  rw [directCallees, targets, List.filterMap_filterMap]

@[simp]
theorem mem_directCallees {c : Nat} :
    c ∈ r.directCallees p.routineAt? ↔ ∃ i ∈ r.body, i.Enters p c := by
  simp only [directCallees_eq_eraseDups, List.mem_eraseDups, List.mem_filterMap,
    Instruction.enters_iff]

theorem pairwise_directCallees (p : Program) (r : Routine) :
    (r.directCallees p.routineAt?).Pairwise fun c d ↦
      r.body.findIdx (·.Enters p c) < r.body.findIdx (·.Enters p d) := by
  have hfind (c : Nat) (i : Instruction) :
      (i.kind.target?.bind p.routineAt? == some c) = decide (i.Enters p c) := by
    rw [Bool.eq_iff_iff, beq_iff_eq, decide_eq_true_iff, Instruction.enters_iff]
  have h := pairwise_findIdx_eraseDups
    (fun i : Instruction ↦ i.kind.target?.bind p.routineAt?) r.body
  simpa only [directCallees_eq_eraseDups, hfind] using h

theorem filterMap_reserved?_eq_nil {body : List Instruction}
    (h : ∀ i ∈ body, ∀ n, i.kind ≠ .stackAdjust n) : body.filterMap (·.kind.reserved?) = [] := by
  refine List.filterMap_eq_nil_iff.mpr fun i hi ↦ ?_
  cases hk : i.kind with
  | stackAdjust n => exact absurd hk (h i hi n)
  | branch _ | indirectBranch | other => rfl

theorem reserved_eq_of_last {before after : List Instruction} {i : Instruction} {bytes : UInt64}
    (hbody : r.body = before ++ i :: after) (hi : i.kind = .stackAdjust bytes)
    (hafter : ∀ j ∈ after, ∀ n, j.kind ≠ .stackAdjust n) : r.reserved = bytes := by
  have hlast : r.body.filterMap (·.kind.reserved?) =
      before.filterMap (·.kind.reserved?) ++ [bytes] := by
    rw [hbody, List.filterMap_append, List.filterMap_cons, filterMap_reserved?_eq_nil hafter, hi]
    rfl
  rw [reserved, hlast, List.getLast?_concat]
  rfl

theorem reserved_eq_zero (h : ∀ i ∈ r.body, ∀ n, i.kind ≠ .stackAdjust n) : r.reserved = 0 := by
  rw [reserved, filterMap_reserved?_eq_nil h]
  rfl

end Routine

namespace Program

/-- The routine `f` of the program `p` is what analysis makes of `r`. -/
structure Analyzed (p : Program) (r f : Routine) : Prop where
  name : f.name = r.name
  entry : f.entry = r.entry
  body : f.body = r.body
  nodup : f.callees.Nodup
  valid : ∀ c ∈ f.callees, c < p.routines.length
  mem_callees : ∀ c, c ∈ f.callees ↔ ∃ i ∈ r.body, i.Enters p c
  order : f.callees.Pairwise fun c d ↦
    r.body.findIdx (·.Enters p c) < r.body.findIdx (·.Enters p d)
  frame : ∀ before i after bytes, r.body = before ++ i :: after → i.kind = .stackAdjust bytes →
    (∀ j ∈ after, ∀ n, j.kind ≠ .stackAdjust n) → f.frame = bytes
  noFrame : (∀ i ∈ r.body, ∀ n, i.kind ≠ .stackAdjust n) → f.frame = 0

@[simp]
theorem routineAt?_analyze (rs : List Routine) :
    (analyze rs).routineAt? = Routine.indexAt? rs := by
  funext address
  rw [routineAt?, Routine.indexAt?, routines_analyze, List.findIdx?_map]
  rfl

theorem routineAt?_analyze_eq_none_iff {rs : List Routine} {address : UInt64} :
    (analyze rs).routineAt? address = none ↔ ∀ r ∈ rs, r.entry ≠ address := by
  rw [routineAt?_analyze, Routine.indexAt?, List.findIdx?_eq_none_iff]
  simp

theorem analyzed_of_mem {rs : List Routine} {r : Routine} (hr : r ∈ rs) :
    (analyze rs).Analyzed r (r.analyzedIn rs) := by
  have hcallees : (r.analyzedIn rs).callees = r.directCallees (analyze rs).routineAt? := by
    rw [routineAt?_analyze]
    rfl
  exact {
    name := rfl
    entry := rfl
    body := rfl
    nodup := nodup_eraseDups _
    valid := (analyze rs).callees_lt _ (List.mem_map_of_mem hr)
    mem_callees := fun _ ↦ hcallees ▸ Routine.mem_directCallees
    order := hcallees ▸ Routine.pairwise_directCallees _ r
    frame := fun _ _ _ _ ↦ Routine.reserved_eq_of_last
    noFrame := Routine.reserved_eq_zero }

/-- Analysis is exact. An address belongs to the first routine that is entered there. Every routine
keeps its name, entry and body; its callees are those routines that a literal branch of it enters,
each once, in the order of the first such branches; its frame is that of its last stack adjustment,
and zero without one. What the routines said of their frames and callees before does not count. -/
theorem analyze_finds_calls_and_frames (rs : List Routine) :
    (∀ address i, (analyze rs).routineAt? address = some i ↔
      IsLeast {j | ∃ r, rs[j]? = some r ∧ r.entry = address} i) ∧
    (∀ address, (analyze rs).routineAt? address = none ↔ ∀ r ∈ rs, r.entry ≠ address) ∧
    List.Forall₂ (analyze rs).Analyzed rs (analyze rs).routines := by
  refine ⟨fun address i ↦ ?_, fun address ↦ routineAt?_analyze_eq_none_iff, ?_⟩
  · rw [routineAt?_analyze, Routine.indexAt?_eq_some_iff]
    refine and_congr_right fun _ ↦ ?_
    constructor
    · rintro hfirst j ⟨s, hs, hentry⟩
      exact Nat.le_of_not_lt fun hj ↦ hfirst j hj s hs hentry
    · intro hleast j hj s hs hentry
      exact Nat.not_le_of_lt hj (hleast ⟨s, hs, hentry⟩)
  · rw [routines_analyze, List.forall₂_map_right_iff, List.forall₂_same]
    exact fun r hr ↦ analyzed_of_mem hr

end Program

end StackDepth
