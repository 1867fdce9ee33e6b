import StackDepth.Proofs.DirectCalls

namespace StackDepth

theorem forall₂_filter_filterMap {α β : Type} {R : α → β → Prop} {P : α → Prop} [DecidablePred P]
    {f : α → Option β} (hdrop : ∀ a, ¬P a → f a = none)
    (hkeep : ∀ a, P a → ∃ b, f a = some b ∧ R a b) (xs : List α) :
    List.Forall₂ R (xs.filter (P ·)) (xs.filterMap f) := by
  induction xs with
  | nil => exact .nil
  | cons a xs ih =>
    by_cases ha : P a
    · obtain ⟨b, hb, hR⟩ := hkeep a ha
      rw [List.filter_cons_of_pos (by simpa using ha), List.filterMap_cons_some hb]
      exact .cons hR ih
    · rw [List.filter_cons_of_neg (by simpa using ha), List.filterMap_cons_none (hdrop a ha)]
      exact ih

namespace Routine

/-- The addresses of a routine: from the entry to the last instruction, or the entry alone where
there is no instruction. -/
inductive Spans (r : Routine) (address : UInt64) : Prop
  | entry : r.body = [] → address = r.entry → Spans r address
  | range {before : List Instruction} {last : Instruction} : r.body = before ++ [last] →
      r.entry ≤ address → address ≤ last.address → Spans r address

@[simp]
theorem contains_iff_spans {r : Routine} {address : UInt64} :
    r.contains address ↔ r.Spans address := by
  rw [contains]
  cases hlast : r.body.getLast? with
  | none =>
    have hnil : r.body = [] := List.getLast?_eq_none_iff.mp hlast
    constructor
    · intro h
      exact .entry hnil (by simpa using h)
    · rintro (⟨-, rfl⟩ | ⟨hbody, -, -⟩)
      · simp
      · simp [hnil] at hbody
  | some last =>
    obtain ⟨before, hbody⟩ := List.getLast?_eq_some_iff.mp hlast
    constructor
    · intro h
      obtain ⟨hentry, hle⟩ : r.entry ≤ address ∧ address ≤ last.address := by simpa using h
      exact .range hbody hentry hle
    · rintro (⟨hnil, -⟩ | ⟨hbody', hentry, hle⟩)
      · simp [hnil] at hbody
      · obtain ⟨-, rfl⟩ := List.append_singleton_inj.mp (hbody'.symm.trans hbody)
        simp [hentry, hle]

def FirstSpanning (rs : List Routine) (address : UInt64) (r : Routine) : Prop :=
  ∃ before after, rs = before ++ r :: after ∧ r.Spans address ∧ ∀ s ∈ before, ¬s.Spans address

theorem find?_contains_eq_some_iff {rs : List Routine} {address : UInt64} {r : Routine} :
    rs.find? (·.contains address) = some r ↔ FirstSpanning rs address r := by
  rw [List.find?_eq_some_iff_append, contains_iff_spans]
  constructor
  · rintro ⟨hspans, before, after, rfl, hbefore⟩
    refine ⟨before, after, rfl, hspans, fun s hs hspan ↦ ?_⟩
    simpa [contains_iff_spans.mpr hspan] using hbefore s hs
  · rintro ⟨before, after, rfl, hspans, hbefore⟩
    refine ⟨hspans, before, after, rfl, fun s hs ↦ ?_⟩
    simpa [← contains_iff_spans] using hbefore s hs

end Routine

/-- A literal branch to an address at which no routine of the listing is entered. -/
def Instruction.Dropped (rs : List Routine) (i : Instruction) : Prop :=
  ∃ target, i.kind = .branch target ∧ ∀ r ∈ rs, r.entry ≠ target

namespace Instruction

theorem dropped_iff {rs : List Routine} {i : Instruction} :
    i.Dropped rs ↔ ∃ target ∈ i.kind.target?, ∀ r ∈ rs, r.entry ≠ target := by
  cases hi : i.kind <;> simp [Dropped, hi, Kind.target?]

instance (rs : List Routine) : DecidablePred (Dropped rs) :=
  fun _ ↦ decidable_of_iff _ dropped_iff.symm

end Instruction

def Routine.instructionsIn (rs : List Routine) : List (Routine × Instruction) :=
  rs.flatMap fun r ↦ r.body.map (r, ·)

namespace Program

open Text

variable {rs : List Routine} {r : Routine} {i : Instruction} {target : UInt64}

inductive Reports (rs : List Routine) : Routine × Instruction → String → Prop
  | inside {r s : Routine} {i : Instruction} {target : UInt64} :
      i.kind = .branch target → Routine.FirstSpanning rs target s → Reports rs (r, i)
        s!"{r.name}: branch at {hex i.address} lands inside {s.name}; not a call"
  | outside {r : Routine} {i : Instruction} {target : UInt64} :
      i.kind = .branch target → (∀ s ∈ rs, ¬s.Spans target) → Reports rs (r, i)
        s!"{r.name}: branch at {hex i.address} targets {hex target} outside the listing; dropped"

@[simp]
theorem routineContaining?_analyze :
    (analyze rs).routineContaining? target = rs.findIdx? (·.contains target) := by
  simp [routineContaining?, List.findIdx?_map, Function.comp_def]

theorem routineContaining?_analyze_eq_none_iff :
    (analyze rs).routineContaining? target = none ↔ ∀ r ∈ rs, ¬r.Spans target := by
  simp [Bool.eq_false_iff]

theorem exists_firstSpanning {c : Nat} (h : (analyze rs).routineContaining? target = some c) :
    ∃ s, Routine.FirstSpanning rs target s ∧ (analyze rs).nameOf c = s.name := by
  rw [routineContaining?_analyze] at h
  obtain ⟨hc, -⟩ := List.findIdx?_eq_some_iff_getElem.mp h
  have hfind : rs.find? (·.contains target) = some rs[c] := by
    rw [List.find?_eq_bind_findIdx?_getElem?, h, Option.bind_some, List.getElem?_eq_getElem hc]
  refine ⟨rs[c], Routine.find?_contains_eq_some_iff.mp hfind, ?_⟩
  simp [nameOf, hc]

theorem branchNotices_analyze : (analyze rs).branchNotices =
    (Routine.instructionsIn rs).filterMap fun (r, i) ↦ (analyze rs).branchNotice? r i := by
  simp only [branchNotices, routines_analyze, Routine.instructionsIn, List.flatMap_map,
    List.filterMap_flatMap, List.filterMap_map]
  rfl

theorem branchNotice?_of_branch (hi : i.kind = .branch target) :
    (analyze rs).branchNotice? r i = match (analyze rs).routineAt? target with
      | some _ => none
      | none => match (analyze rs).routineContaining? target with
        | some c => some (.landsInside r.name i.address ((analyze rs).nameOf c))
        | none => some (.leavesListing r.name i.address target) := by
  rw [branchNotice?, hi, Kind.target?, Option.bind_eq_bind, Option.bind_some]
  cases (analyze rs).routineAt? target with
  | some _ => rfl
  | none => cases (analyze rs).routineContaining? target <;> rfl

theorem branchNotice?_of_not_dropped (h : ¬i.Dropped rs) :
    (analyze rs).branchNotice? r i = none := by
  cases hi : i.kind with
  | stackAdjust _ | indirectBranch | other =>
    rw [branchNotice?, hi]
    rfl
  | branch target =>
    have hentered : (analyze rs).routineAt? target ≠ none := by
      rw [Ne, routineAt?_analyze_eq_none_iff]
      exact fun hno ↦ h ⟨target, hi, hno⟩
    obtain ⟨c, hc⟩ := Option.ne_none_iff_exists'.mp hentered
    rw [branchNotice?_of_branch hi, hc]

theorem branchNotice?_of_dropped (h : i.Dropped rs) : ∃ n,
    (analyze rs).branchNotice? r i = some n ∧ n.level = .debug ∧ Reports rs (r, i) n.message := by
  obtain ⟨target, hi, hno⟩ := h
  rw [branchNotice?_of_branch hi, routineAt?_analyze_eq_none_iff.mpr hno]
  cases hfind : (analyze rs).routineContaining? target with
  | none =>
    exact ⟨_, rfl, rfl, .outside hi (routineContaining?_analyze_eq_none_iff.mp hfind)⟩
  | some c =>
    obtain ⟨s, hs, hname⟩ := exists_firstSpanning hfind
    refine ⟨_, rfl, rfl, ?_⟩
    rw [hname]
    exact .inside hi hs

theorem dropped_iff_enters_no_callee {f : Routine} (hf : f ∈ (analyze rs).routines)
    (hi : i ∈ f.body) (hkind : i.kind = .branch target) :
    i.Dropped rs ↔ ¬∃ c ∈ f.callees, i.Enters (analyze rs) c := by
  obtain ⟨r, hr, rfl⟩ := List.mem_map.mp hf
  have hcallee (c : Nat) (hc : i.Enters (analyze rs) c) :
      c ∈ r.directCallees (Routine.indexAt? rs) :=
    ((analyzed_of_mem hr).mem_callees c).mpr ⟨i, hi, hc⟩
  constructor
  · rintro ⟨target, hkind, hno⟩ ⟨c, -, target', hkind', hc⟩
    obtain rfl : target = target' := Kind.branch.inj (hkind.symm.trans hkind')
    rw [routineAt?_analyze_eq_none_iff.mpr hno] at hc
    cases hc
  · intro hno
    refine ⟨target, hkind, routineAt?_analyze_eq_none_iff.mp ?_⟩
    apply Option.eq_none_iff_forall_ne_some.mpr
    intro c hc
    have henters : i.Enters (analyze rs) c := ⟨target, hkind, hc⟩
    exact hno ⟨c, hcallee c henters, henters⟩

/-- Every branch that is no call is told of once, and no call is. What analysis tells are, in the
order of the listing, the literal branches to addresses at which no routine is entered, and these
are the ones that enter no callee of their routine. Each is said to land inside the first routine
that has its target among its addresses, or outside the listing where there is none. -/
theorem analyze_reports_dropped_branches (rs : List Routine) :
    let p := analyze rs
    List.Forall₂ (fun site n ↦ n.level = .debug ∧ Reports rs site n.message)
      ((Routine.instructionsIn rs).filter (·.2.Dropped rs)) p.branchNotices ∧
    ∀ f ∈ p.routines, ∀ i ∈ f.body, ∀ target, i.kind = .branch target →
      (i.Dropped rs ↔ ¬∃ c ∈ f.callees, i.Enters p c) := by
  intro p
  refine ⟨?_, fun f hf i hi target ↦ dropped_iff_enters_no_callee hf hi⟩
  rw [branchNotices_analyze]
  apply forall₂_filter_filterMap
  · rintro ⟨r, i⟩ hkept
    exact branchNotice?_of_not_dropped hkept
  · rintro ⟨r, i⟩ hdropped
    exact branchNotice?_of_dropped hdropped

def loopingListing : List Routine :=
  [⟨"looping", 0x100, [.bare 0x100 (.branch 0x100), .bare 0x104 (.branch 0x103),
      .bare 0x106 (.branch 0x9000), .bare 0x108 (.branch 0x110)], 0, []⟩,
    ⟨"nested", 0x102, [.bare 0x104 (.branch 0x103)], 0, []⟩,
    .ofHeader "empty" 0x110,
    .ofHeader "alias" 0x110]

theorem loopingListing_reports :
    let p := analyze loopingListing
    p.branchNotices.map Notice.message =
      ["looping: branch at 0x104 lands inside looping; not a call",
        "looping: branch at 0x106 targets 0x9000 outside the listing; dropped",
        "nested: branch at 0x104 lands inside looping; not a call"] ∧
    List.Forall₂ (fun site n ↦ n.level = .debug ∧ Reports loopingListing site n.message)
      ((Routine.instructionsIn loopingListing).filter (·.2.Dropped loopingListing))
      p.branchNotices ∧
    ∃ f ∈ p.routines, ∃ i ∈ f.body, i.kind = .branch 0x9000 ∧ i.Dropped loopingListing ∧
      ¬∃ c ∈ f.callees, i.Enters p c := by
  intro p
  obtain ⟨hreports, hcallees⟩ := analyze_reports_dropped_branches loopingListing
  have hsite : ∃ f ∈ p.routines, ∃ i ∈ f.body,
      i.kind = .branch 0x9000 ∧ i.Dropped loopingListing := by decide +kernel
  obtain ⟨f, hf, i, hi, hkind, hdropped⟩ := hsite
  exact ⟨by decide +kernel, hreports, f, hf, i, hi, hkind, hdropped,
    (hcallees f hf i hi _ hkind).mp hdropped⟩

end Program

end StackDepth
