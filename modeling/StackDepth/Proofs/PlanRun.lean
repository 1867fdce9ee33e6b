import StackDepth.Plan.Run
import StackDepth.Proofs.Budget
import StackDepth.Proofs.CallForest
import StackDepth.Proofs.ReportText
import Mathlib.Data.List.Forall2

namespace StackDepth

namespace Program

variable {p : Program} {entry : String} {m : Measurement}

theorem lt_length_of_isTooWide (h : p.measure entry = .ok m) (hwide : m.isTooWide) :
    16384 < p.routines.length := by
  obtain ⟨step, hstep, hwide⟩ := List.any_eq_true.mp hwide
  have hdepth := depth_lt_of_measure h step hstep
  have hle := TraceStep.le_depth_of_isTooWide hwide
  omega

section Stairs

variable {n : Nat}

def stair (i : Nat) : Routine :=
  ⟨if i = 0 then "top" else "stair", UInt64.ofNat i,
    [⟨UInt64.ofNat i, "", "bl", "", "", .branch (UInt64.ofNat (i + 1))⟩], 0, []⟩

def stairs (n : Nat) : List Routine :=
  (List.range (n + 1)).map stair

theorem indexAt?_stairs (hn : n + 1 < UInt64.size) {i : Nat} (hi : i ≤ n) :
    Routine.indexAt? (stairs n) (UInt64.ofNat (i + 1)) = if i < n then some (i + 1) else none := by
  have heq {j : Nat} (hj : j ≤ n) : (stair j).entry = UInt64.ofNat (i + 1) ↔ j = i + 1 := by
    rw [← UInt64.toNat_inj, stair, UInt64.toNat_ofNat_of_lt' (by omega),
      UInt64.toNat_ofNat_of_lt' (by omega)]
  split
  · rename_i hlt
    refine List.findIdx?_eq_some_iff_getElem.mpr ⟨by simp [stairs]; omega, ?_, ?_⟩
    · simpa [stairs] using (heq (j := i + 1) (by omega)).mpr rfl
    · intro j hj
      have hne := (heq (j := j) (by omega)).not.mpr (by omega)
      simpa [stairs] using hne
  · refine List.findIdx?_eq_none_iff.mpr fun r hr ↦ ?_
    obtain ⟨j, hj, rfl⟩ := List.mem_map.mp hr
    have hj := List.mem_range.mp hj
    simpa using (heq (j := j) (by omega)).not.mpr (by omega)

theorem getElem?_analyze_stairs (hn : n + 1 < UInt64.size) {i : Nat} (hi : i ≤ n) :
    ∃ r, (analyze (stairs n)).routines[i]? = some r ∧ r.name = (stair i).name ∧
      r.callees = if i < n then [i + 1] else [] := by
  have hget : (stairs n)[i]? = some (stair i) := by
    simp [stairs, List.getElem?_range (show i < n + 1 by omega)]
  refine ⟨(stair i).analyzedIn (stairs n), by simp [hget], rfl, ?_⟩
  have htargets : (stair i).targets = [UInt64.ofNat (i + 1)] := rfl
  simp only [Routine.analyzedIn, Routine.directCallees, htargets, List.filterMap_cons,
    List.filterMap_nil, indexAt?_stairs hn hi]
  split_ifs <;> rfl

theorem namesOnly_stairs (hn : n + 1 < UInt64.size) :
    (analyze (stairs n)).NamesOnly "top" 0 := by
  intro i
  constructor
  · rintro ⟨r, hr, hname⟩
    have hi := (List.getElem?_eq_some_iff.mp hr).1
    simp only [routines_analyze, stairs, List.length_map, List.length_range] at hi
    obtain ⟨r', hr', hname', -⟩ := getElem?_analyze_stairs hn (show i ≤ n by omega)
    obtain rfl := Option.some.inj (hr.symm.trans hr')
    by_contra hne
    simp [stair, hne, hname'] at hname
  · rintro rfl
    obtain ⟨r, hr, hname, -⟩ := getElem?_analyze_stairs hn (Nat.zero_le n)
    exact ⟨r, hr, hname⟩

theorem walk_stair (hn : n + 1 < UInt64.size) {i : Nat} (hi : i ≤ n) : ∃ v : Visit, v.depth = i ∧
    (analyze (stairs n)).walk (List.range i) (.root []) i =
      Walk.enter v (Walk.all ((analyze (stairs n)).walk (List.range (i + 1)) (.root []))
        (if i < n then [i + 1] else [])) := by
  obtain ⟨r, hr, -, hcallees⟩ := getElem?_analyze_stairs hn hi
  have hfresh : i ∉ List.range i := by simp
  refine ⟨⟨⟨i, r.name, r.frame⟩, i, .root []⟩, rfl, ?_⟩
  rw [walk_of_some hfresh hr, calleesAt, contextBelow, resolve_root_nil, List.append_nil, hcallees,
    ← List.range_succ, List.length_range]

theorem walk_stairs (hn : n + 1 < UInt64.size) {k i : Nat} (hi : i + k = n) :
    (∃ bytes, ((analyze (stairs n)).walk (List.range i) (.root []) i).outcome = .ok bytes) ∧
      ∃ v ∈ ((analyze (stairs n)).walk (List.range i) (.root []) i).visits, v.depth = n := by
  induction k generalizing i with
  | zero =>
    obtain rfl : i = n := hi
    obtain ⟨v, hv, hwalk⟩ := walk_stair hn (Nat.le_refl i)
    rw [hwalk, if_neg (Nat.lt_irrefl i)]
    exact ⟨⟨_, rfl⟩, v, List.mem_cons_self, hv⟩
  | succ k ih =>
    obtain ⟨⟨bytes, hbytes⟩, w, hw, hdepth⟩ := ih (i := i + 1) (by omega)
    obtain ⟨v, -, hwalk⟩ := walk_stair hn (show i ≤ n by omega)
    rw [hwalk, if_pos (by omega), Walk.all_singleton, Walk.enter, hbytes]
    exact ⟨⟨_, rfl⟩, w, List.mem_cons_of_mem _ hw, hdepth⟩

theorem measure_stairs (hn : n + 1 < UInt64.size) : ∃ m,
    (analyze (stairs n)).measure "top" = .ok m ∧ ∃ step ∈ m.trace, step.depth = n := by
  obtain ⟨⟨bytes, hbytes⟩, v, hv, hdepth⟩ := walk_stairs hn (Nat.zero_add n)
  exact ⟨_, (measure_eq_ok_iff (namesOnly_stairs hn)).mpr ⟨bytes, hbytes, rfl⟩, v.toTraceStep,
    List.mem_map.mpr ⟨v, hv, rfl⟩, hdepth⟩

end Stairs

end Program

namespace Plan

open Program

variable {p : Program} {entry output : String} {notices : List Notice} {queries before : List String}
variable {m : Measurement} {ms : List Measurement} {cycle : Cycle}

def texts (ms : List Measurement) : String :=
  String.join (ms.map Measurement.text)

def noticesOf (p : Program) (queries : List String) : List Notice :=
  queries.flatMap fun entry ↦ (p.evaluate entry).notices

/-- What is measured for the queries, where all of them can be measured and written. -/
def Measured (p : Program) (queries : List String) (ms : List Measurement) : Prop :=
  List.Forall₂ (fun entry m ↦ p.measure entry = .ok m ∧ m.isTooWide = false) queries ms

theorem runFrom_of_ok (h : p.measure entry = .ok m) (hwide : m.isTooWide = false)
    (output : String) (notices : List Notice) (queries : List String) :
    runFrom p output notices (entry :: queries) =
      runFrom p (output ++ m.text) (notices ++ (p.evaluate entry).notices) queries := by
  rw [Program.measure] at h
  simp [runFrom, h, hwide, Measurement.report_eq_text]

theorem runFrom_of_tooWide (h : p.measure entry = .ok m) (hwide : m.isTooWide)
    (output : String) (notices : List Notice) (queries : List String) :
    runFrom p output notices (entry :: queries) =
      ⟨output ++ m.report, notices ++ (p.evaluate entry).notices, none, true⟩ := by
  rw [Program.measure] at h
  simp [runFrom, h, hwide]

theorem runFrom_of_error (h : p.measure entry = .error cycle)
    (output : String) (notices : List Notice) (queries : List String) :
    runFrom p output notices (entry :: queries) =
      ⟨output, notices ++ (p.evaluate entry).notices, some ⟨entry, cycle⟩, false⟩ := by
  rw [Program.measure] at h
  simp [runFrom, h]

theorem runFrom_append (h : Measured p before ms) (output : String) (notices : List Notice)
    (rest : List String) : runFrom p output notices (before ++ rest) =
      runFrom p (output ++ texts ms) (notices ++ noticesOf p before) rest := by
  induction h generalizing output notices with
  | nil => simp [texts, noticesOf]
  | @cons entry m before ms hm _ ih =>
    rw [List.cons_append, runFrom_of_ok hm.1 hm.2, ih]
    simp [texts, noticesOf, String.append_assoc]

theorem measured_or_stops (p : Program) (queries : List String) :
    (∃ ms, Measured p queries ms) ∨ ∃ before entry after ms, queries = before ++ entry :: after ∧
      Measured p before ms ∧ ∀ m, p.measure entry = .ok m → m.isTooWide := by
  induction queries with
  | nil => exact .inl ⟨[], .nil⟩
  | cons entry queries ih =>
    by_cases hstops : ∀ m, p.measure entry = .ok m → m.isTooWide
    · exact .inr ⟨[], entry, queries, [], rfl, .nil, hstops⟩
    · push Not at hstops
      obtain ⟨m, hm, hwide⟩ := hstops
      have hm' : p.measure entry = .ok m ∧ m.isTooWide = false := ⟨hm, by simpa using hwide⟩
      rcases ih with ⟨ms, hms⟩ | ⟨before, entry', after, ms, rfl, hms, hentry⟩
      · exact .inl ⟨m :: ms, .cons hm' hms⟩
      · exact .inr ⟨entry :: before, entry', after, m :: ms, rfl, .cons hm' hms, hentry⟩

/-- A plan is run up to the first query that fails. Before it, and without it to the end, the output
is the text of one measurement after another, each taken on its own. The failure names the query and
has the cycle of its measurement for a cause. Only in a listing of more than 16384 routines can a
line be too wide; there the run breaks off without a failure. -/
theorem run_writes_before_first_failure (plan : Plan) (routines : List Routine)
    (hints : List Chain) :
    let p := (analyze routines).withHints hints
    (∃ ms, Measured p plan.queries ms ∧
      plan.run p = ⟨texts ms, noticesOf p plan.queries, none, false⟩) ∨
    (∃ before entry after ms cycle, plan.queries = before ++ entry :: after ∧
      Measured p before ms ∧ p.measure entry = .error cycle ∧
      plan.run p = ⟨texts ms, noticesOf p (before ++ [entry]), some ⟨entry, cycle⟩, false⟩ ∧
      (QueryFailure.mk entry cycle).message = "Failed to measure stack usage of " ++ entry) ∨
    (∃ before entry after ms m, plan.queries = before ++ entry :: after ∧
      Measured p before ms ∧ p.measure entry = .ok m ∧ m.isTooWide ∧ 16384 < routines.length ∧
      plan.run p = ⟨texts ms ++ m.report, noticesOf p (before ++ [entry]), none, true⟩) := by
  intro p
  have hnotices (before : List String) (entry : String) :
      noticesOf p (before ++ [entry]) = noticesOf p before ++ (p.evaluate entry).notices := by
    simp [noticesOf]
  rcases measured_or_stops p plan.queries with ⟨ms, hms⟩ |
    ⟨before, entry, after, ms, hqueries, hms, hstops⟩
  · refine .inl ⟨ms, hms, ?_⟩
    have hrun := runFrom_append hms "" [] []
    simpa [run, runFrom] using hrun
  · refine .inr ?_
    have hrun : plan.run p = runFrom p (texts ms) (noticesOf p before) (entry :: after) := by
      rw [run, hqueries, runFrom_append hms]
      simp
    cases hentry : p.measure entry with
    | error cycle =>
      refine .inl ⟨before, entry, after, ms, cycle, hqueries, hms, hentry, ?_, rfl⟩
      rw [hrun, runFrom_of_error hentry, hnotices]
    | ok m =>
      have hwide : m.isTooWide := hstops m hentry
      have hlength : 16384 < p.routines.length :=
        lt_length_of_isTooWide hentry hwide
      rw [length_routines_analyze] at hlength
      refine .inr ⟨before, entry, after, ms, m, hqueries, hms, hentry, hwide, hlength, ?_⟩
      rw [hrun, runFrom_of_tooWide hentry hwide, hnotices]

example :
    let loop : Instruction := ⟨0x20, "e7fe", "b.n", "20 <loop>", "", .branch 0x20⟩
    let p := analyze [⟨"leaf", 0x10, [], 0, []⟩, ⟨"loop", 0x20, [loop], 0, []⟩]
    let run := (Plan.mk [] ["leaf", "loop", "leaf"]).run p
    run.output = "stack: leaf 0 bytes\nstack leaf = 0\n" ∧
      run.failure = some ⟨"loop", ⟨["loop", "loop"]⟩⟩ := by
  decide +kernel

/-- Calls can be nested so deeply that the routine is measured but not reported: the run breaks off,
and no query has failed. -/
theorem run_stairs_aborted_iff {n : Nat} (hn : 4 * n + 4 < UInt64.size) :
    let p := analyze (stairs n)
    let run := (Plan.mk [] ["top"]).run p
    (∃ m, p.measure "top" = .ok m) ∧ run.failure = none ∧ (run.aborted ↔ 16384 ≤ n) := by
  intro p run
  obtain ⟨m, hm, step, hstep, hdepth⟩ := measure_stairs (n := n) (by omega)
  have hwide : m.isTooWide ↔ 16384 ≤ n := by
    constructor
    · intro hwide
      have hlt := lt_length_of_isTooWide hm hwide
      simp only [routines_analyze, stairs, List.length_map, List.length_range] at hlt
      omega
    · intro hle
      exact List.any_eq_true.mpr ⟨step, hstep, TraceStep.isTooWide_of_le (by omega) (by omega)⟩
  have hrun : run = ⟨"" ++ m.report, [] ++ (p.evaluate "top").notices, none, m.isTooWide⟩ := by
    have hout : (p.evaluate "top").outcome = .ok m := hm
    cases h : m.isTooWide <;> simp [run, Plan.run, runFrom, hout, h]
  rw [hrun]
  exact ⟨⟨m, hm⟩, rfl, hwide⟩

end Plan

end StackDepth
