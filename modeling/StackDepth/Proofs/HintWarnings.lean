import StackDepth.Proofs.HintPrefix
import StackDepth.Proofs.TraceTotal

namespace StackDepth

def namesAbove (steps : List TraceStep) (depth : Nat) : List String :=
  (List.range depth).filterMap fun d ↦ (lastAt? steps d).map (·.name)

section Steps

variable {steps more : List TraceStep} {depth : Nat}

theorem namesAbove_append (h : ∀ s ∈ more, depth ≤ s.depth) :
    namesAbove (steps ++ more) depth = namesAbove steps depth := by
  apply List.filterMap_congr
  intro d hd
  have hlt := List.mem_range.mp hd
  rw [lastAt?_append_of_ne fun s hs ↦ (Nat.lt_of_lt_of_le hlt (h s hs)).ne']

theorem namesAbove_concat (steps : List TraceStep) (step : TraceStep) :
    namesAbove (steps ++ [step]) (step.depth + 1) = namesAbove steps step.depth ++ [step.name] := by
  have habove : namesAbove (steps ++ [step]) step.depth = namesAbove steps step.depth :=
    namesAbove_append (by simp)
  rw [namesAbove, List.range_succ, List.filterMap_append, ← namesAbove, habove]
  simp

end Steps

def secondAfter? (name : String) : Chain → Option String
  | first :: second :: _ => if first = name then some second else none
  | _ => none

namespace HintContext

theorem successors_eq_filterMap (context : HintContext) (name : String) :
    context.successors name = context.chains.filterMap (secondAfter? name) := by
  rw [successors, rests, chains, List.filterMap_filterMap, List.filterMap_map]
  congr 1
  funext l
  rcases l with ⟨first, _ | ⟨second, rest⟩⟩
  · by_cases h : first = name <;> simp [secondAfter?, OpenChain.chain, h]
  · by_cases h : first = name <;> simp [secondAfter?, OpenChain.chain, h]

theorem notices_resolve (context : HintContext) (p : Program) (name : String) :
    (context.resolve p name).notices = (context.successors name).flatMap p.hintNotices := by
  rw [resolve]
  by_cases h : context.rests name = []
  · simp [h, successors]
  · simp [h]

end HintContext

def Notice.logged (n : Notice) : Level × String :=
  (n.level, n.message)

namespace Program

def sharers (p : Program) (name : String) : Nat :=
  p.routines.countP (·.name = name)

def sharedWarning (p : Program) (name : String) : Level × String :=
  (.warn, s!"more than one function named {name} ({p.sharers name} symbols); ignoring it")

def nameWarning? (p : Program) (name : String) : Option (Level × String) :=
  if p.sharers name = 0 then some (.warn, s!"call hint names unknown function {name}")
  else if p.sharers name = 1 then none
  else some (p.sharedWarning name)

/-- The warnings of a step. The path to it and the hints tell the chains that count there, and those
that begin with the name of the routine are warned of by their second name. -/
def stepWarnings (p : Program) (before : List TraceStep) (step : TraceStep) :
    List (Level × String) :=
  (HintContext.along p p.hints (namesAbove before step.depth)).chains.filterMap fun chain ↦
    (secondAfter? step.name chain).bind p.nameWarning?

def traceWarnings (p : Program) (before : List TraceStep) :
    List TraceStep → List (Level × String)
  | [] => []
  | step :: rest => p.stepWarnings before step ++ p.traceWarnings (before ++ [step]) rest

variable {p : Program} {context : HintContext} {ids : List Nat} {f : CallForest}

theorem traceWarnings_append (before xs ys : List TraceStep) :
    p.traceWarnings before (xs ++ ys) =
      p.traceWarnings before xs ++ p.traceWarnings (before ++ xs) ys := by
  induction xs generalizing before with
  | nil => simp [traceWarnings]
  | cons step xs ih => simp [traceWarnings, ih]

theorem length_idsNamed (p : Program) (name : String) :
    (p.idsNamed name).length = p.sharers name := by
  have hnamed (x : Routine × Nat) : (if x.1.name = name then some x.2 else none).isSome =
      decide (x.1.name = name) := by
    by_cases h : x.1.name = name <;> simp [h]
  calc (p.idsNamed name).length
    _ = p.routines.zipIdx.countP ((·.name = name) ∘ Prod.fst) := by
        simp [idsNamed, List.length_filterMap_eq_countP, hnamed, Function.comp_def]
    _ = p.sharers name := by rw [← List.countP_map, List.zipIdx_map_fst, sharers]

theorem lookup_cases (p : Program) (name : String) :
    (p.sharers name = 0 ∧ p.lookup name = .missing) ∨
    (p.sharers name = 1 ∧ ∃ id, p.lookup name = .found id) ∨
    2 ≤ p.sharers name ∧ p.lookup name = .ambiguous (p.sharers name) := by
  rw [lookup, ← length_idsNamed]
  rcases p.idsNamed name with _ | ⟨id, _ | ⟨id', ids⟩⟩
  · exact .inl ⟨rfl, rfl⟩
  · exact .inr (.inl ⟨rfl, id, rfl⟩)
  · exact .inr (.inr ⟨by simp, rfl⟩)

theorem logged_hintNotices (p : Program) (name : String) :
    (p.hintNotices name).map Notice.logged = (p.nameWarning? name).toList := by
  rcases p.lookup_cases name with ⟨hcount, h⟩ | ⟨hcount, id, h⟩ | ⟨hcount, h⟩
  · rw [hintNotices, h, nameWarning?, if_pos hcount]
    rfl
  · rw [hintNotices, h, nameWarning?, if_neg (by omega), if_pos hcount]
    rfl
  · rw [hintNotices, h, nameWarning?, if_neg (by omega), if_neg (by omega)]
    rfl

theorem logged_resolve (context : HintContext) (name : String) :
    (context.resolve p name).notices.map Notice.logged =
      context.chains.filterMap fun chain ↦ (secondAfter? name chain).bind p.nameWarning? := by
  rw [context.notices_resolve, context.successors_eq_filterMap, List.map_flatMap,
    funext p.logged_hintNotices, ← List.filterMap_eq_flatMap_toList, List.filterMap_filterMap]

/-- The visits of a tree warn as its trace says, in whatever steps come before. The contexts of the
roots are those at the end of the path that these steps tell. -/
theorem Unfolds.logged_visits (h : p.Unfolds context ids f) (before : List TraceStep)
    (depth : Nat) (hcontext : context = HintContext.along p p.hints (namesAbove before depth)) :
    ((f.visits depth).flatMap fun v ↦ (v.context.resolve p v.name).notices).map Notice.logged =
      p.traceWarnings before (f.trace depth) := by
  induction h generalizing before depth with
  | nil context => rfl
  | @node context id ids r below beside hr _ _ ihBelow ihBeside =>
    subst hcontext
    let step : TraceStep := ⟨depth, r.name, r.frame⟩
    have hbelow : namesAbove (before ++ [step]) (depth + 1) =
        namesAbove before depth ++ [r.name] := namesAbove_concat before step
    -- nothing from `step` on is above `depth`, so the trees beside have the same path
    have hbeside : namesAbove (before ++ [step] ++ below.trace (depth + 1)) depth =
        namesAbove before depth := by
      rw [List.append_assoc]
      exact namesAbove_append (below.le_depth_of_mem_tree step)
    rw [CallForest.trace_node, traceWarnings, traceWarnings_append, CallForest.visits,
      List.flatMap_cons, List.flatMap_append, List.map_append, List.map_append, logged_resolve,
      ihBelow (before ++ [step]), ihBeside (before ++ [step] ++ _)]
    · rfl
    · rw [hbeside]
    · rw [hbelow, HintContext.along_concat]

theorem logged_evaluate_of_found {entry : String} {id : Nat} {m : Measurement}
    (hid : p.NamesOnly entry id) (hm : p.measure entry = .ok m) :
    (p.evaluate entry).notices.map Notice.logged = p.traceWarnings [] m.trace := by
  obtain ⟨f, hf, hfresh, rfl⟩ := (measure_eq_ok_iff_exists_unfolds hid).mp hm
  have hnotices : (p.evaluate entry).notices =
      (f.visits 0).flatMap fun v ↦ (v.context.resolve p v.name).notices := by
    simp only [evaluate, lookup_id?_eq_some_iff.mpr hid, hf.walk_eq hfresh, Walk.notices]
    rfl
  rw [hnotices]
  exact hf.logged_visits [] 0 rfl

/-- The warnings of a measurement are exact. An entry that is missing is not warned of, and one that
several routines share is warned of once and no more. Any other measurement warns step by step along
its trace: of each chain that counts at the step, begins with the name of its routine and goes on
with a name that belongs to no routine or to several. -/
theorem measure_warnings_exact (routines : List Routine) (hints : List Chain) (entry : String)
    (m : Measurement) (h : ((analyze routines).withHints hints).measure entry = .ok m) :
    let p := (analyze routines).withHints hints
    let logged := (p.evaluate entry).notices.map Notice.logged
    (p.sharers entry = 0 → logged = []) ∧
    (2 ≤ p.sharers entry → logged = [p.sharedWarning entry]) ∧
    (p.sharers entry = 1 → logged = p.traceWarnings [] m.trace) := by
  intro p logged
  have hnotices (hl : (p.lookup entry).id? = none) :
      (p.evaluate entry).notices = (p.lookup entry).notices entry := by
    simp only [evaluate, hl]
  rcases p.lookup_cases entry with ⟨hcount, hl⟩ | ⟨hcount, id, hl⟩ | ⟨hcount, hl⟩ <;>
    rw [hl] at hnotices
  · refine ⟨fun _ ↦ ?_, by omega, by omega⟩
    exact congrArg (List.map Notice.logged) (hnotices rfl)
  · refine ⟨by omega, by omega, fun _ ↦ ?_⟩
    have hid : p.NamesOnly entry id := lookup_id?_eq_some_iff.mp (by rw [hl]; rfl)
    exact logged_evaluate_of_found hid h
  · refine ⟨by omega, fun _ ↦ ?_, by omega⟩
    exact congrArg (List.map Notice.logged) (hnotices rfl)

/-- A listing with two routines of one name, and calls through pointers in `main` and `relay`. -/
def twinListing : List Routine :=
  [.ofKinds "main" 0x8000 [.stackAdjust 16, .branch 0x8010, .indirectBranch],
    .ofKinds "relay" 0x8010 [.stackAdjust 8, .indirectBranch],
    .ofKinds "twin" 0x8020 [.stackAdjust 4],
    .ofKinds "twin" 0x8030 [.stackAdjust 2]]

theorem twinListing_warnings :
    let hints : List Chain := [["main", "relay", "ghost"], ["main", "twin"], ["relay", "main"],
      ["main", "relay", "twin"], ["main"], ["main", "ghost"]]
    let p := (analyze twinListing).withHints hints
    let twin : Level × String :=
      (.warn, "more than one function named twin (2 symbols); ignoring it")
    let ghost : Level × String := (.warn, "call hint names unknown function ghost")
    let m : Measurement := ⟨"main", 24, [⟨0, "main", 16⟩, ⟨1, "relay", 8⟩, ⟨1, "relay", 8⟩,
      ⟨1, "relay", 8⟩]⟩
    p.measure "main" = .ok m ∧ p.measure "twin" = .ok ⟨"twin", 0, []⟩ ∧
    p.measure "ghost" = .ok ⟨"ghost", 0, []⟩ ∧
    (p.evaluate "main").notices.map Notice.logged = p.traceWarnings [] m.trace ∧
    p.traceWarnings [] m.trace = [twin, ghost, ghost, twin, ghost, twin, ghost, twin] ∧
    (p.evaluate "twin").notices.map Notice.logged = [twin] ∧
    (p.evaluate "ghost").notices.map Notice.logged = [] := by
  intro hints p twin ghost m
  have hmain : p.measure "main" = .ok m := by decide +kernel
  have htwin : p.measure "twin" = .ok ⟨"twin", 0, []⟩ := by decide +kernel
  have hghost : p.measure "ghost" = .ok ⟨"ghost", 0, []⟩ := by decide +kernel
  obtain ⟨-, -, hone⟩ := measure_warnings_exact twinListing hints "main" m hmain
  obtain ⟨-, hmany, -⟩ := measure_warnings_exact twinListing hints "twin" _ htwin
  obtain ⟨hnone, -, -⟩ := measure_warnings_exact twinListing hints "ghost" _ hghost
  exact ⟨hmain, htwin, hghost, hone (by decide), by decide +kernel,
    (hmany (by decide)).trans (by decide +kernel), hnone (by decide)⟩

end Program

end StackDepth
