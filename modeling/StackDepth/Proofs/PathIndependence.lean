import StackDepth.Proofs.CallForest

namespace StackDepth

def TraceStep.lower (n : Nat) (step : TraceStep) : TraceStep :=
  { step with depth := n + step.depth }

namespace CallForest

theorem trace_add (f : CallForest) (n depth : Nat) :
    f.trace (n + depth) = (f.trace depth).map (·.lower n) := by
  induction f generalizing depth with
  | nil => rfl
  | node s r below beside ihBelow ihBeside =>
    rw [trace_node, trace_node, Nat.add_assoc, ihBelow, ihBeside, List.map_cons, List.map_append]
    rfl

theorem fresh_append_iff (f : CallForest) (front path : List Nat) (depth : Nat) :
    f.Fresh (front ++ path) ↔ f.Fresh path ∧ ∀ v ∈ f.visits depth, v.id ∉ front := by
  induction f generalizing path depth with
  | nil => simp [Fresh, visits]
  | node s r below beside ihBelow ihBeside =>
    rw [visits, List.forall_mem_cons, List.forall_mem_append, Fresh, Fresh, List.append_assoc,
      ihBelow (path ++ [s.id]) (depth + 1), ihBeside path depth, List.mem_append, not_or]
    tauto

end CallForest

namespace Program

/-- The path in front of a walk matters only where the walk comes back to it. A routine can be
walked along a path exactly where it can be walked alone and none of the routines visited then is
on the path; both walks need the same bytes and take the same steps, at depths that differ by the
length of the path. -/
theorem walk_along_iff_walk_alone (routines : List Routine) (hints : List Chain) (path : List Nat)
    (context : HintContext) (id : Nat) (hid : id < routines.length) :
    let p := (analyze routines).withHints hints
    ((∃ bytes, (p.walk path context id).outcome = .ok bytes) ↔
      (∃ bytes, (p.walk [] context id).outcome = .ok bytes) ∧
        ∀ v ∈ (p.walk [] context id).visits, v.id ∉ path) ∧
    ∀ bytes, (p.walk path context id).outcome = .ok bytes →
      (p.walk [] context id).outcome = .ok bytes ∧
      (p.walk path context id).trace =
        (p.walk [] context id).trace.map (·.lower path.length) := by
  intro p
  have hid : id < p.routines.length := (length_routines_analyze routines hints).symm ▸ hid
  have hfresh (f : CallForest) :
      f.Fresh path ↔ f.Fresh [] ∧ ∀ v ∈ f.visits 0, v.id ∉ path := by
    rw [← f.fresh_append_iff path [] 0, List.append_nil]
  refine ⟨⟨fun h ↦ ?_, fun ⟨h, havoid⟩ ↦ ?_⟩, fun bytes h ↦ ?_⟩
  · obtain ⟨f, hf, hpath⟩ := (walk_eq_ok_iff_exists_unfolds hid).mp h
    obtain ⟨halone, havoid⟩ := (hfresh f).mp hpath
    rw [hf.walk_eq halone]
    exact ⟨⟨_, rfl⟩, havoid⟩
  · obtain ⟨f, hf, halone⟩ := (walk_eq_ok_iff_exists_unfolds hid).mp h
    rw [hf.walk_eq halone] at havoid
    exact (walk_eq_ok_iff_exists_unfolds hid).mpr ⟨f, hf, (hfresh f).mpr ⟨halone, havoid⟩⟩
  · obtain ⟨f, hf, hpath⟩ := (walk_eq_ok_iff_exists_unfolds hid).mp ⟨bytes, h⟩
    obtain ⟨halone, -⟩ := (hfresh f).mp hpath
    rw [hf.walk_eq hpath] at h ⊢
    rw [hf.walk_eq halone]
    exact ⟨h, f.trace_add path.length 0⟩

def sharedListing : List Routine :=
  [.ofKinds "main" 0x8000 [.stackAdjust 16, .branch 0x8010, .branch 0x8020],
    .ofKinds "work" 0x8010 [.stackAdjust 8, .branch 0x8020],
    .ofKinds "log" 0x8020 [.stackAdjust 32],
    .ofKinds "sink" 0x8030 [.stackAdjust 4]]

theorem sharedListing_walk_along :
    let p := (analyze sharedListing).withHints [["work", "log", "sink"]]
    let context := HintContext.root p.hints
    1 < sharedListing.length ∧
    (p.walk [0, 3] context 1).outcome ≠ .ok 44 ∧
    (p.walk [0] context 1).outcome = .ok 44 ∧ (p.walk [] context 1).outcome = .ok 44 ∧
    (p.walk [0] context 1).trace = (p.walk [] context 1).trace.map (·.lower 1) := by
  intro p context
  have hid : 1 < sharedListing.length := by decide
  have hok : (p.walk [0] context 1).outcome = .ok 44 := by decide +kernel
  obtain ⟨halone, htrace⟩ :=
    (walk_along_iff_walk_alone sharedListing [["work", "log", "sink"]] [0] context 1 hid).2 44 hok
  refine ⟨hid, fun h ↦ ?_, hok, halone, htrace⟩
  have hsink : ∃ v ∈ (p.walk [] context 1).visits, v.id = 3 := by decide +kernel
  obtain ⟨v, hv, hv3⟩ := hsink
  obtain ⟨-, havoid⟩ := (walk_along_iff_walk_alone sharedListing [["work", "log", "sink"]] [0, 3]
    context 1 hid).1.mp ⟨44, h⟩
  exact havoid v hv (by simp [hv3])

end Program

end StackDepth
