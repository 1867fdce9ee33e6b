import StackDepth.Proofs.FewerCalls

namespace StackDepth

theorem filterMap_sublist_filterMap {α β : Type} {f g : α → Option β}
    (h : ∀ a b, f a = some b → g a = some b) (xs : List α) :
    (xs.filterMap f).Sublist (xs.filterMap g) := by
  induction xs with
  | nil => exact .refl _
  | cons a xs ih =>
    cases hf : f a with
    | none =>
      rw [List.filterMap_cons_none hf]
      exact ih.trans ((List.sublist_cons_self a xs).filterMap g)
    | some b =>
      rw [List.filterMap_cons_some hf, List.filterMap_cons_some (h a b hf)]
      exact ih.cons_cons b

namespace Routine

variable {fs gs : List Routine}

theorem indexAt?_append_of_eq_some {address : UInt64} {i : Nat} (h : indexAt? fs address = some i) :
    indexAt? (fs ++ gs) address = some i := by
  rw [indexAt?] at h
  rw [indexAt?, List.findIdx?_append, h, Option.some_or]

theorem directCallees_sublist_append (r : Routine) :
    (r.directCallees (indexAt? fs)).Sublist (r.directCallees (indexAt? (fs ++ gs))) := by
  rw [directCallees_indexAt?, directCallees_indexAt?]
  exact filterMap_sublist_filterMap (fun _ _ ↦ indexAt?_append_of_eq_some) _

end Routine

namespace Program

variable {fs gs : List Routine} {hints : List Chain} {name : String} {id : Nat}

theorem names_analyze_iff {rs : List Routine} :
    ((analyze rs).withHints hints).Names name id ↔ ∃ r, rs[id]? = some r ∧ r.name = name := by
  simp [Names]

theorem names_append_iff (h : ∀ g ∈ gs, g.name ≠ name) :
    ((analyze (fs ++ gs)).withHints hints).Names name id ↔
      ((analyze fs).withHints hints).Names name id := by
  rw [names_analyze_iff, names_analyze_iff]
  refine exists_congr fun r ↦ and_congr_left fun hname ↦ ?_
  rcases Nat.lt_or_ge id fs.length with hid | hid
  · rw [List.getElem?_append_left hid]
  · -- a routine behind `fs` has another name
    rw [List.getElem?_append_right hid, List.getElem?_eq_none hid]
    constructor
    · intro hr
      exact absurd hname (h r (List.mem_of_getElem? hr))
    · rintro ⟨⟩

theorem namesOnly_append_iff (h : ∀ g ∈ gs, g.name ≠ name) :
    ((analyze (fs ++ gs)).withHints hints).NamesOnly name id ↔
      ((analyze fs).withHints hints).NamesOnly name id := by
  simp only [NamesOnly, names_append_iff h]

theorem hinted?_append_of_eq_some (h : ∀ g ∈ gs, g.name ∉ fs.map Routine.name)
    (hid : ((analyze fs).withHints hints).hinted? name = some id) :
    ((analyze (fs ++ gs)).withHints hints).hinted? name = some id := by
  have honly := lookup_id?_eq_some_iff.mp hid
  obtain ⟨r, hr, rfl⟩ := names_analyze_iff.mp ((honly id).mpr rfl)
  have hname : r.name ∈ fs.map Routine.name := List.mem_map_of_mem (List.mem_of_getElem? hr)
  have hne (g : Routine) (hg : g ∈ gs) : g.name ≠ r.name := fun he ↦ h g hg (he ▸ hname)
  exact lookup_id?_eq_some_iff.mpr ((namesOnly_append_iff hne).mpr honly)

theorem callees_resolve_sublist_append (h : ∀ g ∈ gs, g.name ∉ fs.map Routine.name)
    (context : HintContext) (name : String) :
    (context.resolve ((analyze fs).withHints hints) name).callees.Sublist
      (context.resolve ((analyze (fs ++ gs)).withHints hints) name).callees := by
  rw [HintContext.resolve, HintContext.resolve]
  split
  · exact .refl _
  · exact filterMap_sublist_filterMap (fun _ _ ↦ hinted?_append_of_eq_some h) _

theorem callsLess_append (hints : List Chain) (h : ∀ g ∈ gs, g.name ∉ fs.map Routine.name) :
    CallsLess Eq ((analyze fs).withHints hints) ((analyze (fs ++ gs)).withHints hints) where
  root := rfl
  entered {id r context context'} hr hcontext := by
    subst hcontext
    obtain ⟨r₀, hr₀, rfl⟩ : ∃ r₀, fs[id]? = some r₀ ∧ r₀.analyzedIn fs = r := by
      simpa using hr
    have hid : id < fs.length := (List.getElem?_eq_some_iff.mp hr₀).1
    refine ⟨r₀.analyzedIn (fs ++ gs), ?_, rfl, rfl, ?_,
      context_resolve_eq _ _ context r₀.name⟩
    · rw [routines_withHints, routines_analyze, List.getElem?_map, List.getElem?_append_left hid,
        hr₀, Option.map_some]
    · exact r₀.directCallees_sublist_append.append (callees_resolve_sublist_append h context _)

/-- A longer listing makes no estimate smaller: with routines added at the end of a listing that
have none of its names and not that of the entry, a measurement that failed still fails, and one
that succeeds did so before, with no more bytes and with a part of the trace. -/
theorem measure_longer_listing (fs gs : List Routine) (hints : List Chain) (entry : String)
    (hfs : ∀ g ∈ gs, g.name ∉ fs.map Routine.name) (hentry : ∀ g ∈ gs, g.name ≠ entry) :
    let p := (analyze fs).withHints hints
    let q := (analyze (fs ++ gs)).withHints hints
    ((∃ c, p.measure entry = .error c) → ∃ c, q.measure entry = .error c) ∧
    ∀ m, q.measure entry = .ok m → ∃ m₀, p.measure entry = .ok m₀ ∧
      m₀.bytes ≤ m.bytes ∧ m₀.trace.Sublist m.trace := by
  intro p q
  have hless : CallsLess Eq p q := callsLess_append hints hfs
  have hnames (id : Nat) : p.NamesOnly entry id ↔ q.NamesOnly entry id :=
    (namesOnly_append_iff hentry).symm
  refine ⟨?_, fun m hm ↦ hless.measure_of_ok hnames hm⟩
  rintro ⟨c, hc⟩
  exact hless.measure_of_error hnames hc

/-- A listing that was cut off: `main` calls `parse`, which is not in it, and then `log`. -/
def cutListing : List Routine :=
  [.ofKinds "main" 0x8000 [.stackAdjust 16, .branch 0x8030, .branch 0x8010],
    .ofKinds "log" 0x8010 [.stackAdjust 8],
    .ofKinds "again" 0x8020 [.branch 0x8020]]

def cutRest : List Routine :=
  [.ofKinds "parse" 0x8030 [.stackAdjust 32, .indirectBranch],
    .ofKinds "sink" 0x8010 [.stackAdjust 4]]

theorem cutListing_longer :
    let p := (analyze cutListing).withHints [["log", "sink"]]
    let q := (analyze (cutListing ++ cutRest)).withHints [["log", "sink"]]
    let m₀ : Measurement := ⟨"main", 24, [⟨0, "main", 16⟩, ⟨1, "log", 8⟩]⟩
    let m : Measurement := ⟨"main", 48, [⟨0, "main", 16⟩, ⟨1, "parse", 32⟩, ⟨1, "log", 8⟩,
      ⟨2, "sink", 4⟩]⟩
    (∀ g ∈ cutRest, g.name ∉ cutListing.map Routine.name) ∧ (∀ g ∈ cutRest, g.name ≠ "main") ∧
    (∀ g ∈ cutRest, g.name ≠ "again") ∧ (∃ c, q.measure "again" = .error c) ∧
    p.measure "main" = .ok m₀ ∧ q.measure "main" = .ok m ∧ m₀.bytes ≤ m.bytes ∧
      m₀.trace.Sublist m.trace := by
  intro p q m₀ m
  have hnew : ∀ g ∈ cutRest, g.name ∉ cutListing.map Routine.name := by decide
  have hmain : ∀ g ∈ cutRest, g.name ≠ "main" := by decide
  have hagain : ∀ g ∈ cutRest, g.name ≠ "again" := by decide
  have hfails : p.measure "again" = .error ⟨["again", "again"]⟩ := by decide +kernel
  have hm₀ : p.measure "main" = .ok m₀ := by decide +kernel
  have hm : q.measure "main" = .ok m := by decide +kernel
  obtain ⟨m₁, hm₁, hbytes, htrace⟩ :=
    (measure_longer_listing cutListing cutRest [["log", "sink"]] "main" hnew hmain).2 m hm
  obtain rfl : m₁ = m₀ := Except.ok.inj (hm₁.symm.trans hm₀)
  exact ⟨hnew, hmain, hagain, (measure_longer_listing cutListing cutRest [["log", "sink"]] "again"
    hnew hagain).1 ⟨_, hfails⟩, hm₀, hm, hbytes, htrace⟩

end Program

end StackDepth
