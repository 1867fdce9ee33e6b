import StackDepth.Proofs.Recursion
import Mathlib.Data.List.Perm.Subperm
import Mathlib.Data.Option.Basic

namespace StackDepth

namespace Walk

def all? (walk : Nat → Option Walk) : List Nat → Option Walk
  | [] => some ⟨[], .ok 0⟩
  | id :: ids => do
    match ← walk id with
    | ⟨visits, .error cycle⟩ => return ⟨visits, .error cycle⟩
    | ⟨visits, .ok bytes⟩ =>
      let rest ← all? walk ids
      return ⟨visits ++ rest.visits, rest.outcome.map (max bytes)⟩

theorem all?_eq_some {f : Nat → Option Walk} {g : Nat → Walk} {ids : List Nat}
    (h : ∀ id ∈ ids, f id = some (g id)) : all? f ids = some (all g ids) := by
  induction ids with
  | nil => rfl
  | cons id ids ih =>
    have hid := h id List.mem_cons_self
    have hids := ih fun i hi ↦ h i (List.mem_cons_of_mem _ hi)
    rw [all?, all, hid, hids]
    rcases g id with ⟨visits, cycle | bytes⟩ <;> rfl

theorem exists_mem_visits_of_all {f : Nat → Walk} {ids : List Nat} {v : Visit}
    (h : v ∈ (all f ids).visits) : ∃ id ∈ ids, v ∈ (f id).visits := by
  induction ids with
  | nil => simp [all] at h
  | cons id ids ih =>
    rw [all] at h
    cases hf : f id with
    | mk visits outcome =>
      cases outcome with
      | error cycle =>
        rw [hf] at h
        exact ⟨id, List.mem_cons_self, by simpa [hf] using h⟩
      | ok bytes =>
        rw [hf] at h
        rcases List.mem_append.mp h with h | h
        · exact ⟨id, List.mem_cons_self, by simpa [hf] using h⟩
        · obtain ⟨i, hi, hv⟩ := ih h
          exact ⟨i, List.mem_cons_of_mem _ hi, hv⟩

end Walk

namespace Program

variable {p : Program} {path : List Nat} {context : HintContext} {id : Nat}

def OnCourse (p : Program) (path : List Nat) (id : Nat) : Prop :=
  path.Nodup ∧ ∀ i ∈ id :: path, i < p.routines.length

instance : Decidable (p.OnCourse path id) := inferInstanceAs (Decidable (_ ∧ _))

/-- The walk within a budget of nested calls. It is refused at the first call that is off course
or beyond the budget. -/
def walk? (p : Program) : Nat → List Nat → HintContext → Nat → Option Walk
  | 0, _, _, _ => none
  | budget + 1, path, context, id => do
    guard (p.OnCourse path id)
    let r ← p.routines[id]?
    if id ∈ path then return ⟨[], .error (path.dropWhile (· != id) ++ [id])⟩
    let hinted := context.resolve p r.name
    let below ← Walk.all? (p.walk? budget (path ++ [id]) hinted.context)
      (r.callees ++ hinted.callees)
    return Walk.enter ⟨⟨path.length, r.name, r.frame⟩, id, context⟩ below

/-- The measurement with a walk that may be refused. It is refused as well where a cycle cannot be
told because a routine of it is not in the listing. -/
def measure? (p : Program) (budget : Nat) (entry : String) :
    Option (Except Cycle Measurement) :=
  match (p.lookup entry).id? with
  | none => some (.ok ⟨entry, 0, []⟩)
  | some id => do
    let w ← p.walk? budget [] (.root p.hints) id
    match w.outcome with
    | .error ids => return .error ⟨← ids.mapM fun id ↦ p.routines[id]?.map Routine.name⟩
    | .ok bytes => return .ok ⟨entry, bytes, w.trace⟩

theorem OnCourse.length_le (h : p.OnCourse path id) : path.length ≤ p.routines.length := by
  have hsub : path ⊆ List.range p.routines.length := fun i hi ↦
    List.mem_range.mpr (h.2 i (List.mem_cons_of_mem _ hi))
  simpa using (h.1.subperm hsub).length_le

theorem OnCourse.append {c : Nat} (h : p.OnCourse path id) (hid : id ∉ path)
    (hc : c < p.routines.length) : p.OnCourse (path ++ [id]) c := by
  refine ⟨List.nodup_append_comm.mpr (List.nodup_cons.mpr ⟨hid, h.1⟩), ?_⟩
  intro i hi
  rcases List.mem_cons.mp hi with rfl | hi
  · exact hc
  · exact h.2 i (by simpa [or_comm] using hi)

theorem walk?_eq_some {budget : Nat} (h : p.OnCourse path id)
    (hb : p.routines.length < budget + path.length) :
    p.walk? budget path context id = some (p.walk path context id) := by
  induction budget generalizing path context id with
  | zero =>
    -- a path on course is no longer than the listing, so the budget cannot be used up
    have hle := h.length_le
    omega
  | succ budget ih =>
    have hid : id < p.routines.length := h.2 id List.mem_cons_self
    obtain ⟨r, hr⟩ : ∃ r, p.routines[id]? = some r := ⟨_, List.getElem?_eq_getElem hid⟩
    have hguard : guard (p.OnCourse path id) = some () := if_pos h
    rw [walk?, hguard, hr]
    by_cases hmem : id ∈ path
    · rw [walk_of_mem hmem]
      exact if_pos hmem
    · have hbelow : Walk.all? (p.walk? budget (path ++ [id]) (p.contextBelow r context))
          (p.calleesAt r context) =
          some (Walk.all (p.walk (path ++ [id]) (p.contextBelow r context))
            (p.calleesAt r context)) := by
        refine Walk.all?_eq_some fun c hc ↦ ih (h.append hmem (calleesAt_lt hr c hc)) ?_
        simp only [List.length_append, List.length_singleton]
        omega
      rw [calleesAt, contextBelow] at hbelow
      rw [walk_of_some hmem hr, calleesAt, contextBelow]
      simp only [Option.bind_eq_bind, Option.bind_some, if_neg hmem, hbelow]
      rfl

theorem depth_lt_of_mem_visits (path : List Nat) (context : HintContext) (id : Nat) :
    p.OnCourse path id → ∀ v ∈ (p.walk path context id).visits,
      v.depth < p.routines.length := by
  induction path, context, id using walk_induction (p := p) with
  | met path context id hmem => simp [walk_of_mem hmem]
  | absent path context id hpath hr => simp [walk_of_none hpath hr]
  | entered path context id r hpath hr ih =>
    intro h v hv
    rw [walk_of_some hpath hr] at hv
    rcases List.mem_cons.mp hv with rfl | hv
    · have hle := (h.append hpath (h.2 id List.mem_cons_self)).length_le
      rw [List.length_append, List.length_singleton] at hle
      exact hle
    · obtain ⟨c, hc, hv⟩ := Walk.exists_mem_visits_of_all hv
      exact ih c (h.append hpath (calleesAt_lt hr c hc)) v hv

theorem mapM_name_eq_some {ids : List Nat} (h : ∀ i ∈ ids, i < p.routines.length) :
    (ids.mapM fun id ↦ p.routines[id]?.map Routine.name) = some (ids.map p.nameOf) := by
  induction ids with
  | nil => rfl
  | cons id ids ih =>
    have hids := ih fun i hi ↦ h i (List.mem_cons_of_mem _ hi)
    have hid := h id List.mem_cons_self
    rw [List.mapM_cons, hids]
    simp [nameOf, hid]

theorem NamesOnly.onCourse {entry : String} (h : p.NamesOnly entry id) : p.OnCourse [] id :=
  ⟨List.nodup_nil, by simpa using h.lt_length⟩

theorem measure?_eq_some {budget : Nat} (hb : p.routines.length < budget) (entry : String) :
    p.measure? budget entry = some (p.measure entry) := by
  by_cases hid : ∃ id, p.NamesOnly entry id
  · obtain ⟨id, hid⟩ := hid
    have hw : p.walk? budget [] (.root p.hints) id = some (p.walk [] (.root p.hints) id) :=
      walk?_eq_some hid.onCourse hb
    rw [measure?, lookup_id?_eq_some_iff.mpr hid]
    simp only [hw, Option.bind_eq_bind, Option.bind_some]
    cases ho : (p.walk [] (.root p.hints) id).outcome with
    | error cycle =>
      obtain ⟨-, route, hroute, hsuffix⟩ :=
        loop_of_walk_eq_error [] _ id List.nodup_nil cycle ho
      have hlt : ∀ i ∈ cycle, i < p.routines.length := by
        intro i hi
        obtain ⟨s, hs, rfl⟩ := List.mem_map.mp (hsuffix.subset hi)
        exact route_lt hroute hid.lt_length s hs
      rw [(measure_eq_error_iff hid).mpr ⟨cycle, ho, rfl⟩]
      simp [mapM_name_eq_some hlt]
    | ok bytes =>
      rw [(measure_eq_ok_iff hid).mpr ⟨bytes, ho, rfl⟩]
      rfl
  · rw [measure?, lookup_id?_eq_none hid, measure_of_not_namesOnly hid]

theorem depth_lt_of_measure {entry : String} {m : Measurement} (h : p.measure entry = .ok m) :
    ∀ step ∈ m.trace, step.depth < p.routines.length := by
  intro step hstep
  by_cases hid : ∃ id, p.NamesOnly entry id
  · obtain ⟨id, hid⟩ := hid
    obtain ⟨bytes, -, rfl⟩ := (measure_eq_ok_iff hid).mp h
    obtain ⟨v, hv, rfl⟩ := List.mem_map.mp hstep
    exact depth_lt_of_mem_visits [] _ id hid.onCourse v hv
  · rw [measure_of_not_namesOnly hid] at h
    cases h
    simp at hstep

/-- Measuring needs a bounded number of nested calls. None of them meets a path that repeats
itself or looks for a routine outside the listing, and so the depths of a trace are bounded. -/
theorem measure_within_budget (routines : List Routine) (hints : List Chain) (entry : String)
    (budget : Nat) (hb : routines.length < budget) :
    let p := (analyze routines).withHints hints
    p.measure? budget entry = some (p.measure entry) ∧
    ∀ m, p.measure entry = .ok m → ∀ step ∈ m.trace, step.depth < routines.length := by
  intro p
  have hn : p.routines.length = routines.length := length_routines_analyze routines hints
  refine ⟨measure?_eq_some (hn ▸ hb) entry, fun m h step hstep ↦ ?_⟩
  rw [← hn]
  exact depth_lt_of_measure h step hstep

def strayListing : List Routine :=
  [⟨"main", 0x8000, [⟨0x8000, "", "bl", "8010 <leaf>", "", .branch 0x8010⟩], 0, [9, 0, 9]⟩,
    ⟨"leaf", 0x8010, [⟨0x8010, "", "sub", "sp, #8", "", .stackAdjust 8⟩], 0, [2]⟩]

theorem strayListing_within_budget :
    let p := (analyze strayListing).withHints [["leaf", "lost"], ["main", "leaf"]]
    let m : Measurement := ⟨"main", 8, [⟨0, "main", 0⟩, ⟨1, "leaf", 8⟩, ⟨1, "leaf", 8⟩]⟩
    strayListing.length < 3 ∧ p.measure? 3 "main" = some (p.measure "main") ∧
      p.measure "main" = .ok m ∧ ∀ step ∈ m.trace, step.depth < strayListing.length := by
  intro p m
  have hb : strayListing.length < 3 := by decide
  have h : p.measure "main" = .ok m := by decide +kernel
  obtain ⟨hbudget, hdepth⟩ := measure_within_budget strayListing
    [["leaf", "lost"], ["main", "leaf"]] "main" 3 hb
  exact ⟨hb, hbudget, h, hdepth m h⟩

end Program

end StackDepth
