import StackDepth.Proofs.CallGraph
import Mathlib.Logic.Equiv.Basic

namespace StackDepth

def Routine.rename (place : Nat → Nat) (r : Routine) : Routine :=
  { r with callees := r.callees.map place }

def Visit.rename (place : Nat → Nat) (v : Visit) : Visit :=
  { v with id := place v.id }

namespace Walk

def rename (place : Nat → Nat) (w : Walk) : Walk :=
  ⟨w.visits.map (·.rename place), w.outcome.mapError (·.map place)⟩

@[simp]
theorem trace_rename (place : Nat → Nat) (w : Walk) : (w.rename place).trace = w.trace := by
  simp [trace, rename, Visit.rename]

@[simp]
theorem enter_rename (place : Nat → Nat) (v : Visit) (w : Walk) :
    (enter v w).rename place = enter (v.rename place) (w.rename place) := by
  rcases w with ⟨visits, cycle | bytes⟩ <;> rfl

theorem all_map_eq_rename {place : Nat → Nat} {f g : Nat → Walk}
    (h : ∀ id, g (place id) = (f id).rename place) (ids : List Nat) :
    all g (ids.map place) = (all f ids).rename place := by
  induction ids with
  | nil => rfl
  | cons id ids ih =>
    rw [List.map_cons, all, all, h, ih]
    rcases f id with ⟨visits, cycle | bytes⟩
    · rfl
    · rcases all f ids with ⟨rest, cycle | bytes'⟩ <;> simp [rename, Except.mapError, Except.map]

end Walk

namespace Program

variable {p q : Program} {place : Equiv.Perm Nat}

/-- Two programs that differ in the positions of their routines only. -/
structure Renames (place : Equiv.Perm Nat) (p q : Program) : Prop where
  hints : q.hints = p.hints
  routines (id : Nat) : q.routines[place id]? = p.routines[id]?.map (·.rename place)

/-- Two programs that differ in the positions of their routines and in what no walk reads. -/
structure Mirrors (place : Equiv.Perm Nat) (p q : Program) : Prop where
  hints : q.hints = p.hints
  absent {id : Nat} : p.routines[id]? = none → q.routines[place id]? = none
  entered {id : Nat} {r : Routine} : p.routines[id]? = some r →
    ∃ s, q.routines[place id]? = some s ∧ s.name = r.name ∧ s.frame = r.frame ∧
      s.callees = r.callees.map place

namespace Mirrors

theorem map_name_eq (h : Mirrors place p q) (id : Nat) :
    q.routines[place id]?.map Routine.name = p.routines[id]?.map Routine.name := by
  cases hr : p.routines[id]? with
  | none => rw [h.absent hr]
  | some r =>
    obtain ⟨s, hs, hname, -⟩ := h.entered hr
    rw [hs, Option.map_some, Option.map_some, hname]

theorem names_iff (h : Mirrors place p q) {name : String} {id : Nat} :
    q.Names name (place id) ↔ p.Names name id := by
  rw [Names, Names, ← Option.map_eq_some_iff, ← Option.map_eq_some_iff, h.map_name_eq]

theorem namesOnly_iff (h : Mirrors place p q) {name : String} {id : Nat} :
    q.NamesOnly name (place id) ↔ p.NamesOnly name id := by
  rw [NamesOnly, NamesOnly, ← place.forall_congr_right]
  simp [h.names_iff]

theorem hinted?_eq (h : Mirrors place p q) (name : String) :
    q.hinted? name = (p.hinted? name).map place := by
  refine Option.ext fun i ↦ ?_
  obtain ⟨id, rfl⟩ := place.surjective i
  rw [hinted?, lookup_id?_eq_some_iff, h.namesOnly_iff, ← lookup_id?_eq_some_iff, ← hinted?]
  simp

theorem callees_resolve (h : Mirrors place p q) (context : HintContext) (name : String) :
    (context.resolve q name).callees = (context.resolve p name).callees.map place := by
  rw [HintContext.resolve, HintContext.resolve]
  split
  · rfl
  · rw [List.map_filterMap, funext h.hinted?_eq]

theorem walk_eq (h : Mirrors place p q) (path : List Nat) (context : HintContext) (id : Nat) :
    q.walk (path.map place) context (place id) = (p.walk path context id).rename place := by
  have hmem {path : List Nat} {id : Nat} : place id ∈ path.map place ↔ id ∈ path :=
    List.mem_map_of_injective place.injective
  induction path, context, id using walk_induction (p := p) with
  | met path context id hpath =>
    have hloop : (path.map place).dropWhile (· != place id) =
        (path.dropWhile (· != id)).map place := by
      rw [List.dropWhile_map]
      congr 2
      funext i
      simp [bne]
    rw [walk_of_mem hpath, walk_of_mem (hmem.mpr hpath), hloop]
    simp [Walk.rename, Except.mapError]
  | absent path context id hpath hr =>
    rw [walk_of_none hpath hr, walk_of_none (mt hmem.mp hpath) (h.absent hr)]
    rfl
  | entered path context id r hpath hr ih =>
    obtain ⟨s, hs, hname, hframe, hcallees⟩ := h.entered hr
    have hcalled : q.calleesAt s context = (p.calleesAt r context).map place := by
      rw [calleesAt, calleesAt, List.map_append, ← h.callees_resolve, hcallees, hname]
    have hbelow : q.contextBelow s context = p.contextBelow r context := by
      rw [contextBelow, hname]
      exact context_resolve_eq q p context r.name
    rw [walk_of_some hpath hr, walk_of_some (mt hmem.mp hpath) hs, hcalled, hbelow, hname, hframe,
      Walk.enter_rename, List.length_map]
    congr 1
    refine Walk.all_map_eq_rename (fun c ↦ ?_) _
    rw [← ih c, List.map_append, List.map_singleton]

theorem nameOf_eq (h : Mirrors place p q) (id : Nat) : q.nameOf (place id) = p.nameOf id := by
  rw [nameOf, h.map_name_eq, nameOf]

theorem measure_eq (h : Mirrors place p q) (entry : String) :
    q.measure entry = p.measure entry := by
  by_cases hid : ∃ id, p.NamesOnly entry id
  · obtain ⟨id, hid⟩ := hid
    have hid' : q.NamesOnly entry (place id) := h.namesOnly_iff.mpr hid
    have hwalk := h.walk_eq [] (.root p.hints) id
    rw [List.map_nil] at hwalk
    cases ho : (p.walk [] (.root p.hints) id).outcome with
    | error ids =>
      rw [(measure_eq_error_iff hid).mpr ⟨ids, ho, rfl⟩, measure_eq_error_iff hid', h.hints, hwalk]
      exact ⟨ids.map place, by simp [Walk.rename, ho, Except.mapError], by simp [h.nameOf_eq]⟩
    | ok bytes =>
      rw [(measure_eq_ok_iff hid).mpr ⟨bytes, ho, rfl⟩, measure_eq_ok_iff hid', h.hints, hwalk,
        Walk.trace_rename]
      exact ⟨bytes, by simp [Walk.rename, ho, Except.mapError], rfl⟩
  · have hid' : ¬∃ id, q.NamesOnly entry id := by
      rintro ⟨i, hi⟩
      obtain ⟨id, rfl⟩ := place.surjective i
      exact hid ⟨id, h.namesOnly_iff.mp hi⟩
    rw [measure_of_not_namesOnly hid, measure_of_not_namesOnly hid']

end Mirrors

namespace Renames

theorem mirrors (h : Renames place p q) : Mirrors place p q where
  hints := h.hints
  absent hr := by rw [h.routines, hr]; rfl
  entered {id r} hr := ⟨r.rename place, by rw [h.routines, hr]; rfl, rfl, rfl, rfl⟩

theorem measure_eq (h : Renames place p q) (entry : String) :
    q.measure entry = p.measure entry :=
  h.mirrors.measure_eq entry

end Renames

end Program

namespace Routine

variable {rs ss : List Routine} {place : Equiv.Perm Nat}

/-- Two listings of the same routines, and where each routine of the first one stands in the
second. Routines with the same entry address keep their order. -/
structure Reorders (place : Equiv.Perm Nat) (rs ss : List Routine) : Prop where
  moved (i : Nat) : ss[place i]? = rs[i]?
  steady {i j : Nat} {r s : Routine} : rs[i]? = some r → rs[j]? = some s → r.entry = s.entry →
    i < j → place i < place j

namespace Reorders

theorem symm (h : Reorders place rs ss) : Reorders place.symm ss rs where
  moved i := by rw [← h.moved, place.apply_symm_apply]
  steady {i j r s} hr hs hentry hij := by
    rw [← place.apply_symm_apply i, h.moved] at hr
    rw [← place.apply_symm_apply j, h.moved] at hs
    by_contra hle
    have hne : place.symm j ≠ place.symm i := place.symm.injective.ne (Nat.ne_of_gt hij)
    have hlt := h.steady hs hr hentry.symm (by omega)
    simp only [Equiv.apply_symm_apply] at hlt
    omega

theorem indexAt?_eq_some (h : Reorders place rs ss) {address : UInt64} {i : Nat}
    (hi : indexAt? rs address = some i) : indexAt? ss address = some (place i) := by
  obtain ⟨⟨r, hr, rfl⟩, hfirst⟩ := indexAt?_eq_some_iff.mp hi
  refine indexAt?_eq_some_iff.mpr ⟨⟨r, by rw [h.moved, hr], rfl⟩, fun j hj s hs hentry ↦ ?_⟩
  obtain ⟨k, rfl⟩ := place.surjective j
  rw [h.moved] at hs
  -- a routine in front of `place i` in the second listing was not in front of `i` in the first
  have hki : ¬k < i := fun hki ↦ hfirst k hki s hs hentry
  have hne : k ≠ i := fun he ↦ by simp [he] at hj
  have hlt := h.steady hr hs hentry.symm (by omega)
  omega

theorem indexAt?_eq (h : Reorders place rs ss) (address : UInt64) :
    indexAt? ss address = (indexAt? rs address).map place := by
  cases hi : indexAt? rs address with
  | some i => exact h.indexAt?_eq_some hi
  | none =>
    cases hj : indexAt? ss address with
    | none => rfl
    | some j =>
      have hi' := h.symm.indexAt?_eq_some hj
      simp [hi] at hi'

theorem directCallees_eq (h : Reorders place rs ss) (r : Routine) :
    r.directCallees (indexAt? ss) = (r.directCallees (indexAt? rs)).map place := by
  rw [directCallees_indexAt?, directCallees_indexAt?, List.map_filterMap, funext h.indexAt?_eq]

theorem analyzedIn_eq (h : Reorders place rs ss) :
    analyzedIn ss = rename place ∘ analyzedIn rs := by
  funext r
  simp only [Function.comp_apply, analyzedIn, rename, h.directCallees_eq]

theorem renames_analyze (h : Reorders place rs ss) (hints : List Chain) :
    Program.Renames place ((Program.analyze rs).withHints hints)
      ((Program.analyze ss).withHints hints) where
  hints := rfl
  routines id := by
    simp [h.moved, h.analyzedIn_eq]

end Reorders

end Routine

namespace Program

/-- The order of a listing does not matter: the routines in another order give the same measurement,
with the same trace, or the same cycle, as long as those with the same entry address keep their
order. -/
theorem measure_reorder (rs ss : List Routine) (place : Equiv.Perm Nat)
    (h : Routine.Reorders place rs ss) (hints : List Chain) (entry : String) :
    ((analyze ss).withHints hints).measure entry = ((analyze rs).withHints hints).measure entry :=
  (h.renames_analyze hints).measure_eq entry

/-- A listing in which `alias` stands at the address of `worker`, behind it. -/
def aliasListing : List Routine :=
  [.ofKinds "main" 0x8000 [.stackAdjust 16, .branch 0x8010],
    .ofKinds "worker" 0x8010 [.stackAdjust 8],
    .ofKinds "alias" 0x8010 [.stackAdjust 64],
    .ofKinds "spare" 0x8020 [.stackAdjust 4]]

def swappedListing : List Routine :=
  [3, 1, 2, 0].filterMap (aliasListing[·]?)

theorem swappedListing_reorders :
    Routine.Reorders (Equiv.swap 0 3) aliasListing swappedListing := by
  have hplace (i : Nat) : Equiv.swap 0 3 (i + 4) = i + 4 :=
    Equiv.swap_apply_of_ne_of_ne (by omega) (by omega)
  have hsteady : ∀ i < 4, ∀ j < 4, aliasListing[i]?.map Routine.entry =
      aliasListing[j]?.map Routine.entry → i < j → Equiv.swap 0 3 i < Equiv.swap 0 3 j := by
    decide
  refine ⟨fun i ↦ ?_, fun {i j r s} hr hs hentry hij ↦ ?_⟩
  · match i with
    | 0 | 1 | 2 | 3 => decide
    | i + 4 => rw [hplace]; rfl
  · have hi : i < 4 := (List.getElem?_eq_some_iff.mp hr).1
    have hj : j < 4 := (List.getElem?_eq_some_iff.mp hs).1
    exact hsteady i hi j hj (by rw [hr, hs]; exact congrArg some hentry) hij

theorem swappedListing_measure :
    let m : Measurement := ⟨"main", 24, [⟨0, "main", 16⟩, ⟨1, "worker", 8⟩, ⟨1, "spare", 4⟩]⟩
    Routine.Reorders (Equiv.swap 0 3) aliasListing swappedListing ∧
    ((analyze swappedListing).withHints [["main", "spare"]]).measure "main" =
      ((analyze aliasListing).withHints [["main", "spare"]]).measure "main" ∧
    ((analyze aliasListing).withHints [["main", "spare"]]).measure "main" = .ok m := by
  intro m
  have h := swappedListing_reorders
  exact ⟨h, measure_reorder aliasListing swappedListing _ h [["main", "spare"]] "main",
    by decide +kernel⟩

end Program

end StackDepth
