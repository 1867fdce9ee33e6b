import StackDepth.Proofs.CallGraph
import Mathlib.Order.Bounds.Basic

namespace StackDepth

/-- The greatest of some exact sizes, or the last word where that one is larger. -/
def IsClampedMax (sizes : Set Nat) (bytes : UInt64) : Prop :=
  ∃ worst, IsGreatest sizes worst ∧ bytes.toNat = min (UInt64.size - 1) worst

namespace IsClampedMax

variable {sizes sizes' : Set Nat} {a b : UInt64}

theorem zero : IsClampedMax {0} 0 := ⟨0, isGreatest_singleton, rfl⟩

theorem union (ha : IsClampedMax sizes a) (hb : IsClampedMax sizes' b) :
    IsClampedMax (sizes ∪ sizes') (max a b) := by
  obtain ⟨m, hm, ha⟩ := ha
  obtain ⟨n, hn, hb⟩ := hb
  refine ⟨max m n, hm.union hn, ?_⟩
  rw [UInt64.toNat_max, ha, hb]
  omega

theorem frame_add (frame : UInt64) (ha : IsClampedMax sizes a) :
    IsClampedMax ((frame.toNat + ·) '' sizes) (clampedAdd frame a) := by
  obtain ⟨m, hm, ha⟩ := ha
  refine ⟨frame.toNat + m, ⟨⟨m, hm.1, rfl⟩, ?_⟩, ?_⟩
  · rintro _ ⟨n, hn, rfl⟩
    exact Nat.add_le_add_left (hm.2 hn) _
  · rw [toNat_clampedAdd, ha]
    omega

end IsClampedMax

namespace Program

variable {p : Program}

def frameAt (p : Program) (id : Nat) : Nat :=
  (p.routines[id]?.map fun r ↦ r.frame.toNat).getD 0

/-- The exact sum of the frames along a route. -/
def routeBytes (p : Program) : List Site → Nat
  | [] => 0
  | s :: route => p.frameAt s.id + p.routeBytes route

def sizesFrom (p : Program) (s : Site) : Set Nat :=
  {n | ∃ route, p.Route s route ∧ p.routeBytes route = n}

def sizesBelow (p : Program) (context : HintContext) (ids : List Nat) : Set Nat :=
  {n | n = 0 ∨ ∃ id ∈ ids, n ∈ p.sizesFrom ⟨id, context⟩}

@[simp]
theorem sizesBelow_nil (context : HintContext) : p.sizesBelow context [] = {0} := by
  ext n
  simp [sizesBelow]

@[simp]
theorem sizesBelow_cons (context : HintContext) (id : Nat) (ids : List Nat) :
    p.sizesBelow context (id :: ids) = p.sizesFrom ⟨id, context⟩ ∪ p.sizesBelow context ids := by
  ext n
  simp only [sizesBelow, List.mem_cons, exists_eq_or_imp, Set.mem_union, Set.mem_ofPred_eq]
  exact or_left_comm

theorem sizesFrom_of_none {id : Nat} {context : HintContext} (hr : p.routines[id]? = none) :
    p.sizesFrom ⟨id, context⟩ = {0} := by
  ext n
  simp only [sizesFrom, route_iff_of_none hr, Set.mem_ofPred_eq, exists_eq_left,
    Set.mem_singleton_iff]
  simp [routeBytes, frameAt, hr, eq_comm]

theorem sizesFrom_of_some {id : Nat} {context : HintContext} {r : Routine}
    (hr : p.routines[id]? = some r) : p.sizesFrom ⟨id, context⟩ = (r.frame.toNat + ·) ''
      p.sizesBelow (p.contextBelow r context) (p.calleesAt r context) := by
  have hs (route : List Site) :
      p.routeBytes (⟨id, context⟩ :: route) = r.frame.toNat + p.routeBytes route := by
    simp [routeBytes, frameAt, hr]
  ext n
  constructor
  · rintro ⟨route, hroute, rfl⟩
    obtain rfl | ⟨c, hc, rest, hrest, rfl⟩ := (route_iff_of_some hr).mp hroute
    · exact ⟨0, .inl rfl, (hs []).symm⟩
    · exact ⟨p.routeBytes rest, .inr ⟨c, hc, rest, hrest, rfl⟩, (hs rest).symm⟩
  · rintro ⟨n, rfl | ⟨c, hc, rest, hrest, rfl⟩, rfl⟩
    · exact ⟨_, .stop _, hs []⟩
    · exact ⟨_, (route_iff_of_some hr).mpr (.inr ⟨c, hc, rest, hrest, rfl⟩), hs rest⟩

theorem all_isClampedMax {path : List Nat} {context : HintContext} {ids : List Nat}
    (hf : ∀ id bytes, (p.walk path context id).outcome = .ok bytes →
      IsClampedMax (p.sizesFrom ⟨id, context⟩) bytes) {bytes : UInt64}
    (h : (Walk.all (p.walk path context) ids).outcome = .ok bytes) :
    IsClampedMax (p.sizesBelow context ids) bytes := by
  induction ids generalizing bytes with
  | nil =>
    obtain rfl : 0 = bytes := Except.ok.inj h
    rw [sizesBelow_nil]
    exact .zero
  | cons id ids ih =>
    obtain ⟨first, rest, hfirst, hrest, rfl⟩ := Walk.all_cons_eq_ok_iff.mp h
    rw [sizesBelow_cons]
    exact (hf id first hfirst).union (ih hrest)

theorem walk_isClampedMax (path : List Nat) (context : HintContext) (id : Nat) :
    ∀ bytes, (p.walk path context id).outcome = .ok bytes →
      IsClampedMax (p.sizesFrom ⟨id, context⟩) bytes := by
  induction path, context, id using walk_induction (p := p) with
  | met path context id hmem =>
    intro bytes h
    rw [walk_of_mem hmem] at h
    cases h
  | absent path context id hpath hr =>
    intro bytes h
    rw [walk_of_none hpath hr] at h
    obtain rfl : 0 = bytes := Except.ok.inj h
    rw [sizesFrom_of_none hr]
    exact .zero
  | entered path context id r hpath hr ih =>
    intro bytes h
    obtain ⟨below, hbelow, rfl⟩ := (walk_eq_ok_iff hpath hr).mp h
    rw [sizesFrom_of_some hr]
    exact (all_isClampedMax ih hbelow).frame_add r.frame

/-- A measurement gives the bytes of the worst route from its entry, added up exactly and clamped
once. An entry that is not the name of a single routine has no route and no bytes. -/
theorem measure_bytes_eq_worst_route (routines : List Routine) (hints : List Chain)
    (entry : String) (m : Measurement)
    (h : ((analyze routines).withHints hints).measure entry = .ok m) :
    let p := (analyze routines).withHints hints
    (∀ id, p.NamesOnly entry id → ∃ worst,
      IsGreatest {n | ∃ route, p.Route ⟨id, .root p.hints⟩ route ∧ p.routeBytes route = n} worst ∧
        m.bytes.toNat = min (UInt64.size - 1) worst) ∧
    ((¬∃ id, p.NamesOnly entry id) → m.bytes = 0 ∧ m.trace = []) := by
  intro p
  refine ⟨fun id hid ↦ ?_, fun hid ↦ ?_⟩
  · obtain ⟨bytes, hbytes, rfl⟩ := (measure_eq_ok_iff hid).mp h
    exact walk_isClampedMax [] _ id bytes hbytes
  · obtain rfl : ⟨entry, 0, []⟩ = m := Except.ok.inj ((measure_of_not_namesOnly hid).symm.trans h)
    exact ⟨rfl, rfl⟩

/-- A listing in which one routine alone takes the whole address space. -/
def greedyListing : List Routine :=
  [.ofKinds "main" 0x8000 [.stackAdjust 16, .branch 0x8010],
    .ofKinds "greedy" 0x8010 [.stackAdjust 0xffffffffffffffff],
    ⟨"spare", 0x8020, [.bare 0 (.stackAdjust 8)], 0, [7]⟩]

theorem greedyListing_worst_route :
    let p := (analyze greedyListing).withHints [["main", "spare"]]
    let m : Measurement := ⟨"main", 0xffffffffffffffff,
      [⟨0, "main", 16⟩, ⟨1, "greedy", 0xffffffffffffffff⟩, ⟨1, "spare", 8⟩]⟩
    p.measure "main" = .ok m ∧ p.NamesOnly "main" 0 ∧ ∃ worst,
      IsGreatest {n | ∃ route, p.Route ⟨0, .root p.hints⟩ route ∧ p.routeBytes route = n} worst ∧
        m.bytes.toNat = min (UInt64.size - 1) worst := by
  intro p m
  have h : p.measure "main" = .ok m := by decide +kernel
  have hid : p.NamesOnly "main" 0 := lookup_id?_eq_some_iff.mp (by decide)
  exact ⟨h, hid, (measure_bytes_eq_worst_route greedyListing _ "main" m h).1 0 hid⟩

end Program

end StackDepth
