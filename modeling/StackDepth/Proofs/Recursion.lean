import StackDepth.Proofs.CallGraph
import Mathlib.Logic.Relation

namespace StackDepth

/-- A way round: it ends with the routine that it began with and meets no other one twice. -/
def IsLoop (ids : List Nat) : Prop :=
  ∃ f rest, ids = f :: rest ++ [f] ∧ (f :: rest).Nodup

theorem IsLoop.not_nodup {ids : List Nat} (h : IsLoop ids) : ¬ids.Nodup := by
  obtain ⟨f, rest, rfl, -⟩ := h
  simp

theorem dropWhile_eq_cons_of_mem {id : Nat} {path : List Nat} (h : id ∈ path) :
    ∃ rest, path.dropWhile (· != id) = id :: rest := by
  induction path with
  | nil => simp at h
  | cons i path ih =>
    by_cases hi : i = id
    · subst hi
      exact ⟨path, by simp⟩
    · have hmem : id ∈ path := (List.mem_cons.mp h).resolve_left (Ne.symm hi)
      obtain ⟨rest, hrest⟩ := ih hmem
      exact ⟨rest, by simpa [hi] using hrest⟩

namespace Program

open Relation

variable {p : Program} {s t : Site} {route : List Site}

theorem Route.of_append {before rest : List Site} (h : p.Route s (before ++ t :: rest)) :
    p.Route t (t :: rest) := by
  induction before generalizing s with
  | nil =>
    obtain ⟨rfl, -⟩ := route_cons_iff.mp h
    exact h
  | cons u before ih =>
    obtain ⟨-, he | ⟨v, -, h⟩⟩ := route_cons_iff.mp h
    · simp at he
    · exact ih h

theorem route_nodup_of_walk_eq_ok (path : List Nat) (context : HintContext) (id : Nat) :
    ∀ bytes, (p.walk path context id).outcome = .ok bytes → ∀ route, p.Route ⟨id, context⟩ route →
      (route.map Site.id).Nodup ∧ ∀ s ∈ route, s.id ∉ path := by
  induction path, context, id using walk_induction (p := p) with
  | met path context id hmem =>
    intro bytes h
    rw [walk_of_mem hmem] at h
    cases h
  | absent path context id hpath hr =>
    intro bytes _ route hroute
    obtain rfl := (route_iff_of_none hr).mp hroute
    simpa using hpath
  | entered path context id r hpath hr ih =>
    intro bytes h route hroute
    obtain ⟨below, hall, -⟩ := (walk_eq_ok_iff hpath hr).mp h
    obtain rfl | ⟨c, hc, rest, hrest, rfl⟩ := (route_iff_of_some hr).mp hroute
    · simpa using hpath
    · obtain ⟨b, hb⟩ := Walk.exists_ok_of_all_eq_ok hall c hc
      obtain ⟨hnodup, hfresh⟩ := ih c b hb rest hrest
      refine ⟨?_, ?_⟩
      · rw [List.map_cons, List.nodup_cons]
        refine ⟨fun hmem ↦ ?_, hnodup⟩
        obtain ⟨u, hu, rfl⟩ := List.mem_map.mp hmem
        exact hfresh u hu (by simp)
      · intro u hu
        rcases List.mem_cons.mp hu with rfl | hu
        · exact hpath
        · exact fun hmem ↦ hfresh u hu (List.mem_append_left _ hmem)

/-- Where a walk fails, it tells a way round that ends a route, with the path in front of it. -/
theorem loop_of_walk_eq_error (path : List Nat) (context : HintContext) (id : Nat) :
    path.Nodup → ∀ cycle, (p.walk path context id).outcome = .error cycle →
      IsLoop cycle ∧ ∃ route, p.Route ⟨id, context⟩ route ∧
        cycle <:+ path ++ route.map Site.id := by
  induction path, context, id using walk_induction (p := p) with
  | met path context id hmem =>
    -- the way round is the part of the path from `id` on, closed by the call of `id`
    intro hnodup cycle h
    rw [walk_of_mem hmem] at h
    obtain rfl := Except.error.inj h
    have hsuffix := List.dropWhile_suffix (l := path) (· != id)
    refine ⟨?_, [⟨id, context⟩], .stop _, ?_⟩
    · obtain ⟨rest, hrest⟩ := dropWhile_eq_cons_of_mem hmem
      rw [hrest] at hsuffix ⊢
      exact ⟨id, rest, rfl, hnodup.sublist hsuffix.sublist⟩
    · obtain ⟨front, hfront⟩ := hsuffix
      exact ⟨front, by rw [← List.append_assoc, hfront]; rfl⟩
  | absent path context id hpath hr =>
    intro _ cycle h
    rw [walk_of_none hpath hr] at h
    cases h
  | entered path context id r hpath hr ih =>
    intro hnodup cycle h
    obtain ⟨c, hc, hcycle⟩ := walk_eq_error hpath hr h
    have hnodup' : (path ++ [id]).Nodup :=
      List.nodup_append_comm.mpr (List.nodup_cons.mpr ⟨hpath, hnodup⟩)
    obtain ⟨hloop, rest, hrest, hsuffix⟩ := ih c hnodup' cycle hcycle
    refine ⟨hloop, _, (route_iff_of_some hr).mpr (.inr ⟨c, hc, rest, hrest, rfl⟩), ?_⟩
    simpa using hsuffix

def Branches (p : Program) (id c : Nat) : Prop :=
  ∃ r, p.routines[id]? = some r ∧ c ∈ r.callees

theorem calls_root_nil_iff {id : Nat} :
    p.Calls ⟨id, .root []⟩ t ↔ p.Branches id t.id ∧ t.context = .root [] := by
  constructor
  · rintro (⟨hr, hc⟩ | ⟨hr, hc⟩)
    · exact ⟨⟨_, hr, hc⟩, rfl⟩
    · simp at hc
  · obtain ⟨c, context⟩ := t
    rintro ⟨⟨r, hr, hc⟩, rfl⟩
    exact .branch hr hc

theorem Route.reaches (h : p.Route s route) (hs : s.context = .root []) :
    ∀ t ∈ route, ReflTransGen p.Branches s.id t.id ∧ t.context = .root [] := by
  induction h with
  | stop s =>
    intro t ht
    rw [List.mem_singleton.mp ht]
    exact ⟨.refl, hs⟩
  | @call s t route hcall _ ih =>
    obtain ⟨id, context⟩ := s
    subst hs
    obtain ⟨hbranch, ht⟩ := calls_root_nil_iff.mp hcall
    intro u hu
    rcases List.mem_cons.mp hu with rfl | hu
    · exact ⟨.refl, rfl⟩
    · obtain ⟨hreach, hctx⟩ := ih ht u hu
      exact ⟨.head hbranch hreach, hctx⟩

theorem Route.transGen (h : p.Route s (s :: route)) (hs : s.context = .root []) (ht : t ∈ route) :
    TransGen p.Branches s.id t.id := by
  obtain ⟨-, rfl | ⟨u, hcall, hroute⟩⟩ := route_cons_iff.mp h
  · simp at ht
  · obtain ⟨id, context⟩ := s
    subst hs
    obtain ⟨hbranch, hu⟩ := calls_root_nil_iff.mp hcall
    exact .head' hbranch (hroute.reaches hu t ht).1

theorem route_of_transGen {a b : Nat} (h : TransGen p.Branches a b) :
    ∃ rest, p.Route ⟨a, .root []⟩ (⟨a, .root []⟩ :: rest) ∧ b ∈ rest.map Site.id := by
  induction h using TransGen.head_induction_on with
  | @single a hbranch =>
    refine ⟨[⟨b, .root []⟩], .call (calls_root_nil_iff.mpr ⟨hbranch, rfl⟩) (.stop _), ?_⟩
    exact List.mem_singleton_self b
  | @head a c hbranch _ ih =>
    obtain ⟨rest, hroute, hmem⟩ := ih
    refine ⟨⟨c, .root []⟩ :: rest, .call (calls_root_nil_iff.mpr ⟨hbranch, rfl⟩) hroute, ?_⟩
    exact List.mem_cons_of_mem _ hmem

theorem route_of_cycle {a f : Nat} (h : ReflTransGen p.Branches a f)
    (hf : TransGen p.Branches f f) :
    ∃ route, p.Route ⟨a, .root []⟩ route ∧ ¬(route.map Site.id).Nodup := by
  induction h using ReflTransGen.head_induction_on with
  | refl =>
    obtain ⟨rest, hroute, hmem⟩ := route_of_transGen hf
    exact ⟨_, hroute, fun hnodup ↦ (List.nodup_cons.mp hnodup).1 hmem⟩
  | head hbranch _ ih =>
    obtain ⟨route, hroute, htwice⟩ := ih
    refine ⟨_, .call (calls_root_nil_iff.mpr ⟨hbranch, rfl⟩) hroute, fun hnodup ↦ ?_⟩
    exact htwice (List.nodup_cons.mp hnodup).2

theorem measure_eq_error_of_route {entry : String} {id : Nat} (hid : p.NamesOnly entry id)
    (hroute : p.Route ⟨id, .root p.hints⟩ route) (htwice : ¬(route.map Site.id).Nodup) :
    ∃ c, p.measure entry = .error c := by
  cases hw : (p.walk [] (.root p.hints) id).outcome with
  | error cycle => exact ⟨_, (measure_eq_error_iff hid).mpr ⟨cycle, hw, rfl⟩⟩
  | ok bytes =>
    obtain ⟨hnodup, -⟩ := route_nodup_of_walk_eq_ok [] _ id bytes hw route hroute
    exact absurd hnodup htwice

theorem loop_of_measure_eq_error {entry : String} {id : Nat} {c : Cycle}
    (hid : p.NamesOnly entry id) (h : p.measure entry = .error c) :
    ∃ before loop, p.Route ⟨id, .root p.hints⟩ (before ++ loop) ∧ IsLoop (loop.map Site.id) ∧
      c.path = loop.map fun s ↦ p.nameOf s.id := by
  obtain ⟨cycle, hw, rfl⟩ := (measure_eq_error_iff hid).mp h
  obtain ⟨hloop, route, hroute, front, hfront⟩ :=
    loop_of_walk_eq_error [] _ id List.nodup_nil cycle hw
  obtain ⟨before, loop, rfl, rfl, rfl⟩ := List.map_eq_append_iff.mp hfront.symm
  exact ⟨before, loop, hroute, hloop, by simp⟩

theorem measure_eq_error_iff_of_hints_eq_nil {entry : String} {id : Nat}
    (hid : p.NamesOnly entry id) (hp : p.hints = []) : (∃ c, p.measure entry = .error c) ↔
      ∃ f, ReflTransGen p.Branches id f ∧ TransGen p.Branches f f := by
  constructor
  · rintro ⟨c, h⟩
    obtain ⟨before, loop, hroute, ⟨f, rest, he, -⟩, -⟩ := loop_of_measure_eq_error hid h
    obtain ⟨s, loop, rfl, rfl, he⟩ := List.map_eq_cons_iff.mp he
    rw [hp] at hroute
    obtain ⟨hreach, hs⟩ := hroute.reaches rfl s (by simp)
    obtain ⟨t, ht, hts⟩ : ∃ t ∈ loop, t.id = s.id := by
      have hmem : s.id ∈ loop.map Site.id := by simp [he]
      exact List.mem_map.mp hmem
    exact ⟨s.id, hreach, hts ▸ hroute.of_append.transGen hs ht⟩
  · rintro ⟨f, hreach, hf⟩
    obtain ⟨route, hroute, htwice⟩ := route_of_cycle hreach hf
    exact measure_eq_error_of_route hid (hp ▸ hroute) htwice

/-- A measurement fails exactly where a route from its entry meets a routine twice, which without
hints is a cycle of branches below the entry. What it tells then are the names along a way round
that such a route ends with. -/
theorem measure_fails_iff_recursion (routines : List Routine) (hints : List Chain)
    (entry : String) (id : Nat) (hid : ((analyze routines).withHints hints).NamesOnly entry id) :
    let p := (analyze routines).withHints hints
    ((∃ c, p.measure entry = .error c) ↔
      ∃ route, p.Route ⟨id, .root p.hints⟩ route ∧ ¬(route.map Site.id).Nodup) ∧
    (hints = [] → ((∃ c, p.measure entry = .error c) ↔
      ∃ f, ReflTransGen p.Branches id f ∧ TransGen p.Branches f f)) ∧
    ∀ c, p.measure entry = .error c → ∃ before loop,
      p.Route ⟨id, .root p.hints⟩ (before ++ loop) ∧ IsLoop (loop.map Site.id) ∧
      (∀ s ∈ loop, s.id < routines.length) ∧ c.path = loop.map fun s ↦ p.nameOf s.id := by
  intro p
  refine ⟨⟨?_, ?_⟩, fun hhints ↦ ?_, fun c h ↦ ?_⟩
  · rintro ⟨c, h⟩
    obtain ⟨before, loop, hroute, hloop, -⟩ := loop_of_measure_eq_error hid h
    refine ⟨_, hroute, fun hnodup ↦ hloop.not_nodup ?_⟩
    rw [List.map_append] at hnodup
    exact hnodup.of_append_right
  · rintro ⟨route, hroute, htwice⟩
    exact measure_eq_error_of_route hid hroute htwice
  · exact measure_eq_error_iff_of_hints_eq_nil hid hhints
  · obtain ⟨before, loop, hroute, hloop, hpath⟩ := loop_of_measure_eq_error hid h
    refine ⟨before, loop, hroute, hloop, fun s hs ↦ ?_, hpath⟩
    rw [← length_routines_analyze routines hints]
    exact route_lt hroute hid.lt_length s (List.mem_append_right _ hs)

/-- A listing in which `pump` comes back to `main` only where a hint says so. -/
def pumpListing : List Routine :=
  [⟨"main", 0x8000, [⟨0x8000, "", "bl", "8010 <pump>", "", .branch 0x8010⟩], 0, []⟩,
    ⟨"pump", 0x8010, [⟨0x8010, "", "blx", "r3", "", .indirectBranch⟩], 0, []⟩]

theorem pumpListing_recursion :
    let p := (analyze pumpListing).withHints [["main", "pump", "main"]]
    p.NamesOnly "main" 0 ∧ p.measure "main" = .error ⟨["main", "pump", "main"]⟩ ∧
      ∃ route, p.Route ⟨0, .root p.hints⟩ route ∧ ¬(route.map Site.id).Nodup := by
  intro p
  have hid : p.NamesOnly "main" 0 := lookup_id?_eq_some_iff.mp (by decide)
  have h : p.measure "main" = .error ⟨["main", "pump", "main"]⟩ := by decide +kernel
  exact ⟨hid, h, (measure_fails_iff_recursion pumpListing _ "main" 0 hid).1.mp ⟨_, h⟩⟩

end Program

end StackDepth
