import StackDepth.Measurement
import Mathlib.Data.List.Nodup

namespace StackDepth

/-- An instruction of which nothing is told but where it stands and what it does. -/
def Instruction.bare (address : UInt64) (kind : Kind) : Instruction :=
  ⟨address, "", "", "", "", kind⟩

def Routine.ofKinds (name : String) (entry : UInt64) (kinds : List Kind) : Routine :=
  { ofHeader name entry with body := kinds.map (.bare 0) }

namespace Program

def Names (p : Program) (name : String) (id : Nat) : Prop :=
  ∃ r, p.routines[id]? = some r ∧ r.name = name

def NamesOnly (p : Program) (name : String) (id : Nat) : Prop :=
  ∀ i, p.Names name i ↔ i = id

theorem NamesOnly.lt_length {p : Program} {name : String} {id : Nat} (h : p.NamesOnly name id) :
    id < p.routines.length := by
  obtain ⟨r, hr, -⟩ := (h id).mpr rfl
  exact (List.getElem?_eq_some_iff.mp hr).1

@[simp]
theorem mem_idsNamed {p : Program} {name : String} {id : Nat} :
    id ∈ p.idsNamed name ↔ p.Names name id := by
  simp only [idsNamed, Names, List.mem_filterMap, Prod.exists, List.mem_zipIdx_iff_getElem?,
    Option.ite_none_right_eq_some, Option.some.injEq]
  constructor
  · rintro ⟨r, i, hr, hn, rfl⟩
    exact ⟨r, hr, hn⟩
  · rintro ⟨r, hr, hn⟩
    exact ⟨r, id, hr, hn, rfl⟩

theorem idsNamed_nodup (p : Program) (name : String) : (p.idsNamed name).Nodup := by
  have h : p.routines.zipIdx.Pairwise fun a b ↦ a.2 ≠ b.2 := by
    rw [← List.pairwise_map, List.zipIdx_map_snd]
    exact List.nodup_range'
  refine List.pairwise_filterMap.mpr (h.imp ?_)
  rintro ⟨r, i⟩ ⟨r', i'⟩ hi j hj j' hj'
  simp only [Option.ite_none_right_eq_some, Option.some.injEq] at hj hj'
  rw [← hj.2, ← hj'.2]
  exact hi

theorem idsNamed_eq_singleton_iff {p : Program} {name : String} {id : Nat} :
    p.idsNamed name = [id] ↔ p.NamesOnly name id := by
  constructor
  · intro h i
    rw [← mem_idsNamed, h, List.mem_singleton]
  · intro h
    refine List.perm_singleton.mp ((List.perm_ext_iff_of_nodup (p.idsNamed_nodup name)
      (List.nodup_singleton id)).mpr fun i ↦ ?_)
    rw [mem_idsNamed, h i, List.mem_singleton]

theorem lookup_id?_eq_some_iff {p : Program} {name : String} {id : Nat} :
    (p.lookup name).id? = some id ↔ p.NamesOnly name id := by
  rw [← idsNamed_eq_singleton_iff, lookup]
  rcases p.idsNamed name with _ | ⟨i, _ | ⟨j, ids⟩⟩ <;> simp [Lookup.ofIds, Lookup.id?]

theorem lookup_id?_eq_none {p : Program} {name : String} (h : ¬∃ id, p.NamesOnly name id) :
    (p.lookup name).id? = none := by
  refine Option.eq_none_iff_forall_ne_some.mpr fun id hid ↦ h ⟨id, ?_⟩
  exact lookup_id?_eq_some_iff.mp hid

end Program

/-- A routine that is entered, with the hints that count there. -/
structure Site where
  id : Nat
  context : HintContext
  deriving DecidableEq, Repr

namespace Program

variable {p : Program}

def calleesAt (p : Program) (r : Routine) (context : HintContext) : List Nat :=
  r.callees ++ (context.resolve p r.name).callees

def contextBelow (p : Program) (r : Routine) (context : HintContext) : HintContext :=
  (context.resolve p r.name).context

theorem context_resolve_eq (p q : Program) (context : HintContext) (name : String) :
    (context.resolve p name).context = (context.resolve q name).context := by
  rw [HintContext.resolve, HintContext.resolve]
  split <;> rfl

@[simp]
theorem resolve_root_nil (name : String) :
    (HintContext.root []).resolve p name = ⟨[], .root [], []⟩ := rfl

/-- A call from a site. Whatever is called is entered with the hints that count below the caller. -/
inductive Calls (p : Program) : Site → Site → Prop
  | branch {id c : Nat} {context : HintContext} {r : Routine} :
      p.routines[id]? = some r → c ∈ r.callees →
      Calls p ⟨id, context⟩ ⟨c, (context.resolve p r.name).context⟩
  | hint {id c : Nat} {context : HintContext} {r : Routine} :
      p.routines[id]? = some r → c ∈ (context.resolve p r.name).callees →
      Calls p ⟨id, context⟩ ⟨c, (context.resolve p r.name).context⟩

/-- The sites along a walk through calls, from its first one on. -/
inductive Route (p : Program) : Site → List Site → Prop
  | stop (s : Site) : Route p s [s]
  | call {s t : Site} {route : List Site} :
      p.Calls s t → Route p t route → Route p s (s :: route)

section Entering

variable {id : Nat} {context : HintContext} {r : Routine} {t : Site} {route : List Site}

theorem not_calls_of_none (hr : p.routines[id]? = none) : ¬p.Calls ⟨id, context⟩ t := by
  rintro (⟨hr', -⟩ | ⟨hr', -⟩) <;> simp [hr] at hr'

theorem calls_iff_of_some (hr : p.routines[id]? = some r) : p.Calls ⟨id, context⟩ t ↔
    ∃ c ∈ p.calleesAt r context, t = ⟨c, p.contextBelow r context⟩ := by
  constructor
  · rintro (⟨hr', hc⟩ | ⟨hr', hc⟩) <;> obtain rfl := Option.some.inj (hr'.symm.trans hr)
    · exact ⟨_, List.mem_append_left _ hc, rfl⟩
    · exact ⟨_, List.mem_append_right _ hc, rfl⟩
  · rintro ⟨c, hc, rfl⟩
    rcases List.mem_append.mp hc with hc | hc
    · exact .branch hr hc
    · exact .hint hr hc

theorem route_cons_iff {s : Site} : p.Route s (t :: route) ↔
    s = t ∧ (route = [] ∨ ∃ u, p.Calls s u ∧ p.Route u route) := by
  constructor
  · intro h
    cases h with
    | stop => exact ⟨rfl, .inl rfl⟩
    | call hcall h => exact ⟨rfl, .inr ⟨_, hcall, h⟩⟩
  · rintro ⟨rfl, rfl | ⟨u, hcall, h⟩⟩
    · exact .stop s
    · exact .call hcall h

theorem route_iff_of_none (hr : p.routines[id]? = none) :
    p.Route ⟨id, context⟩ route ↔ route = [⟨id, context⟩] := by
  constructor
  · intro h
    cases h with
    | stop => rfl
    | call hcall _ => exact absurd hcall (not_calls_of_none hr)
  · rintro rfl
    exact .stop _

theorem route_iff_of_some (hr : p.routines[id]? = some r) : p.Route ⟨id, context⟩ route ↔
    route = [⟨id, context⟩] ∨ ∃ c ∈ p.calleesAt r context, ∃ rest,
      p.Route ⟨c, p.contextBelow r context⟩ rest ∧ route = ⟨id, context⟩ :: rest := by
  constructor
  · intro h
    cases h with
    | stop => exact .inl rfl
    | call hcall h =>
      obtain ⟨c, hc, rfl⟩ := (calls_iff_of_some hr).mp hcall
      exact .inr ⟨c, hc, _, h, rfl⟩
  · rintro (rfl | ⟨c, hc, rest, h, rfl⟩)
    · exact .stop _
    · exact .call ((calls_iff_of_some hr).mpr ⟨c, hc, rfl⟩) h

end Entering

end Program

namespace Walk

variable {f : Nat → Walk} {id : Nat} {ids cycle : List Nat} {bytes : UInt64}

theorem all_cons_eq_ok_iff : (all f (id :: ids)).outcome = .ok bytes ↔
    ∃ first rest, (f id).outcome = .ok first ∧ (all f ids).outcome = .ok rest ∧
      max first rest = bytes := by
  rw [all]
  rcases f id with ⟨visits, cycle | first⟩
  · simp
  · cases h : (all f ids).outcome <;> simp [Except.map, h]

theorem all_cons_eq_error_iff : (all f (id :: ids)).outcome = .error cycle ↔
    (f id).outcome = .error cycle ∨
      ∃ first, (f id).outcome = .ok first ∧ (all f ids).outcome = .error cycle := by
  rw [all]
  rcases f id with ⟨visits, cycle | first⟩
  · simp
  · cases h : (all f ids).outcome <;> simp [Except.map, h]

theorem exists_ok_of_all_eq_ok (h : (all f ids).outcome = .ok bytes) :
    ∀ id ∈ ids, ∃ b, (f id).outcome = .ok b := by
  induction ids generalizing bytes with
  | nil => simp
  | cons i ids ih =>
    obtain ⟨first, rest, hf, hr, -⟩ := all_cons_eq_ok_iff.mp h
    intro id hid
    rcases List.mem_cons.mp hid with rfl | hid
    · exact ⟨first, hf⟩
    · exact ih hr id hid

theorem exists_error_of_all_eq_error (h : (all f ids).outcome = .error cycle) :
    ∃ id ∈ ids, (f id).outcome = .error cycle := by
  induction ids with
  | nil => simp [all] at h
  | cons i ids ih =>
    rcases all_cons_eq_error_iff.mp h with h | ⟨-, -, h⟩
    · exact ⟨i, List.mem_cons_self, h⟩
    · obtain ⟨id, hid, he⟩ := ih h
      exact ⟨id, List.mem_cons_of_mem _ hid, he⟩

end Walk

namespace Program

variable {p : Program} {path : List Nat} {context : HintContext} {id : Nat} {r : Routine}

theorem walk_of_mem (h : id ∈ path) :
    p.walk path context id = ⟨[], .error (path.dropWhile (· != id) ++ [id])⟩ := by
  rw [walk, dif_pos h]

theorem walk_of_none (h : id ∉ path) (hr : p.routines[id]? = none) :
    p.walk path context id = ⟨[], .ok 0⟩ := by
  rw [walk, dif_neg h]
  split
  · rfl
  · simp_all

theorem walk_of_some (h : id ∉ path) (hr : p.routines[id]? = some r) :
    p.walk path context id = Walk.enter ⟨⟨path.length, r.name, r.frame⟩, id, context⟩
      (Walk.all (p.walk (path ++ [id]) (p.contextBelow r context)) (p.calleesAt r context)) := by
  rw [walk, dif_neg h]
  split
  · simp_all
  · rename_i r' hr'
    obtain rfl : r' = r := Option.some.inj (hr'.symm.trans hr)
    rfl

/-- A routine that is called is on the path already, or it is not in the listing, or it is entered,
and then the walks below its callees follow a longer path. -/
@[elab_as_elim]
theorem walk_induction {motive : List Nat → HintContext → Nat → Prop}
    (met : ∀ path context id, id ∈ path → motive path context id)
    (absent : ∀ path context id, id ∉ path → p.routines[id]? = none → motive path context id)
    (entered : ∀ path context id r, id ∉ path → p.routines[id]? = some r →
      (∀ c, motive (path ++ [id]) (p.contextBelow r context) c) → motive path context id)
    (path : List Nat) (context : HintContext) (id : Nat) : motive path context id :=
  walk.induct p motive met absent
    (fun path context id h r hr _ ih ↦ entered path context id r h hr ih) path context id

theorem walk_eq_ok_iff {bytes : UInt64} (h : id ∉ path) (hr : p.routines[id]? = some r) :
    (p.walk path context id).outcome = .ok bytes ↔
      ∃ below, (Walk.all (p.walk (path ++ [id]) (p.contextBelow r context))
        (p.calleesAt r context)).outcome = .ok below ∧ clampedAdd r.frame below = bytes := by
  rw [walk_of_some h hr, Walk.enter]
  cases (Walk.all (p.walk (path ++ [id]) (p.contextBelow r context))
    (p.calleesAt r context)).outcome <;> simp [Except.map]

theorem walk_eq_error {cycle : List Nat} (h : id ∉ path) (hr : p.routines[id]? = some r)
    (hw : (p.walk path context id).outcome = .error cycle) : ∃ c ∈ p.calleesAt r context,
      (p.walk (path ++ [id]) (p.contextBelow r context) c).outcome = .error cycle := by
  apply Walk.exists_error_of_all_eq_error
  rw [walk_of_some h hr, Walk.enter] at hw
  cases hb : (Walk.all (p.walk (path ++ [id]) (p.contextBelow r context))
    (p.calleesAt r context)).outcome <;> simp_all [Except.map]

theorem measure_eq_ok_iff {entry : String} {m : Measurement} (hid : p.NamesOnly entry id) :
    p.measure entry = .ok m ↔ ∃ bytes, (p.walk [] (.root p.hints) id).outcome = .ok bytes ∧
      m = ⟨entry, bytes, (p.walk [] (.root p.hints) id).trace⟩ := by
  simp only [measure, evaluate, lookup_id?_eq_some_iff.mpr hid]
  cases (p.walk [] (.root p.hints) id).outcome <;> simp [eq_comm]

theorem measure_eq_error_iff {entry : String} {c : Cycle} (hid : p.NamesOnly entry id) :
    p.measure entry = .error c ↔ ∃ ids, (p.walk [] (.root p.hints) id).outcome = .error ids ∧
      c = ⟨ids.map p.nameOf⟩ := by
  simp only [measure, evaluate, lookup_id?_eq_some_iff.mpr hid]
  cases (p.walk [] (.root p.hints) id).outcome <;> simp [eq_comm]

theorem measure_of_not_namesOnly {entry : String} (h : ¬∃ id, p.NamesOnly entry id) :
    p.measure entry = .ok ⟨entry, 0, []⟩ := by
  simp only [measure, evaluate, lookup_id?_eq_none h]

end Program

theorem nodup_eraseDups {α : Type} [DecidableEq α] (xs : List α) : xs.eraseDups.Nodup := by
  match xs with
  | [] => exact List.nodup_nil
  | x :: xs =>
    rw [List.eraseDups_cons, List.nodup_cons]
    refine ⟨?_, nodup_eraseDups (xs.filter fun a ↦ !a == x)⟩
    simp [List.mem_eraseDups]
termination_by xs.length
decreasing_by exact Nat.lt_succ_of_le (List.length_filter_le _ xs)

/-- Where no two values go to one, repetitions can be dropped before the values are replaced. -/
theorem eraseDups_filterMap {α β : Type} [DecidableEq α] [DecidableEq β] {f : α → Option β}
    (hf : ∀ a b c, f a = some c → f b = some c → a = b) (xs : List α) :
    (xs.filterMap f).eraseDups = xs.eraseDups.filterMap f := by
  match xs with
  | [] => rfl
  | x :: xs =>
    have ih := eraseDups_filterMap hf (xs.filter fun a ↦ !a == x)
    rw [List.filterMap_filter] at ih
    rw [List.eraseDups_cons]
    cases hx : f x with
    | none =>
      rw [List.filterMap_cons_none hx, List.filterMap_cons_none hx, ← ih]
      congr 2
      funext a
      by_cases ha : a = x <;> simp [ha, hx]
    | some y =>
      rw [List.filterMap_cons_some hx, List.filterMap_cons_some hx, List.eraseDups_cons,
        List.filter_filterMap, ← ih]
      congr 3
      funext a
      by_cases ha : a = x
      · simp [ha, hx]
      · have hne (b : β) (hb : f a = some b) : b ≠ y := fun he ↦ ha (hf a x y (he ▸ hb) hx)
        cases hb : f a with
        | none => simp
        | some b => simp [ha, hne b hb]
termination_by xs.length
decreasing_by exact Nat.lt_succ_of_le (List.length_filter_le _ _)

namespace Routine

variable {rs : List Routine}

theorem indexAt?_eq_some_iff {address : UInt64} {i : Nat} : indexAt? rs address = some i ↔
    (∃ r, rs[i]? = some r ∧ r.entry = address) ∧
      ∀ j < i, ∀ s, rs[j]? = some s → s.entry ≠ address := by
  rw [indexAt?, List.findIdx?_eq_some_iff_getElem]
  constructor
  · rintro ⟨hi, hentry, hfirst⟩
    refine ⟨⟨rs[i], List.getElem?_eq_getElem hi, by simpa using hentry⟩, ?_⟩
    intro j hj s hs
    obtain ⟨hlt, rfl⟩ := List.getElem?_eq_some_iff.mp hs
    simpa using hfirst j hj
  · rintro ⟨⟨r, hr, hentry⟩, hfirst⟩
    obtain ⟨hi, rfl⟩ := List.getElem?_eq_some_iff.mp hr
    refine ⟨hi, by simpa using hentry, fun j hj ↦ ?_⟩
    simpa using hfirst j hj _ (List.getElem?_eq_getElem (Nat.lt_trans hj hi))

/-- The callees are the targets in the order of their first calls, each replaced by the routine
there. -/
theorem directCallees_indexAt? (rs : List Routine) (r : Routine) :
    r.directCallees (indexAt? rs) = r.targets.eraseDups.filterMap (indexAt? rs) := by
  refine eraseDups_filterMap (fun a b i ha hb ↦ ?_) r.targets
  obtain ⟨⟨s, hs, rfl⟩, -⟩ := indexAt?_eq_some_iff.mp ha
  obtain ⟨⟨t, ht, rfl⟩, -⟩ := indexAt?_eq_some_iff.mp hb
  rw [Option.some.inj (hs.symm.trans ht)]

end Routine

namespace Program

variable {p : Program} {context : HintContext} {id : Nat} {r : Routine}

theorem length_routines_analyze (routines : List Routine) (hints : List Chain) :
    ((analyze routines).withHints hints).routines.length = routines.length :=
  List.length_map _

theorem lt_length_of_mem_resolve {name : String} {c : Nat}
    (h : c ∈ (context.resolve p name).callees) : c < p.routines.length := by
  rw [HintContext.resolve] at h
  split at h
  · simp at h
  · obtain ⟨next, -, hnext⟩ := List.mem_filterMap.mp h
    exact (lookup_id?_eq_some_iff.mp hnext).lt_length

theorem calls_lt {s t : Site} (h : p.Calls s t) : t.id < p.routines.length := by
  cases h with
  | branch hr hc => exact p.callees_lt _ (List.mem_of_getElem? hr) _ hc
  | hint _ hc => exact lt_length_of_mem_resolve hc

theorem calleesAt_lt (hr : p.routines[id]? = some r) :
    ∀ c ∈ p.calleesAt r context, c < p.routines.length := fun c hc ↦
  calls_lt ((calls_iff_of_some hr).mpr ⟨c, hc, rfl⟩)

theorem route_lt {s : Site} {route : List Site} (h : p.Route s route)
    (hs : s.id < p.routines.length) : ∀ t ∈ route, t.id < p.routines.length := by
  induction h with
  | stop s => simpa using hs
  | call hcall _ ih =>
    intro u hu
    rcases List.mem_cons.mp hu with rfl | hu
    · exact hs
    · exact ih (calls_lt hcall) u hu

end Program

end StackDepth
