import StackDepth.Proofs.ListingOrder
import Mathlib.Data.List.Forall2

namespace StackDepth

theorem exists_getElem?_of_forall₂ {α β : Type} {R : α → β → Prop} {xs : List α} {ys : List β}
    (h : List.Forall₂ R xs ys) {i : Nat} {x : α} (hx : xs[i]? = some x) :
    ∃ y, ys[i]? = some y ∧ R x y := by
  obtain ⟨hi, rfl⟩ := List.getElem?_eq_some_iff.mp hx
  have hi' : i < ys.length := h.length_eq ▸ hi
  exact ⟨ys[i], List.getElem?_eq_getElem hi', h.get hi hi'⟩

def Kind.isRead : Kind → Bool
  | .stackAdjust _ | .branch _ => true
  | .indirectBranch | .other => false

namespace Routine

def readKinds (r : Routine) : List Kind :=
  (r.body.map (·.kind)).filter Kind.isRead

/-- Two routines of which analysis reads the same. -/
structure ReadsSame (r s : Routine) : Prop where
  name : s.name = r.name
  entry : s.entry = r.entry
  kinds : s.readKinds = r.readKinds

theorem filterMap_body_eq {β : Type} {f : Kind → Option β} (hindirect : f .indirectBranch = none)
    (hother : f .other = none) (r : Routine) :
    r.body.filterMap (fun i ↦ f i.kind) = r.readKinds.filterMap f := by
  rw [readKinds, List.filterMap_filter, List.filterMap_map]
  congr 1
  funext i
  cases hi : i.kind with
  | stackAdjust _ | branch _ => simp [hi, Kind.isRead]
  | indirectBranch | other => simp [hi, Kind.isRead, hindirect, hother]

theorem reserved_eq_readKinds (r : Routine) :
    r.reserved = (r.readKinds.filterMap Kind.reserved?).getLast?.getD 0 := by
  rw [reserved, filterMap_body_eq rfl rfl]

theorem targets_eq_readKinds (r : Routine) : r.targets = r.readKinds.filterMap Kind.target? := by
  rw [targets, filterMap_body_eq rfl rfl]

section Listing

variable {rs ss : List Routine}

theorem indexAt?_eq_of_forall₂ (h : List.Forall₂ ReadsSame rs ss) : indexAt? ss = indexAt? rs := by
  have hentry : ss.map entry = rs.map entry := by
    induction h with
    | nil => rfl
    | cons hrs _ ih => rw [List.map_cons, List.map_cons, hrs.entry, ih]
  have hmap (rs : List Routine) (address : UInt64) :
      indexAt? rs address = (rs.map entry).findIdx? (· == address) := by
    rw [List.findIdx?_map]
    rfl
  funext address
  rw [hmap, hmap, hentry]

theorem mirrors_analyze_of_forall₂ (h : List.Forall₂ ReadsSame rs ss) (hints : List Chain) :
    Program.Mirrors (Equiv.refl Nat) ((Program.analyze rs).withHints hints)
      ((Program.analyze ss).withHints hints) where
  hints := rfl
  absent hr := by
    rw [List.getElem?_eq_none_iff, Program.length_routines_analyze] at hr ⊢
    exact h.length_eq ▸ hr
  entered hf := by
    obtain ⟨r, hr, rfl⟩ := Option.map_eq_some_iff.mp (List.getElem?_map.symm.trans hf)
    obtain ⟨s, hs, hrs⟩ := exists_getElem?_of_forall₂ h hr
    refine ⟨_, List.getElem?_map.trans (congrArg (Option.map _) hs), hrs.name, ?_, ?_⟩
    · change s.reserved = r.reserved
      rw [reserved_eq_readKinds, hrs.kinds, ← reserved_eq_readKinds]
    · change s.directCallees (indexAt? ss) = (r.directCallees (indexAt? rs)).map id
      rw [List.map_id, directCallees, targets_eq_readKinds, hrs.kinds, ← targets_eq_readKinds,
        indexAt?_eq_of_forall₂ h, ← directCallees]

end Listing

end Routine

namespace Program

/-- A measurement depends on names, entry addresses and the kinds of stack adjustments and literal
branches only. Listings that agree in these, routine by routine, give the same measurement or the
same cycle, whatever their instructions are otherwise and whatever the routines say of their frames
and callees. So analysing the routines of a program again changes no measurement. -/
theorem measure_reads_names_entries_kinds (rs ss : List Routine)
    (h : List.Forall₂ Routine.ReadsSame rs ss) (hints : List Chain) (entry : String) :
    let p := (analyze rs).withHints hints
    ((analyze ss).withHints hints).measure entry = p.measure entry ∧
    ((analyze p.routines).withHints p.hints).measure entry = p.measure entry := by
  intro p
  have hagain : List.Forall₂ Routine.ReadsSame rs p.routines :=
    List.forall₂_map_right_iff.mpr (List.forall₂_same.mpr fun _ _ ↦ ⟨rfl, rfl, rfl⟩)
  constructor
  · exact (Routine.mirrors_analyze_of_forall₂ h hints).measure_eq entry
  · exact (Routine.mirrors_analyze_of_forall₂ hagain hints).measure_eq entry

def printedListing : List Routine :=
  [⟨"main", 0x8000, [⟨0x8000, "b084", "sub", "sp, #16", "", .stackAdjust 16⟩,
      ⟨0x8002, "f000 f805", "bl", "8010 <work>", "", .branch 0x8010⟩,
      ⟨0x8006, "4798", "blx", "r3", "", .indirectBranch⟩], 0, []⟩,
    ⟨"work", 0x8010, [⟨0x8010, "b082", "sub", "sp, #8", "", .stackAdjust 8⟩,
      ⟨0x8012, "bf00", "nop", "", "", .other⟩], 0, []⟩,
    ⟨"spin", 0x8020, [⟨0x8020, "e7fe", "b.n", "8020 <spin>", "wait", .branch 0x8020⟩], 0, []⟩]

def barePrintedListing : List Routine :=
  [⟨"main", 0x8000, [.bare 0 (.stackAdjust 16), .bare 0 (.branch 0x8010)], 7, [2, 9]⟩,
    ⟨"work", 0x8010, [.bare 0 (.stackAdjust 8)], 1, [0]⟩,
    .ofKinds "spin" 0x8020 [.branch 0x8020]]

theorem barePrintedListing_measure :
    let hints : List Chain := [["main", "work"]]
    let p := (analyze printedListing).withHints hints
    let q := (analyze barePrintedListing).withHints hints
    let m : Measurement := ⟨"main", 24, [⟨0, "main", 16⟩, ⟨1, "work", 8⟩, ⟨1, "work", 8⟩]⟩
    List.Forall₂ Routine.ReadsSame printedListing barePrintedListing ∧
    p.measure "main" = .ok m ∧ q.measure "main" = p.measure "main" ∧
    ((analyze p.routines).withHints p.hints).measure "main" = p.measure "main" ∧
    p.measure "spin" = .error ⟨["spin", "spin"]⟩ ∧ q.measure "spin" = p.measure "spin" := by
  intro hints p q m
  have h : List.Forall₂ Routine.ReadsSame printedListing barePrintedListing :=
    .cons ⟨rfl, rfl, rfl⟩ (.cons ⟨rfl, rfl, rfl⟩ (.cons ⟨rfl, rfl, rfl⟩ .nil))
  obtain ⟨hmain, hagain⟩ :=
    measure_reads_names_entries_kinds printedListing barePrintedListing h hints "main"
  obtain ⟨hspin, -⟩ :=
    measure_reads_names_entries_kinds printedListing barePrintedListing h hints "spin"
  exact ⟨h, by decide +kernel, hmain, hagain, by decide +kernel, hspin⟩

end Program

end StackDepth
