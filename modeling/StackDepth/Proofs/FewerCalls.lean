import StackDepth.Proofs.CallForest

namespace StackDepth

namespace CallForest

inductive Pruned : CallForest → CallForest → Prop
  | nil : Pruned .nil .nil
  | cut {s : Site} {r : Routine} {f below beside : CallForest} :
      Pruned f beside → Pruned f (.node s r below beside)
  | keep {s s' : Site} {r r' : Routine} {below below' beside beside' : CallForest} :
      s.id = s'.id → r.name = r'.name → r.frame = r'.frame →
      Pruned below below' → Pruned beside beside' →
      Pruned (.node s r below beside) (.node s' r' below' beside')

namespace Pruned

variable {f g : CallForest}

theorem fresh (h : f.Pruned g) {path : List Nat} (hg : g.Fresh path) : f.Fresh path := by
  induction h generalizing path with
  | nil => trivial
  | cut _ ih => exact ih hg.2.2
  | keep hid _ _ _ _ ihBelow ihBeside =>
    obtain ⟨hmem, hbelow, hbeside⟩ := hg
    rw [← hid] at hmem hbelow
    exact ⟨hmem, ihBelow hbelow, ihBeside hbeside⟩

theorem height_le (h : f.Pruned g) : f.height ≤ g.height := by
  induction h with
  | nil => exact Nat.le_refl _
  | cut _ ih => exact Nat.le_trans ih (Nat.le_max_right _ _)
  | keep _ _ hframe _ _ ihBelow ihBeside =>
    rw [height, height, hframe]
    omega

theorem bytes_le (h : f.Pruned g) : f.bytes ≤ g.bytes := by
  have hle := h.height_le
  rw [UInt64.le_iff_toNat_le, toNat_bytes, toNat_bytes]
  omega

theorem trace_sublist (h : f.Pruned g) (depth : Nat) : (f.trace depth).Sublist (g.trace depth) := by
  induction h generalizing depth with
  | nil => exact .refl _
  | cut _ ih =>
    rw [trace_node]
    exact ((ih depth).trans (List.sublist_append_right _ _)).cons _
  | keep _ hname hframe _ _ ihBelow ihBeside =>
    rw [trace_node, trace_node, hname, hframe]
    exact ((ihBelow (depth + 1)).append (ihBeside depth)).cons_cons _

end Pruned

end CallForest

namespace Program

variable {p q : Program} {R : HintContext → HintContext → Prop}

/-- The calls of `p` are among those of `q`, in the same order, as long as the hints that count in
the two programs are related. -/
structure CallsLess (R : HintContext → HintContext → Prop) (p q : Program) : Prop where
  root : R (.root p.hints) (.root q.hints)
  entered {id : Nat} {r : Routine} {context context' : HintContext} :
    p.routines[id]? = some r → R context context' →
    ∃ r', q.routines[id]? = some r' ∧ r.name = r'.name ∧ r.frame = r'.frame ∧
      (p.calleesAt r context).Sublist (q.calleesAt r' context') ∧
      R (p.contextBelow r context) (q.contextBelow r' context')

namespace CallsLess

theorem exists_pruned (h : CallsLess R p q) {context context' : HintContext} {ids ids' : List Nat}
    {g : CallForest} (hg : q.Unfolds context' ids' g) (hR : R context context')
    (hsub : ids.Sublist ids') (hids : ∀ i ∈ ids, i < p.routines.length) :
    ∃ f, p.Unfolds context ids f ∧ f.Pruned g := by
  induction hg generalizing context ids with
  | nil context' =>
    obtain rfl := List.sublist_nil.mp hsub
    exact ⟨.nil, .nil context, .nil⟩
  | @node context' id ids' r' below' beside' hr' _ _ ihBelow ihBeside =>
    cases hsub with
    | cons _ hsub =>
      -- a call of `q` alone
      obtain ⟨f, hf, hpruned⟩ := ihBeside hR hsub hids
      exact ⟨f, hf, .cut hpruned⟩
    | @cons_cons ids _ _ hsub =>
      obtain ⟨r, hr⟩ : ∃ r, p.routines[id]? = some r :=
        ⟨_, List.getElem?_eq_getElem (hids id List.mem_cons_self)⟩
      obtain ⟨r₁, hr₁, hname, hframe, hcallees, hbelowR⟩ := h.entered hr hR
      obtain rfl : r₁ = r' := Option.some.inj (hr₁.symm.trans hr')
      obtain ⟨below, hbelow, hpruned⟩ := ihBelow hbelowR hcallees (calleesAt_lt hr)
      obtain ⟨beside, hbeside, hpruned'⟩ :=
        ihBeside hR hsub fun i hi ↦ hids i (List.mem_cons_of_mem _ hi)
      exact ⟨_, .node hr hbelow hbeside, .keep rfl hname hframe hpruned hpruned'⟩

theorem measure_of_ok (h : CallsLess R p q) {entry : String}
    (hentry : ∀ id, p.NamesOnly entry id ↔ q.NamesOnly entry id) {m : Measurement}
    (hm : q.measure entry = .ok m) : ∃ m₀, p.measure entry = .ok m₀ ∧
      m₀.bytes ≤ m.bytes ∧ m₀.trace.Sublist m.trace := by
  by_cases hid : ∃ id, q.NamesOnly entry id
  · obtain ⟨id, hid⟩ := hid
    have hid₀ : p.NamesOnly entry id := (hentry id).mpr hid
    obtain ⟨g, hg, hfresh, rfl⟩ := (measure_eq_ok_iff_exists_unfolds hid).mp hm
    obtain ⟨f, hf, hpruned⟩ := h.exists_pruned hg h.root (.refl [id])
      (by simpa using hid₀.lt_length)
    refine ⟨⟨entry, f.bytes, f.trace 0⟩, ?_, hpruned.bytes_le, hpruned.trace_sublist 0⟩
    exact (measure_eq_ok_iff_exists_unfolds hid₀).mpr ⟨f, hf, hpruned.fresh hfresh, rfl⟩
  · have hid₀ : ¬∃ id, p.NamesOnly entry id := by simpa [hentry] using hid
    obtain rfl : ⟨entry, 0, []⟩ = m := Except.ok.inj ((measure_of_not_namesOnly hid).symm.trans hm)
    exact ⟨_, measure_of_not_namesOnly hid₀, UInt64.le_refl _, .refl _⟩

theorem measure_of_error (h : CallsLess R p q) {entry : String}
    (hentry : ∀ id, p.NamesOnly entry id ↔ q.NamesOnly entry id) {c : Cycle}
    (hc : p.measure entry = .error c) : ∃ c', q.measure entry = .error c' := by
  cases hm : q.measure entry with
  | error c' => exact ⟨c', rfl⟩
  | ok m =>
    obtain ⟨m₀, hm₀, -⟩ := h.measure_of_ok hentry hm
    rw [hc] at hm₀
    cases hm₀

end CallsLess

theorem callsLess_withHints (routines : List Routine) (hints : List Chain) :
    CallsLess (fun context _ ↦ context = .root []) (analyze routines)
      ((analyze routines).withHints hints) where
  root := rfl
  entered {id r context context'} hr hR := by
    subst hR
    refine ⟨r, hr, rfl, rfl, ?_, rfl⟩
    rw [calleesAt, resolve_root_nil, List.append_nil]
    exact List.sublist_append_left _ _

/-- Hints only add to what is walked without them. Where a measurement fails without hints it fails
with any hints, and where it succeeds with hints it succeeds without, with no more bytes and with a
part of the trace. -/
theorem measure_without_hints (routines : List Routine) (hints : List Chain) (entry : String) :
    let p := analyze routines
    let q := p.withHints hints
    ((∃ c, p.measure entry = .error c) → ∃ c, q.measure entry = .error c) ∧
    ∀ m, q.measure entry = .ok m → ∃ m₀, p.measure entry = .ok m₀ ∧
      m₀.bytes ≤ m.bytes ∧ m₀.trace.Sublist m.trace := by
  intro p q
  have hless := callsLess_withHints routines hints
  have hnames (id : Nat) : p.NamesOnly entry id ↔ q.NamesOnly entry id := .rfl
  constructor
  · intro ⟨c, hc⟩
    exact hless.measure_of_error hnames hc
  · intro m hm
    exact hless.measure_of_ok hnames hm

def callbackListing : List Routine :=
  [.ofKinds "main" 0x8000 [.stackAdjust 16, .branch 0x8010],
    .ofKinds "driver" 0x8010 [.stackAdjust 8, .indirectBranch],
    .ofKinds "handler" 0x8020 [.stackAdjust 32],
    .ofKinds "again" 0x8030 [.branch 0x8030]]

theorem callbackListing_without_hints :
    let p := analyze callbackListing
    let q := p.withHints [["main", "driver", "handler"]]
    let m₀ : Measurement := ⟨"main", 24, [⟨0, "main", 16⟩, ⟨1, "driver", 8⟩]⟩
    let m : Measurement := ⟨"main", 56, [⟨0, "main", 16⟩, ⟨1, "driver", 8⟩, ⟨2, "handler", 32⟩,
      ⟨1, "driver", 8⟩, ⟨2, "handler", 32⟩]⟩
    p.measure "again" = .error ⟨["again", "again"]⟩ ∧ (∃ c, q.measure "again" = .error c) ∧
    q.measure "main" = .ok m ∧ p.measure "main" = .ok m₀ ∧ m₀.bytes ≤ m.bytes ∧
      m₀.trace.Sublist m.trace := by
  intro p q m₀ m
  have hagain : p.measure "again" = .error ⟨["again", "again"]⟩ := by decide +kernel
  have hm : q.measure "main" = .ok m := by decide +kernel
  have hm₀ : p.measure "main" = .ok m₀ := by decide +kernel
  have hfails := (measure_without_hints callbackListing [["main", "driver", "handler"]]
    "again").1 ⟨_, hagain⟩
  obtain ⟨m₁, hm₁, hbytes, htrace⟩ := (measure_without_hints callbackListing
    [["main", "driver", "handler"]] "main").2 m hm
  obtain rfl : m₁ = m₀ := Except.ok.inj (hm₁.symm.trans hm₀)
  exact ⟨hagain, hfails, hm, hm₀, hbytes, htrace⟩

end Program

end StackDepth
