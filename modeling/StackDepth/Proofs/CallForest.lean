import StackDepth.Proofs.CallGraph

namespace StackDepth

@[simp]
theorem Walk.all_singleton (walk : Nat → Walk) (id : Nat) : all walk [id] = walk id := by
  rw [all, all]
  rcases walk id with ⟨visits, cycle | bytes⟩
  · rfl
  · have hmax : max bytes 0 = bytes := by
      rw [← UInt64.toNat_inj, UInt64.toNat_max]
      exact Nat.max_zero _
    simp [Except.map, hmax]

/-- Trees of calls side by side: the root of the first one, the trees of what is called there, and
the trees beside it. -/
inductive CallForest where
  | nil
  | node (site : Site) (r : Routine) (below beside : CallForest)

namespace CallForest

def visits (depth : Nat) : CallForest → List Visit
  | nil => []
  | node s r below beside =>
    ⟨⟨depth, r.name, r.frame⟩, s.id, s.context⟩ :: (below.visits (depth + 1) ++ beside.visits depth)

def trace (depth : Nat) (f : CallForest) : List TraceStep :=
  (f.visits depth).map (·.toTraceStep)

@[simp]
theorem trace_nil (depth : Nat) : nil.trace depth = [] := rfl

@[simp]
theorem trace_node (depth : Nat) (s : Site) (r : Routine) (below beside : CallForest) :
    (node s r below beside).trace depth =
      ⟨depth, r.name, r.frame⟩ :: (below.trace (depth + 1) ++ beside.trace depth) := by
  simp [trace, visits]

/-- The bytes of the worst branch, clamped at every call. -/
def bytes : CallForest → UInt64
  | nil => 0
  | node _ r below beside => max (clampedAdd r.frame below.bytes) beside.bytes

def height : CallForest → Nat
  | nil => 0
  | node _ r below beside => max (r.frame.toNat + below.height) beside.height

theorem toNat_bytes (f : CallForest) : f.bytes.toNat = min (UInt64.size - 1) f.height := by
  induction f with
  | nil => rfl
  | node s r below beside ihBelow ihBeside =>
    rw [bytes, height, UInt64.toNat_max, toNat_clampedAdd, ihBelow, ihBeside]
    omega

def Fresh (path : List Nat) : CallForest → Prop
  | nil => True
  | node s _ below beside => s.id ∉ path ∧ below.Fresh (path ++ [s.id]) ∧ beside.Fresh path

end CallForest

namespace Program

variable {p : Program} {path ids : List Nat} {context : HintContext} {id : Nat} {f : CallForest}

/-- The trees of the routines that are called one after another. Below a routine its own branches
come first and then the hinted calls. -/
inductive Unfolds (p : Program) : HintContext → List Nat → CallForest → Prop
  | nil (context : HintContext) : Unfolds p context [] .nil
  | node {context : HintContext} {id : Nat} {ids : List Nat} {r : Routine}
      {below beside : CallForest} :
      p.routines[id]? = some r →
      Unfolds p (context.resolve p r.name).context
        (r.callees ++ (context.resolve p r.name).callees) below →
      Unfolds p context ids beside →
      Unfolds p context (id :: ids) (.node ⟨id, context⟩ r below beside)

theorem Unfolds.all_walk_eq (h : p.Unfolds context ids f) (hf : f.Fresh path) :
    Walk.all (p.walk path context) ids = ⟨f.visits path.length, .ok f.bytes⟩ := by
  induction h generalizing path with
  | nil context => rfl
  | @node context id ids r below beside hr _ _ ihBelow ihBeside =>
    obtain ⟨hid, hbelow, hbeside⟩ := hf
    -- `id` goes onto the path, so the trees below it are one deeper
    have hw : p.walk path context id = ⟨⟨⟨path.length, r.name, r.frame⟩, id, context⟩ ::
        below.visits (path.length + 1), .ok (clampedAdd r.frame below.bytes)⟩ := by
      rw [walk_of_some hid hr, contextBelow, calleesAt, ihBelow hbelow, List.length_append]
      rfl
    rw [Walk.all, hw, ihBeside hbeside]
    rfl

theorem Unfolds.walk_eq (h : p.Unfolds context [id] f) (hf : f.Fresh path) :
    p.walk path context id = ⟨f.visits path.length, .ok f.bytes⟩ :=
  (Walk.all_singleton _ _).symm.trans (h.all_walk_eq hf)

theorem exists_unfolds_of_forall (h : ∀ id ∈ ids, ∃ f, p.Unfolds context [id] f ∧ f.Fresh path) :
    ∃ f, p.Unfolds context ids f ∧ f.Fresh path := by
  induction ids with
  | nil => exact ⟨.nil, .nil context, trivial⟩
  | cons id ids ih =>
    obtain ⟨f, hf, hfresh⟩ := h id List.mem_cons_self
    obtain ⟨beside, hbeside, hbesideFresh⟩ := ih fun i hi ↦ h i (List.mem_cons_of_mem _ hi)
    -- the tree of `id` stands alone in `f`, so the other trees take the empty place beside it
    cases hf with
    | node hr hbelow _ =>
      exact ⟨_, .node hr hbelow hbeside, hfresh.1, hfresh.2.1, hbesideFresh⟩

theorem exists_unfolds_of_walk_eq_ok (path : List Nat) (context : HintContext) (id : Nat) :
    id < p.routines.length → ∀ bytes, (p.walk path context id).outcome = .ok bytes →
      ∃ f, p.Unfolds context [id] f ∧ f.Fresh path := by
  induction path, context, id using walk_induction (p := p) with
  | met path context id hmem =>
    intro _ bytes h
    rw [walk_of_mem hmem] at h
    cases h
  | absent path context id hpath hr =>
    intro hid
    simp [List.getElem?_eq_getElem hid] at hr
  | entered path context id r hpath hr ih =>
    intro _ bytes h
    obtain ⟨_, hall, -⟩ := (walk_eq_ok_iff hpath hr).mp h
    obtain ⟨below, hbelow, hfresh⟩ : ∃ below, p.Unfolds (p.contextBelow r context)
        (p.calleesAt r context) below ∧ below.Fresh (path ++ [id]) := by
      refine exists_unfolds_of_forall fun c hc ↦ ?_
      obtain ⟨b, hb⟩ := Walk.exists_ok_of_all_eq_ok hall c hc
      exact ih c (calleesAt_lt hr c hc) b hb
    exact ⟨_, .node hr hbelow (.nil context), hpath, hfresh, trivial⟩

theorem walk_eq_ok_iff_exists_unfolds (hid : id < p.routines.length) :
    (∃ bytes, (p.walk path context id).outcome = .ok bytes) ↔
      ∃ f, p.Unfolds context [id] f ∧ f.Fresh path := by
  constructor
  · rintro ⟨bytes, h⟩
    exact exists_unfolds_of_walk_eq_ok path context id hid bytes h
  · rintro ⟨f, hf, hfresh⟩
    exact ⟨f.bytes, by rw [hf.walk_eq hfresh]⟩

theorem measure_eq_ok_iff_exists_unfolds {entry : String} (hid : p.NamesOnly entry id)
    {m : Measurement} : p.measure entry = .ok m ↔
      ∃ f, p.Unfolds (.root p.hints) [id] f ∧ f.Fresh [] ∧ m = ⟨entry, f.bytes, f.trace 0⟩ := by
  rw [measure_eq_ok_iff hid]
  constructor
  · rintro ⟨bytes, hbytes, rfl⟩
    obtain ⟨f, hf, hfresh⟩ := exists_unfolds_of_walk_eq_ok [] _ id hid.lt_length bytes hbytes
    rw [hf.walk_eq hfresh] at hbytes ⊢
    obtain rfl := Except.ok.inj hbytes
    exact ⟨f, hf, hfresh, rfl⟩
  · rintro ⟨f, hf, hfresh, rfl⟩
    rw [hf.walk_eq hfresh]
    exact ⟨f.bytes, rfl, rfl⟩

end Program

end StackDepth
