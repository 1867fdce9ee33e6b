import StackDepth.Plan
import StackDepth.Proofs.Recursion
import StackDepth.Proofs.WorstCase

namespace StackDepth

theorem IsClampedMax.unique {sizes : Set Nat} {a b : UInt64} (ha : IsClampedMax sizes a)
    (hb : IsClampedMax sizes b) : a = b := by
  obtain ⟨m, hm, ha⟩ := ha
  obtain ⟨n, hn, hb⟩ := hb
  obtain rfl : m = n := hm.unique hn
  exact UInt64.toNat_inj.mp (ha.trans hb.symm)

namespace HintContext

variable {p q : Program} {a b : HintContext} {name : String} {chain : Chain}

/-- The same chains count, in whatever order and however often. -/
def Alike (a b : HintContext) : Prop :=
  ∀ chain, chain ∈ a.chains ↔ chain ∈ b.chains

@[simp]
theorem mem_chains_root {hints : List Chain} :
    chain ∈ (root hints).chains ↔ chain ∈ hints ∧ chain ≠ [] := by
  simp [chains_root]

@[simp]
theorem mem_rests : chain ∈ a.rests name ↔ name :: chain ∈ a.chains := by
  simp [rests, chains, OpenChain.chain]

namespace Alike

theorem symm (h : a.Alike b) : b.Alike a := fun chain ↦ (h chain).symm

theorem root {hints hints' : List Chain}
    (h : ∀ chain, chain ≠ [] → (chain ∈ hints ↔ chain ∈ hints')) :
    (root hints).Alike (root hints') := by
  intro chain
  rw [mem_chains_root, mem_chains_root]
  exact and_congr_left (h chain)

theorem mem_rests_iff (h : a.Alike b) : chain ∈ a.rests name ↔ chain ∈ b.rests name := by
  rw [mem_rests, mem_rests, h]

theorem rests_eq_nil_iff (h : a.Alike b) : a.rests name = [] ↔ b.rests name = [] := by
  simp only [List.eq_nil_iff_forall_not_mem, h.mem_rests_iff]

theorem context_resolve (h : a.Alike b) :
    (a.resolve p name).context.Alike (b.resolve q name).context := by
  rw [resolve, resolve]
  by_cases hnil : a.rests name = []
  · simpa [hnil, h.rests_eq_nil_iff.mp hnil] using h
  · have hnil' : b.rests name ≠ [] := mt h.rests_eq_nil_iff.mpr hnil
    simpa [hnil, hnil'] using root fun chain _ ↦ h.mem_rests_iff

theorem mem_callees_resolve (h : a.Alike b) (hpq : p.hinted? = q.hinted?) {c : Nat} :
    c ∈ (a.resolve p name).callees ↔ c ∈ (b.resolve q name).callees := by
  have hsuccessor (next : String) : next ∈ a.successors name ↔ next ∈ b.successors name := by
    simp only [successors, List.mem_filterMap, h.mem_rests_iff]
  rw [resolve, resolve]
  by_cases hnil : a.rests name = []
  · simp [hnil, h.rests_eq_nil_iff.mp hnil]
  · have hnil' : b.rests name ≠ [] := mt h.rests_eq_nil_iff.mpr hnil
    simp [hnil, hnil', hsuccessor, hpq]

end Alike

end HintContext

namespace Program

variable {p q : Program} {id : Nat} {a b : HintContext} {entry : String}

theorem hinted?_congr (h : p.routines = q.routines) : p.hinted? = q.hinted? := by
  funext name
  rw [hinted?, hinted?, lookup, lookup, idsNamed, idsNamed, h]

theorem Calls.alike {s t : Site} (h : p.Calls s t) (hpq : p.routines = q.routines)
    (hb : s.context.Alike b) : ∃ b', q.Calls ⟨s.id, b⟩ ⟨t.id, b'⟩ ∧ t.context.Alike b' := by
  cases h with
  | branch hr hc => exact ⟨_, .branch (hpq ▸ hr) hc, hb.context_resolve⟩
  | hint hr hc =>
    exact ⟨_, .hint (hpq ▸ hr) ((hb.mem_callees_resolve (hinted?_congr hpq)).mp hc),
      hb.context_resolve⟩

theorem Route.alike {s : Site} {route : List Site} (h : p.Route s route)
    (hpq : p.routines = q.routines) (hb : s.context.Alike b) :
    ∃ route', q.Route ⟨s.id, b⟩ route' ∧ route'.map Site.id = route.map Site.id := by
  induction h generalizing b with
  | stop s => exact ⟨_, .stop _, rfl⟩
  | call hcall _ ih =>
    obtain ⟨b', hcall', hb'⟩ := hcall.alike hpq hb
    obtain ⟨route', hroute', hids⟩ := ih hb'
    exact ⟨_, .call hcall' hroute', congrArg (_ :: ·) hids⟩

theorem routeBytes_eq_foldr (route : List Site) :
    p.routeBytes route = (route.map Site.id).foldr (fun id n ↦ p.frameAt id + n) 0 := by
  induction route with
  | nil => rfl
  | cons s route ih => rw [routeBytes, ih, List.map_cons, List.foldr_cons]

theorem sizesFrom_subset (hpq : p.routines = q.routines) (hab : a.Alike b) :
    p.sizesFrom ⟨id, a⟩ ⊆ q.sizesFrom ⟨id, b⟩ := by
  rintro n ⟨route, hroute, rfl⟩
  obtain ⟨route', hroute', hids⟩ := hroute.alike hpq hab
  have hframe : q.frameAt = p.frameAt := by
    funext i
    rw [frameAt, frameAt, hpq]
  exact ⟨route', hroute', by rw [routeBytes_eq_foldr, routeBytes_eq_foldr, hids, hframe]⟩

theorem measure_eq_error_of_alike (hid : p.NamesOnly entry id) (hid' : q.NamesOnly entry id)
    (hpq : p.routines = q.routines) (hroot : (HintContext.root p.hints).Alike (.root q.hints))
    {c : Cycle} (h : p.measure entry = .error c) : ∃ c', q.measure entry = .error c' := by
  obtain ⟨before, loop, hroute, hloop, -⟩ := loop_of_measure_eq_error hid h
  obtain ⟨route', hroute', hids⟩ := hroute.alike hpq hroot
  refine measure_eq_error_of_route hid' hroute' fun hnodup ↦ hloop.not_nodup ?_
  rw [hids, List.map_append] at hnodup
  exact hnodup.of_append_right

/-- Both outcomes are failures, or both are measurements with the same bytes. -/
inductive SameBytes : Except Cycle Measurement → Except Cycle Measurement → Prop
  | fails (c c' : Cycle) : SameBytes (.error c) (.error c')
  | succeeds {m m' : Measurement} : m.bytes = m'.bytes → SameBytes (.ok m) (.ok m')

theorem sameBytes_of_alike (hpq : p.routines = q.routines)
    (hroot : (HintContext.root p.hints).Alike (.root q.hints)) (entry : String) :
    SameBytes (p.measure entry) (q.measure entry) := by
  have hnames (id : Nat) : p.NamesOnly entry id ↔ q.NamesOnly entry id := by
    rw [NamesOnly, NamesOnly]
    simp only [Names, hpq]
  by_cases hid : ∃ id, p.NamesOnly entry id
  · obtain ⟨id, hid⟩ := hid
    have hid' : q.NamesOnly entry id := (hnames id).mp hid
    cases hp : p.measure entry with
    | error c =>
      obtain ⟨c', hq⟩ := measure_eq_error_of_alike hid hid' hpq hroot hp
      exact hq ▸ .fails c c'
    | ok m =>
      cases hq : q.measure entry with
      | error c' =>
        obtain ⟨c, hc⟩ := measure_eq_error_of_alike hid' hid hpq.symm hroot.symm hq
        rw [hp] at hc
        cases hc
      | ok m' =>
        obtain ⟨bytes, hbytes, rfl⟩ := (measure_eq_ok_iff hid).mp hp
        obtain ⟨bytes', hbytes', rfl⟩ := (measure_eq_ok_iff hid').mp hq
        have hsizes : p.sizesFrom ⟨id, .root p.hints⟩ = q.sizesFrom ⟨id, .root q.hints⟩ :=
          (sizesFrom_subset hpq hroot).antisymm (sizesFrom_subset hpq.symm hroot.symm)
        have hmax := walk_isClampedMax [] _ id bytes hbytes
        rw [hsizes] at hmax
        exact .succeeds (hmax.unique (walk_isClampedMax [] _ id bytes' hbytes'))
  · have hid' : ¬∃ id, q.NamesOnly entry id := by simpa only [hnames] using hid
    rw [measure_of_not_namesOnly hid, measure_of_not_namesOnly hid']
    exact .succeeds rfl

/-- Only the set of the hints matters: hints with the same chains, whatever their order and number
and whatever chains without a name are among them, fail on the same entries and give the same bytes
for all others. So a plan that is applied twice measures what it measures when it is applied once. -/
theorem measure_same_hint_set (routines : List Routine) (hints hints' : List Chain)
    (h : ∀ chain, chain ≠ [] → (chain ∈ hints ↔ chain ∈ hints')) (entry : String) :
    let p := (analyze routines).withHints hints
    SameBytes (p.measure entry) (((analyze routines).withHints hints').measure entry) ∧
    ∀ plan : Plan, SameBytes ((plan.applyHints (plan.applyHints p)).measure entry)
      ((plan.applyHints p).measure entry) := by
  intro p
  refine ⟨sameBytes_of_alike (by rfl) (.root h) entry, fun plan ↦ ?_⟩
  refine sameBytes_of_alike (by rfl) (.root fun chain _ ↦ ?_) entry
  simp only [Plan.applyHints, hints_withHints, List.mem_append, or_assoc, or_self]

def handlersListing : List Routine :=
  [.ofKinds "main" 0x8000 [.stackAdjust 16, .indirectBranch],
    .ofKinds "small" 0x8010 [.stackAdjust 8],
    .ofKinds "large" 0x8020 [.stackAdjust 64]]

theorem handlersListing_same_hint_set :
    let hints : List Chain := [["main", "small"], ["main", "large"], ["large", "main", "large"]]
    let hints' : List Chain :=
      [["large", "main", "large"], [], ["main", "large"], ["main", "small"], ["main", "large"]]
    let p := (analyze handlersListing).withHints hints
    let q := (analyze handlersListing).withHints hints'
    (∀ chain, chain ≠ [] → (chain ∈ hints ↔ chain ∈ hints')) ∧
    p.measure "main" = .ok ⟨"main", 80, [⟨0, "main", 16⟩, ⟨1, "small", 8⟩, ⟨1, "large", 64⟩]⟩ ∧
    SameBytes (p.measure "main") (q.measure "main") ∧
    q.measure "main" ≠ p.measure "main" ∧
    p.measure "large" = .error ⟨["large", "main", "large"]⟩ ∧
    SameBytes (p.measure "large") (q.measure "large") := by
  intro hints hints' p q
  have h : ∀ chain, chain ≠ [] → (chain ∈ hints ↔ chain ∈ hints') := by
    intro chain hne
    simp only [hints, hints', List.mem_cons, hne, List.not_mem_nil]
    tauto
  exact ⟨h, by decide +kernel, (measure_same_hint_set handlersListing hints hints' h "main").1,
    by decide +kernel, by decide +kernel,
    (measure_same_hint_set handlersListing hints hints' h "large").1⟩

end Program

end StackDepth
