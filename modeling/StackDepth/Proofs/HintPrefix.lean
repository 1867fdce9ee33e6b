import StackDepth.Proofs.CallGraph
import Mathlib.Data.List.Infix

namespace StackDepth

/-- The names consumed after one more name: it counts where it continues a chain. -/
def consume (hints : List Chain) (done : List String) (name : String) : List String :=
  if ∃ chain ∈ hints, done ++ [name] <+: chain then done ++ [name] else done

def consumed (hints : List Chain) (names : List String) : List String :=
  names.foldl (consume hints) []

/-- The chains that some names begin and do not exhaust. -/
def extending (hints : List Chain) (done : List String) : List Chain :=
  hints.filter fun chain ↦ done <+: chain ∧ done ≠ chain

def leftovers (hints : List Chain) (done : List String) : List Chain :=
  hints.filterMap fun chain ↦ if done <+: chain then some (chain.drop done.length) else none

theorem leftovers_eq_nil_iff {hints : List Chain} {done : List String} :
    leftovers hints done = [] ↔ ¬∃ chain ∈ hints, done <+: chain := by
  simp [leftovers]

@[simp]
theorem leftovers_nil (hints : List Chain) : leftovers hints [] = hints := by
  simp [leftovers]

section Cons

variable {done rest : List String} {head name : String} {chain : Chain}

@[simp]
theorem leftovers_cons_append (hints : List Chain) :
    leftovers ((done ++ rest) :: hints) done = rest :: leftovers hints done := by
  simp [leftovers]

@[simp]
theorem leftovers_cons_of_not (h : ¬done <+: chain) (hints : List Chain) :
    leftovers (chain :: hints) done = leftovers hints done := by
  simp [leftovers, h]

@[simp]
theorem extending_cons_self (hints : List Chain) :
    extending (done :: hints) done = extending hints done := by
  simp [extending]

@[simp]
theorem extending_cons_append (hints : List Chain) :
    extending ((done ++ head :: rest) :: hints) done =
      (done ++ head :: rest) :: extending hints done := by
  simp [extending]

@[simp]
theorem extending_cons_of_not (h : ¬done <+: chain) (hints : List Chain) :
    extending (chain :: hints) done = extending hints done := by
  simp [extending, h]

end Cons

theorem filter_leftovers (hints : List Chain) (done : List String) :
    (leftovers hints done).filter (fun chain ↦ !chain.isEmpty) =
      (extending hints done).map (·.drop done.length) := by
  induction hints with
  | nil => rfl
  | cons chain hints ih =>
    by_cases h : done <+: chain
    · obtain ⟨rest, rfl⟩ := h
      rw [leftovers_cons_append]
      cases rest with
      | nil => simpa using ih
      | cons head rest => simpa using ih
    · simpa [h] using ih

theorem filterMap_head?_leftovers (hints : List Chain) (done : List String) :
    (leftovers hints done).filterMap List.head? =
      (extending hints done).filterMap fun chain ↦ chain[done.length]? := by
  induction hints with
  | nil => rfl
  | cons chain hints ih =>
    by_cases h : done <+: chain
    · obtain ⟨rest, rfl⟩ := h
      rw [leftovers_cons_append]
      cases rest with
      | nil => simpa [List.filterMap_cons] using ih
      | cons head rest => simpa [List.filterMap_cons] using ih
    · simpa [h] using ih

namespace HintContext

variable {p : Program}

def along (p : Program) (hints : List Chain) (names : List String) : HintContext :=
  names.foldl (fun context name ↦ (context.resolve p name).context) (.root hints)

@[simp]
theorem along_concat (p : Program) (hints : List Chain) (names : List String) (name : String) :
    along p hints (names ++ [name]) = ((along p hints names).resolve p name).context := by
  rw [along, List.foldl_append]
  rfl

@[simp]
theorem rests_root_nil_cons (chains : List Chain) (name : String) :
    (root ([] :: chains)).rests name = (root chains).rests name := rfl

@[simp]
theorem rests_root_cons_self (rest : Chain) (chains : List Chain) (name : String) :
    (root ((name :: rest) :: chains)).rests name = rest :: (root chains).rests name := by
  simp [root, rests, Chain.opened?]

@[simp]
theorem rests_root_cons_of_ne {head name : String} (h : head ≠ name) (rest : Chain)
    (chains : List Chain) :
    (root ((head :: rest) :: chains)).rests name = (root chains).rests name := by
  simp [root, rests, Chain.opened?, h]

theorem rests_root_leftovers (hints : List Chain) (done : List String) (name : String) :
    (root (leftovers hints done)).rests name = leftovers hints (done ++ [name]) := by
  induction hints with
  | nil => rfl
  | cons chain hints ih =>
    by_cases h : done <+: chain
    · obtain ⟨rest, rfl⟩ := h
      rw [leftovers_cons_append]
      cases rest with
      | nil =>
        -- a chain that `done` exhausts goes on with no name
        have hnot : ¬done ++ [name] <+: done ++ [] := by
          rw [List.prefix_append_right_inj]
          simp
        rw [rests_root_nil_cons, ih, leftovers_cons_of_not hnot]
      | cons head rest =>
        by_cases hn : head = name
        · subst hn
          rw [rests_root_cons_self, ih, List.append_cons done head rest, leftovers_cons_append]
        · have hnot : ¬done ++ [name] <+: done ++ head :: rest := by simp [Ne.symm hn]
          simp [hn, hnot, ih]
    · have hnot : ¬done ++ [name] <+: chain := fun hp ↦ h ((List.prefix_append _ _).trans hp)
      simp [h, hnot, ih]

theorem context_resolve_leftovers (hints : List Chain) (done : List String) (name : String) :
    ((root (leftovers hints done)).resolve p name).context =
      root (leftovers hints (consume hints done name)) := by
  rw [resolve, rests_root_leftovers, consume]
  by_cases h : ∃ chain ∈ hints, done ++ [name] <+: chain
  · have hne : (leftovers hints (done ++ [name])).isEmpty = false :=
      List.isEmpty_eq_false_iff.mpr fun hnil ↦ leftovers_eq_nil_iff.mp hnil h
    rw [if_pos h]
    simp [hne]
  · rw [if_neg h]
    simp [leftovers_eq_nil_iff.mpr h]

theorem callees_resolve_leftovers (hints : List Chain) (done : List String) (name : String) :
    ((root (leftovers hints done)).resolve p name).callees =
      if consume hints done name = done then []
      else (extending hints (consume hints done name)).filterMap fun chain ↦
        chain[(consume hints done name).length]?.bind p.hinted? := by
  rw [resolve, successors, rests_root_leftovers, filterMap_head?_leftovers, consume]
  by_cases h : ∃ chain ∈ hints, done ++ [name] <+: chain
  · have hne : (leftovers hints (done ++ [name])).isEmpty = false :=
      List.isEmpty_eq_false_iff.mpr fun hnil ↦ leftovers_eq_nil_iff.mp hnil h
    rw [if_pos h]
    simp [hne, List.filterMap_filterMap]
  · rw [if_neg h]
    simp [leftovers_eq_nil_iff.mpr h]

theorem along_eq_root_leftovers (hints : List Chain) (names : List String) :
    along p hints names = root (leftovers hints (consumed hints names)) := by
  induction names using List.reverseRecOn with
  | nil => simp [along, consumed]
  | append_singleton names name ih =>
    rw [along_concat, ih, context_resolve_leftovers, consumed, consumed, List.foldl_append,
      List.foldl_cons, List.foldl_nil]

/-- The contexts along a path are those of a prefix match: what counts after some names are the
rests of the chains that the consumed names begin, in the order of the hints. One more name adds
calls only where it is consumed: to the routines that these chains name next, where a name stands
for a single one. -/
theorem along_eq_prefix_match (p : Program) (hints : List Chain) (names : List String) :
    (along p hints names).chains =
      (extending hints (consumed hints names)).map (·.drop (consumed hints names).length) ∧
    (∀ name, ((along p hints names).resolve p name).callees =
      if consumed hints (names ++ [name]) = consumed hints names then []
      else (extending hints (consumed hints (names ++ [name]))).filterMap fun chain ↦
        chain[(consumed hints (names ++ [name])).length]?.bind p.hinted?) ∧
    ∀ name id, p.hinted? name = some id ↔ p.NamesOnly name id := by
  refine ⟨?_, fun name ↦ ?_, fun name id ↦ Program.lookup_id?_eq_some_iff⟩
  · rw [along_eq_root_leftovers, chains_root]
    exact filter_leftovers hints _
  · have hstep : consumed hints (names ++ [name]) = consume hints (consumed hints names) name := by
      rw [consumed, List.foldl_append, List.foldl_cons, List.foldl_nil, ← consumed]
    rw [along_eq_root_leftovers, hstep]
    exact callees_resolve_leftovers hints _ name

end HintContext

end StackDepth
