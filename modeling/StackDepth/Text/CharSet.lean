import StackDepth.Text.Word

namespace StackDepth.Text

namespace CharSet

/-- Runs from first to last code points that stand in increasing order and do not touch. -/
def Apart (runs : List (Nat × Nat)) : Prop :=
  (∀ r ∈ runs, r.1 ≤ r.2) ∧ runs.Pairwise fun r t ↦ r.2 + 1 < t.1

instance (runs : List (Nat × Nat)) : Decidable (Apart runs) :=
  inferInstanceAs (Decidable (_ ∧ _))

theorem Apart.tail {r : Nat × Nat} {rs : List (Nat × Nat)} (h : Apart (r :: rs)) : Apart rs :=
  ⟨fun t ht ↦ h.1 t (List.mem_cons_of_mem r ht), h.2.tail⟩

theorem Apart.head_lt {r : Nat × Nat} {rs : List (Nat × Nat)} (h : Apart (r :: rs)) :
    ∀ t ∈ rs, r.2 + 1 < t.1 :=
  (List.pairwise_cons.mp h.2).1

theorem Apart.cons {r : Nat × Nat} {rs : List (Nat × Nat)} (h : Apart rs) (hr : r.1 ≤ r.2)
    (hlt : ∀ t ∈ rs, r.2 + 1 < t.1) : Apart (r :: rs) :=
  ⟨List.forall_mem_cons.mpr ⟨hr, h.1⟩, List.pairwise_cons.mpr ⟨hlt, h.2⟩⟩

/-- Joins a run with those after it that touch it or lie in it. -/
def joinRuns (r : Nat × Nat) : List (Nat × Nat) → List (Nat × Nat)
  | [] => [r]
  | t :: ts =>
    if t.1 ≤ r.2 + 1 then joinRuns (r.1, max r.2 t.2) ts
    else r :: joinRuns t ts

theorem le_of_mem_joinRuns {r x : Nat × Nat} {ts : List (Nat × Nat)}
    (h : (r :: ts).Pairwise fun a b ↦ a.1 ≤ b.1) (hx : x ∈ joinRuns r ts) : r.1 ≤ x.1 := by
  induction ts generalizing r with
  | nil => simp_all [joinRuns]
  | cons t ts ih =>
    obtain ⟨hr, hts⟩ := List.pairwise_cons.mp h
    rw [joinRuns] at hx
    split at hx
    · exact ih (r := (r.1, max r.2 t.2)) (.cons (fun u hu ↦ hr u (List.mem_cons_of_mem t hu))
        hts.tail) hx
    · rcases List.mem_cons.mp hx with rfl | hx
      · exact Nat.le_refl _
      · exact Nat.le_trans (hr t List.mem_cons_self) (ih hts hx)

theorem apart_joinRuns {r : Nat × Nat} {ts : List (Nat × Nat)} (hle : ∀ t ∈ r :: ts, t.1 ≤ t.2)
    (h : (r :: ts).Pairwise fun a b ↦ a.1 ≤ b.1) : Apart (joinRuns r ts) := by
  induction ts generalizing r with
  | nil => simp_all [joinRuns, Apart]
  | cons t ts ih =>
    obtain ⟨hr, hts⟩ := List.pairwise_cons.mp h
    obtain ⟨hle, hles⟩ := List.forall_mem_cons.mp hle
    rw [joinRuns]
    split
    · refine ih (List.forall_mem_cons.mpr ⟨?_, fun u hu ↦ hles u (List.mem_cons_of_mem t hu)⟩)
        (.cons (fun u hu ↦ hr u (List.mem_cons_of_mem t hu)) hts.tail)
      exact Nat.le_trans hle (Nat.le_max_left _ _)
    · refine (ih hles hts).cons hle fun x hx ↦ ?_
      have hx := le_of_mem_joinRuns hts hx
      omega

/-- The code points of runs in any order. A run that ends before it begins has none. -/
def normalize (runs : List (Nat × Nat)) : List (Nat × Nat) :=
  match (runs.filter fun r ↦ r.1 ≤ r.2).mergeSort fun r t ↦ r.1 ≤ t.1 with
  | [] => []
  | r :: ts => joinRuns r ts

theorem apart_normalize (runs : List (Nat × Nat)) : Apart (normalize runs) := by
  rw [normalize]
  split
  · exact ⟨nofun, .nil⟩
  · rename_i r ts h
    apply apart_joinRuns
    · intro t ht
      rw [← h, List.mem_mergeSort, List.mem_filter] at ht
      exact of_decide_eq_true ht.2
    · rw [← h]
      refine (List.pairwise_mergeSort ?_ ?_ _).imp of_decide_eq_true
      · intro a b c hab hbc
        exact decide_eq_true (Nat.le_trans (of_decide_eq_true hab) (of_decide_eq_true hbc))
      · intro a b
        simpa using Nat.le_total a.1 b.1

def overlap (r t : Nat × Nat) : List (Nat × Nat) :=
  if max r.1 t.1 ≤ min r.2 t.2 then [(max r.1 t.1, min r.2 t.2)] else []

def meet : List (Nat × Nat) → List (Nat × Nat) → List (Nat × Nat)
  | [], _ => []
  | _, [] => []
  | r :: rs, t :: ts =>
    if r.2 < t.2 then overlap r t ++ meet rs (t :: ts) else overlap r t ++ meet (r :: rs) ts
termination_by rs ts => rs.length + ts.length

theorem le_of_mem_overlap {r t x : Nat × Nat} (h : x ∈ overlap r t) :
    r.1 ≤ x.1 ∧ t.1 ≤ x.1 := by
  rw [overlap] at h
  split at h
  · obtain rfl := List.mem_singleton.mp h
    exact ⟨Nat.le_max_left _ _, Nat.le_max_right _ _⟩
  · simp at h

theorem apart_overlap_append {r t : Nat × Nat} {rest : List (Nat × Nat)} (h : Apart rest)
    (hlt : ∀ x ∈ rest, min r.2 t.2 + 1 < x.1) : Apart (overlap r t ++ rest) := by
  rw [overlap]
  split
  · rename_i hle
    exact h.cons hle hlt
  · exact h

theorem exists_le_of_mem_meet {x : Nat × Nat} (rs ts : List (Nat × Nat)) (hx : x ∈ meet rs ts) :
    (∃ r ∈ rs, r.1 ≤ x.1) ∧ ∃ t ∈ ts, t.1 ≤ x.1 := by
  fun_induction meet rs ts with
  | case1 => simp at hx
  | case2 => simp at hx
  | case3 r rs t ts hlt ih =>
    rcases List.mem_append.mp hx with hx | hx
    · obtain ⟨hr, ht⟩ := le_of_mem_overlap hx
      exact ⟨⟨r, List.mem_cons_self, hr⟩, t, List.mem_cons_self, ht⟩
    · obtain ⟨⟨u, hu, hle⟩, ht⟩ := ih hx
      exact ⟨⟨u, List.mem_cons_of_mem r hu, hle⟩, ht⟩
  | case4 r rs t ts hlt ih =>
    rcases List.mem_append.mp hx with hx | hx
    · obtain ⟨hr, ht⟩ := le_of_mem_overlap hx
      exact ⟨⟨r, List.mem_cons_self, hr⟩, t, List.mem_cons_self, ht⟩
    · obtain ⟨hr, u, hu, hle⟩ := ih hx
      exact ⟨hr, u, List.mem_cons_of_mem t hu, hle⟩

theorem apart_meet {rs ts : List (Nat × Nat)} (hrs : Apart rs) (hts : Apart ts) :
    Apart (meet rs ts) := by
  fun_induction meet rs ts with
  | case1 => exact hrs
  | case2 => exact hts
  | case3 r rs t ts hlt ih =>
    refine apart_overlap_append (ih hrs.tail hts) fun x hx ↦ ?_
    obtain ⟨⟨u, hu, hle⟩, -⟩ := exists_le_of_mem_meet _ _ hx
    have := hrs.head_lt u hu
    omega
  | case4 r rs t ts hlt ih =>
    refine apart_overlap_append (ih hrs hts.tail) fun x hx ↦ ?_
    obtain ⟨-, u, hu, hle⟩ := exists_le_of_mem_meet _ _ hx
    have := hts.head_lt u hu
    omega

def lastCode : Nat := 0x10FFFF

/-- The runs from `code` on between given ones. -/
def gaps (code : Nat) : List (Nat × Nat) → List (Nat × Nat)
  | [] => if code ≤ lastCode then [(code, lastCode)] else []
  | r :: rs => if code < r.1 then (code, r.1 - 1) :: gaps (r.2 + 1) rs else gaps (r.2 + 1) rs

theorem le_of_mem_gaps {code : Nat} {x : Nat × Nat} {rs : List (Nat × Nat)} (hrs : Apart rs)
    (hcode : ∀ r ∈ rs, code ≤ r.1) (hx : x ∈ gaps code rs) : code ≤ x.1 := by
  induction rs generalizing code with
  | nil =>
    rw [gaps] at hx
    split at hx <;> simp_all
  | cons r rs ih =>
    have hr := hrs.1 r List.mem_cons_self
    have hle := hcode r List.mem_cons_self
    have hrest (h : x ∈ gaps (r.2 + 1) rs) : r.2 + 1 ≤ x.1 :=
      ih hrs.tail (fun t ht ↦ Nat.le_of_lt (hrs.head_lt t ht)) h
    rw [gaps] at hx
    split at hx
    · rcases List.mem_cons.mp hx with rfl | hx
      · exact Nat.le_refl _
      · have := hrest hx
        omega
    · have := hrest hx
      omega

theorem apart_gaps {code : Nat} {rs : List (Nat × Nat)} (hrs : Apart rs) :
    Apart (gaps code rs) := by
  induction rs generalizing code with
  | nil =>
    rw [gaps]
    split <;> simp_all [Apart]
  | cons r rs ih =>
    rw [gaps]
    split
    · refine (ih hrs.tail).cons (by omega) fun x hx ↦ ?_
      have hr := hrs.1 r List.mem_cons_self
      have := le_of_mem_gaps hrs.tail (fun t ht ↦ Nat.le_of_lt (hrs.head_lt t ht)) hx
      omega
    · exact ih hrs.tail

end CharSet

structure CharSet where
  runs : List (Nat × Nat)
  apart : CharSet.Apart runs
  deriving DecidableEq, Repr

namespace CharSet

def empty : CharSet := ⟨[], by decide⟩

/-- All characters: the code points that are no surrogates. -/
def all : CharSet := ⟨[(0, 0xD7FF), (0xE000, 0x10FFFF)], by decide⟩

def hasCode (s : CharSet) (code : Nat) : Bool :=
  s.runs.any fun r ↦ r.1 ≤ code && code ≤ r.2

def contains (s : CharSet) (c : Char) : Bool := s.hasCode c.toNat

def ofRuns (runs : List (Nat × Nat)) : CharSet := ⟨normalize runs, apart_normalize runs⟩

def range (first last : Char) : CharSet := ofRuns [(first.toNat, last.toNat)]

def singleton (c : Char) : CharSet := range c c

def union (s t : CharSet) : CharSet := ofRuns (s.runs ++ t.runs)

def inter (s t : CharSet) : CharSet := ⟨meet s.runs t.runs, apart_meet s.apart t.apart⟩

def complement (s : CharSet) : CharSet := all.inter ⟨gaps 0 s.runs, apart_gaps s.apart⟩

def diff (s t : CharSet) : CharSet := s.inter t.complement

def symmDiff (s t : CharSet) : CharSet := (s.diff t).union (t.diff s)

def isAscii (s : CharSet) : Bool := s.runs.all fun r ↦ r.2 < 0x80

def codeOfHex (digits : List Char) : Nat :=
  ofDigits 16 (digits.filterMap (digit? 16))

def words (text : String) : List (List Char) :=
  (text.toList.splitOnP fun c ↦ c == ' ' || c == '\n').filter fun word ↦ !word.isEmpty

def ofText (text : String) : CharSet :=
  ofRuns ((words text).map fun run ↦
    match (run.splitOn '-').map codeOfHex with
    | [first, last] => (first, last)
    | codes => (codes.headD 0, codes.headD 0))

end CharSet

end StackDepth.Text
