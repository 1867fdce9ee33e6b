import StackDepth.Text.Cut
import StackDepth.Text.Word
import Mathlib.Data.List.DropRight

namespace StackDepth.Text

section Run

variable {α : Type} {p : α → Bool} {w rest : List α}

theorem takeWhile_append_eq (hw : ∀ c ∈ w, p c) (hrest : ∀ c ∈ rest.head?, p c = false) :
    (w ++ rest).takeWhile p = w := by
  rw [List.takeWhile_append_of_pos hw]
  cases rest with
  | nil => simp
  | cons c rest => simp [hrest c rfl]

theorem dropWhile_append_eq (hw : ∀ c ∈ w, p c) (hrest : ∀ c ∈ rest.head?, p c = false) :
    (w ++ rest).dropWhile p = rest := by
  rw [List.dropWhile_append_of_pos hw]
  cases rest with
  | nil => rfl
  | cons c rest => simp [hrest c rfl]

end Run

theorem after?_eq_some_iff {mark s rest : List Char} :
    after? mark s = some rest ↔ s = mark ++ rest := by
  rw [after?, Option.ite_none_right_eq_some, List.isPrefixOf_iff_prefix]
  constructor
  · rintro ⟨⟨t, rfl⟩, hrest⟩
    rw [List.drop_left, Option.some.injEq] at hrest
    rw [hrest]
  · rintro rfl
    exact ⟨List.prefix_append mark rest, by rw [List.drop_left]⟩

theorem cut?_append_cons {α : Type} {p : α → Bool} {w : List α} {c : α}
    (hw : ∀ d ∈ w, p d = false) (hc : p c) (rest : List α) :
    cut? p (w ++ c :: rest) = some (w, rest) := by
  have hw' : ∀ d ∈ w, !p d := by simpa using hw
  have hstop : ∀ d ∈ (c :: rest).head?, (!p d) = false := by simpa using hc
  rw [cut?, dropWhile_append_eq hw' hstop, takeWhile_append_eq hw' hstop]

theorem cut?_eq_none {α : Type} {p : α → Bool} {s : List α} (hs : ∀ c ∈ s, p c = false) :
    cut? p s = none := by
  have hdrop : s.dropWhile (fun c ↦ !p c) = [] := List.dropWhile_eq_nil_iff.mpr (by simpa using hs)
  rw [cut?, hdrop]

theorem cut?_eq_none_iff {α : Type} {p : α → Bool} {s : List α} :
    cut? p s = none ↔ ∀ c ∈ s, p c = false := by
  constructor
  · intro h
    rw [cut?] at h
    split at h
    · rename_i hdrop
      simpa using List.dropWhile_eq_nil_iff.mp hdrop
    · cases h
  · exact cut?_eq_none

theorem cut?_eq_some_iff {α : Type} {p : α → Bool} {s w rest : List α} :
    cut? p s = some (w, rest) ↔ ∃ c, s = w ++ c :: rest ∧ p c ∧ ∀ d ∈ w, p d = false := by
  constructor
  · intro h
    rw [cut?] at h
    split at h
    · cases h
    · rename_i c after hdrop
      cases h
      have hhead := List.head?_dropWhile_not (fun c ↦ !p c) s
      rw [hdrop] at hhead
      refine ⟨c, ?_, by simpa using hhead, ?_⟩
      · rw [← hdrop, List.takeWhile_append_dropWhile]
      · intro d hd
        simpa using List.mem_takeWhile_imp hd
  · rintro ⟨c, rfl, hc, hw⟩
    exact cut?_append_cons hw hc rest

theorem cut?_beq_append {α : Type} [DecidableEq α] {c : α} {w : List α} (hw : c ∉ w)
    (rest : List α) : cut? (· == c) (w ++ c :: rest) = some (w, rest) := by
  refine cut?_append_cons (fun d hd ↦ ?_) (by simp) rest
  exact beq_eq_false_iff_ne.mpr (ne_of_mem_of_not_mem hd hw)

theorem cut?_beq_eq_none {α : Type} [DecidableEq α] {c : α} {s : List α} (hs : c ∉ s) :
    cut? (· == c) s = none := by
  refine cut?_eq_none fun d hd ↦ ?_
  exact beq_eq_false_iff_ne.mpr (ne_of_mem_of_not_mem hd hs)

section CutOn

variable {mark s w rest : List Char} {c : Char}

theorem cutOn?_append (hc : c ∉ w) (mark rest : List Char) :
    cutOn? (c :: mark) (w ++ (c :: mark ++ rest)) = some (w, rest) := by
  induction w with
  | nil => simp [cutOn?]
  | cons d w ih =>
    obtain ⟨hd, hc⟩ : c ≠ d ∧ c ∉ w := by simpa using hc
    have hmark : (c :: mark).isPrefixOf (d :: (w ++ (c :: mark ++ rest))) = false := by
      simp [List.isPrefixOf, hd]
    rw [List.cons_append, cutOn?, if_neg (by rw [hmark]; decide), ih hc]
    rfl

theorem eq_append_of_cutOn? (h : cutOn? mark s = some (w, rest)) : s = w ++ (mark ++ rest) := by
  induction s generalizing w with
  | nil =>
    obtain ⟨hmark, h⟩ := Option.ite_none_right_eq_some.mp h
    cases h
    rw [List.isEmpty_iff.mp hmark]
    rfl
  | cons c s ih =>
    rw [cutOn?] at h
    split at h
    · rename_i hmark
      cases h
      obtain ⟨t, ht⟩ := List.isPrefixOf_iff_prefix.mp hmark
      rw [← ht, List.drop_left, List.nil_append]
    · obtain ⟨⟨w', rest'⟩, hs, h⟩ := Option.map_eq_some_iff.mp h
      cases h
      rw [ih hs, List.cons_append]

/-- The first occurrence of `mark` in `s` stands between `before` and `after`. -/
structure FirstMark (mark s before after : List Char) : Prop where
  eq : s = before ++ (mark ++ after)
  length_le : ∀ b a, s = b ++ (mark ++ a) → before.length ≤ b.length

theorem FirstMark.unique {w' rest' : List Char} (h : FirstMark mark s w rest)
    (h' : FirstMark mark s w' rest') : w = w' ∧ rest = rest' := by
  have hlength : w.length = w'.length :=
    Nat.le_antisymm (h.length_le _ _ h'.eq) (h'.length_le _ _ h.eq)
  obtain ⟨hw, hrest⟩ := List.append_inj (h.eq.symm.trans h'.eq) hlength
  exact ⟨hw, List.append_cancel_left hrest⟩

theorem length_le_of_cutOn? (h : cutOn? mark s = some (w, rest)) (b a : List Char) :
    s = b ++ (mark ++ a) → w.length ≤ b.length := by
  induction s generalizing w b with
  | nil =>
    obtain ⟨-, h⟩ := Option.ite_none_right_eq_some.mp h
    cases h
    simp
  | cons c s ih =>
    intro hs
    rw [cutOn?] at h
    split at h
    · cases h
      simp
    · rename_i hmark
      obtain ⟨⟨w', rest'⟩, hcut, h⟩ := Option.map_eq_some_iff.mp h
      cases h
      cases b with
      | nil => exact absurd (List.isPrefixOf_iff_prefix.mpr ⟨a, hs.symm⟩) hmark
      | cons d b => exact Nat.succ_le_succ (ih hcut b (List.cons.inj hs).2)

theorem exists_cutOn? (mark w rest : List Char) :
    ∃ r, cutOn? mark (w ++ (mark ++ rest)) = some r := by
  induction w with
  | nil =>
    rw [List.nil_append]
    cases h : mark ++ rest with
    | nil => exact ⟨([], []), by simp_all [cutOn?]⟩
    | cons c s => exact ⟨_, by rw [cutOn?, if_pos (List.isPrefixOf_iff_prefix.mpr ⟨rest, h⟩)]⟩
  | cons d w ih =>
    obtain ⟨r, hr⟩ := ih
    rw [List.cons_append, cutOn?, hr]
    split
    · exact ⟨_, rfl⟩
    · exact ⟨_, rfl⟩

theorem cutOn?_eq_some_iff : cutOn? mark s = some (w, rest) ↔ FirstMark mark s w rest := by
  have hfirst (w rest) (h : cutOn? mark s = some (w, rest)) : FirstMark mark s w rest :=
    ⟨eq_append_of_cutOn? h, length_le_of_cutOn? h⟩
  constructor
  · exact hfirst w rest
  · intro h
    obtain ⟨⟨w', rest'⟩, hcut⟩ := exists_cutOn? mark w rest
    rw [← h.eq] at hcut
    obtain ⟨rfl, rfl⟩ := h.unique (hfirst w' rest' hcut)
    exact hcut

end CutOn

section DropEnd

variable {p : Char → Bool} {c : Char}

theorem dropEndWhile_eq_rdropWhile (p : Char → Bool) (s : List Char) :
    dropEndWhile p s = s.rdropWhile p := rfl

/-- The end is dropped behind the last character outside of `p`. -/
theorem dropEndWhile_append_cons (hc : p c = false) (s t : List Char) :
    dropEndWhile p (s ++ c :: t) = s ++ c :: dropEndWhile p t := by
  simp only [dropEndWhile_eq_rdropWhile]
  induction t using List.reverseRecOn with
  | nil => rw [List.rdropWhile_concat_neg p s c (by simp [hc]), List.rdropWhile_nil]
  | append_singleton t d ih =>
    rw [← List.cons_append, ← List.append_assoc, List.rdropWhile_concat, List.rdropWhile_concat, ih]
    split
    · rfl
    · rw [List.append_assoc, List.cons_append]

theorem dropEndWhile_eq_self {s : List Char} (h : ∀ d ∈ s.getLast?, p d = false) :
    dropEndWhile p s = s := by
  refine List.rdropWhile_eq_self_iff.mpr fun hs ↦ ?_
  simpa using h _ (List.getLast?_eq_some_getLast hs)

theorem mem_of_mem_trim {s : List Char} (h : c ∈ trim s) : c ∈ s :=
  (List.dropWhile_suffix _).subset ((List.rdropWhile_prefix _ _).subset h)

/-- A text with no white space at its beginning keeps all up to any character that is not white. -/
theorem trim_append_cons {s : List Char} (hs : ∀ d ∈ (s ++ [c]).head?, isWhite d = false)
    (hc : isWhite c = false) (t : List Char) :
    trim (s ++ c :: t) = s ++ c :: dropEndWhile isWhite t := by
  have hdrop : (s ++ c :: t).dropWhile isWhite = s ++ c :: t := by
    refine dropWhile_append_eq (w := []) (by simp) ?_
    cases s <;> exact hs
  rw [trim, hdrop, dropEndWhile_append_cons hc]

theorem trim_eq_self {s : List Char} (hhead : ∀ d ∈ s.head?, isWhite d = false)
    (hlast : ∀ d ∈ s.getLast?, isWhite d = false) : trim s = s := by
  have hdrop : s.dropWhile isWhite = s := dropWhile_append_eq (w := []) (by simp) hhead
  rw [trim, hdrop, dropEndWhile_eq_self hlast]

end DropEnd

section Trim

variable {s w : List Char}

/-- No white space at either end. -/
structure Trimmed (s : List Char) : Prop where
  head : ∀ c ∈ s.head?, isWhite c = false
  last : ∀ c ∈ s.getLast?, isWhite c = false

theorem Trimmed.trim_eq (h : Trimmed s) : trim s = s :=
  trim_eq_self h.head h.last

theorem trimmed_trim (s : List Char) : Trimmed (trim s) := by
  constructor
  · intro c hc
    obtain ⟨t, ht⟩ := List.rdropWhile_prefix (p := isWhite) (l := s.dropWhile isWhite)
    have hhead := List.head?_dropWhile_not isWhite s
    rw [← ht, List.head?_append, ← dropEndWhile_eq_rdropWhile, ← trim, hc] at hhead
    exact hhead
  · intro c hc
    obtain ⟨hne, rfl⟩ := List.mem_getLast?_eq_getLast hc
    exact Bool.eq_false_iff.mpr (List.rdropWhile_last_not isWhite (s.dropWhile isWhite) hne)

theorem exists_eq_append_trim (s : List Char) : ∃ lead trail, s = lead ++ (trim s ++ trail) ∧
    (∀ c ∈ lead, isWhite c) ∧ ∀ c ∈ trail, isWhite c := by
  refine ⟨s.takeWhile isWhite, (s.dropWhile isWhite).rtakeWhile isWhite, ?_, ?_, ?_⟩
  · rw [trim, dropEndWhile_eq_rdropWhile, List.rdropWhile_append_rtakeWhile,
      List.takeWhile_append_dropWhile]
  · intro c hc
    exact List.mem_takeWhile_imp hc
  · intro c hc
    exact List.mem_rtakeWhile_imp hc

theorem trim_white_append (hw : ∀ c ∈ w, isWhite c) (s : List Char) : trim (w ++ s) = trim s := by
  rw [trim, List.dropWhile_append_of_pos hw, ← trim]

theorem trim_append_white (s : List Char) (hw : ∀ c ∈ w, isWhite c) : trim (s ++ w) = trim s := by
  have hend (t : List Char) : dropEndWhile isWhite (t ++ w) = dropEndWhile isWhite t := by
    rw [dropEndWhile, List.reverse_append, List.dropWhile_append_of_pos (by simpa using hw),
      ← dropEndWhile]
  rw [trim, trim, List.dropWhile_append]
  split
  · rename_i hs
    rw [List.isEmpty_iff.mp hs, List.dropWhile_eq_nil_iff.mpr hw]
  · exact hend _

@[simp]
theorem trim_eq_nil_iff : trim s = [] ↔ ∀ c ∈ s, isWhite c := by
  constructor
  · intro h
    obtain ⟨lead, trail, hs, hlead, htrail⟩ := exists_eq_append_trim s
    rw [hs, h]
    simpa [or_imp, forall_and] using ⟨hlead, htrail⟩
  · intro h
    exact trim_append_white [] h

theorem trim_ne_nil_of_mem (h : ∃ c ∈ s, isWhite c = false) : trim s ≠ [] := by
  obtain ⟨c, hc, hwhite⟩ := h
  intro htrim
  simp [trim_eq_nil_iff.mp htrim c hc] at hwhite

theorem trim_ne_nil_of_head? (hs : ∀ c ∈ s.head?, isWhite c = false) (hne : s ≠ []) :
    trim s ≠ [] := by
  obtain ⟨c, s, rfl⟩ := List.exists_cons_of_ne_nil hne
  exact trim_ne_nil_of_mem ⟨c, List.mem_cons_self, hs c rfl⟩

end Trim

theorem lines_flatMap {ls : List (List Char)} (h : ∀ l ∈ ls, '\n' ∉ l) :
    lines (ls.flatMap (· ++ ['\n'])) = ls := by
  have hsplit : (ls.flatMap (· ++ ['\n'])).splitOn '\n' = ls ++ [[]] := by
    induction ls with
    | nil => rfl
    | cons l ls ih =>
      obtain ⟨hl, hls⟩ := List.forall_mem_cons.mp h
      rw [List.flatMap_cons, List.append_assoc, List.singleton_append,
        List.splitOn_append_cons_self_of_not_mem hl, ih hls, List.cons_append]
  rw [lines, pieces, hsplit]
  simp

section Rows

variable {α β : Type} [DecidableEq α] {ret feed : α}

/-- The lines of a sequence in which `ret` may stand before `feed` and belongs to the end of the
line. -/
def rowsBy (ret feed : α) (s : List α) : List (List α) :=
  let all := s.splitOn feed
  let ended := all.dropLast.map fun row ↦
    if row.getLast? = some ret then row.dropLast else row
  ended ++ all.getLast?.toList.filter fun row ↦ !row.isEmpty

theorem rows_eq_rowsBy (s : List Char) : rows s = rowsBy '\r' '\n' s := rfl

/-- What stands in front of `feed` is all that the two ways to cut lines differ by. -/
theorem map_rowsBy_eq_map_pieces {f : List α → β} (hf : ∀ s, f (s ++ [ret]) = f s) (s : List α) :
    (rowsBy ret feed s).map f = (pieces feed s).map f := by
  obtain ⟨ended, last, hall⟩ : ∃ ended last, s.splitOn feed = ended ++ [last] :=
    ⟨_, _, (List.dropLast_concat_getLast (List.splitOn_ne_nil feed s)).symm⟩
  have hrow (row : List α) : f (if row.getLast? = some ret then row.dropLast else row) = f row := by
    split
    · rename_i h
      obtain ⟨init, rfl⟩ := List.getLast?_eq_some_iff.mp h
      rw [List.dropLast_concat, hf]
    · rfl
  rw [rowsBy, pieces, hall]
  cases last <;> simp [hrow]

theorem splitOn_append_of_not_mem {w : List α} (hw : feed ∉ w) (s : List α) :
    (w ++ s).splitOn feed = (s.splitOn feed).modifyHead (w ++ ·) := by
  induction w with
  | nil =>
    rw [List.nil_append]
    cases s.splitOn feed <;> rfl
  | cons c w ih =>
    obtain ⟨hc, hw⟩ : feed ≠ c ∧ feed ∉ w := by simpa using hw
    have hne : (c == feed) = false := beq_eq_false_iff_ne.mpr hc.symm
    rw [List.cons_append, List.splitOn_cons_eq_if_modifyHead, hne, ih hw]
    cases s.splitOn feed <;> simp

end Rows

theorem isHex_iff {c : Char} : isHex c ↔ 48 ≤ c.toNat ∧ c.toNat ≤ 57 ∨
    97 ≤ c.toNat ∧ c.toNat ≤ 102 ∨ 65 ≤ c.toNat ∧ c.toNat ≤ 70 := by
  have hle (a b : Char) : a ≤ b ↔ a.toNat ≤ b.toNat := Iff.rfl
  simp only [isHex, digit?, hle, Char.reduceToNat]
  split_ifs <;> simp <;> omega

theorem isWhite_eq_false_of_isHex {c : Char} (h : isHex c) : isWhite c = false := by
  rw [isHex_iff] at h
  simp only [isWhite, whiteRanges, List.any_cons, List.any_nil, Bool.or_eq_false_iff,
    Bool.and_eq_false_iff, decide_eq_false_iff_not, and_true]
  omega

end StackDepth.Text
