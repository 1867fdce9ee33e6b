import StackDepth.Instruction.Kind
import StackDepth.Proofs.Numerals
import StackDepth.Proofs.TextCut

namespace StackDepth

namespace Text

variable {base n : Nat} {s : List Char}

theorem IsSigned.eq_plus_or_isHex (hbase : base ≤ 16) (h : IsSigned base s n) :
    ∀ c ∈ s, c = '+' ∨ isHex c := by
  obtain ⟨t, hs, ht⟩ := h
  have hhex : ∀ c ∈ t, isHex c := by
    intro c hc
    obtain ⟨d, hd⟩ := Option.isSome_iff_exists.mp (ht.allDigits hbase c hc)
    exact isHex_of_digit? hbase hd
  intro c hc
  rcases hs with rfl | rfl
  · exact .inr (hhex c hc)
  · exact (List.mem_cons.mp hc).imp_right (hhex c)

theorem IsSigned.isWhite_eq_false (hbase : base ≤ 16) (h : IsSigned base s n) :
    ∀ c ∈ s, isWhite c = false := by
  intro c hc
  rcases h.eq_plus_or_isHex hbase c hc with rfl | hc
  · decide
  · exact isWhite_eq_false_of_isHex hc

theorem IsSigned.not_mem {c : Char} (hbase : base ≤ 16) (h : IsSigned base s n) (hplus : c ≠ '+')
    (hhex : isHex c = false) : c ∉ s := by
  intro hc
  rcases h.eq_plus_or_isHex hbase c hc with hc | hc
  · exact hplus hc
  · simp [hhex] at hc

end Text

namespace Kind

open Text

variable {opcode operands : String} {s : List Char} {n : Nat} {w : UInt64}

section Adjustment

/-- An immediate operand of the value `n`. -/
inductive IsImmediate : List Char → Nat → Prop
  | decimal {s : List Char} {n : Nat} (h : IsSigned 10 s n) : IsImmediate s n
  | hexadecimal {x : Char} {s : List Char} {n : Nat} (hx : x = 'x' ∨ x = 'X')
      (h : IsSigned 16 s n) : IsImmediate ('0' :: x :: s) n

theorem immediate?_of_isSigned (h : IsSigned 10 s n) : immediate? s = word? 10 s := by
  have hlower : 'x' ∉ s := h.not_mem (by decide) (by decide) (by decide)
  have hupper : 'X' ∉ s := h.not_mem (by decide) (by decide) (by decide)
  unfold immediate?
  split
  · simp at hlower
  · simp at hupper
  · rfl

theorem IsImmediate.immediate?_eq (h : IsImmediate s n) :
    immediate? s = if n < UInt64.size then some (UInt64.ofNat n) else none := by
  cases h with
  | decimal h => rw [immediate?_of_isSigned h, h.word?_eq (by decide)]
  | hexadecimal hx h =>
    rcases hx with rfl | rfl
    · exact h.word?_eq (by decide)
    · exact h.word?_eq (by decide)

theorem isImmediate_of_immediate? (h : immediate? s = some w) : IsImmediate s w.toNat := by
  unfold immediate? at h
  split at h
  · exact .hexadecimal (.inl rfl) (isSigned_of_word? (by decide) h)
  · exact .hexadecimal (.inr rfl) (isSigned_of_word? (by decide) h)
  · exact .decimal (isSigned_of_word? (by decide) h)

theorem IsImmediate.forall_mem (h : IsImmediate s n) :
    ∀ c ∈ s, !(c == ',' || isWhite c) := by
  have hsigned {base : Nat} {t : List Char} (hbase : base ≤ 16) (h : IsSigned base t n) :
      ∀ c ∈ t, !(c == ',' || isWhite c) := by
    intro c hc
    have hcomma : c ≠ ',' :=
      ne_of_mem_of_not_mem hc (h.not_mem hbase (by decide) (by decide))
    simp [hcomma, h.isWhite_eq_false hbase c hc]
  cases h with
  | decimal h => exact hsigned (by decide) h
  | hexadecimal hx h =>
    have hmark : ∀ c, c = '0' ∨ c = 'x' ∨ c = 'X' → !(c == ',' || isWhite c) := by
      rintro c (rfl | rfl | rfl) <;> decide
    intro c hc
    rcases List.mem_cons.mp hc with rfl | hc
    · exact hmark '0' (.inl rfl)
    · rcases List.mem_cons.mp hc with rfl | hc
      · exact hmark c (.inr hx)
      · exact hsigned (by decide) h c hc

/-- The stack pointer is lowered by `n`: behind the first number sign stands an immediate operand of
this value, up to a comma, white space or the end. -/
def LowersBy (s : List Char) (n : Nat) : Prop :=
  ∃ mid num tail, s = "sp, ".toList ++ (mid ++ '#' :: (num ++ tail)) ∧ '#' ∉ mid ∧
    IsImmediate num n ∧ ∀ c ∈ tail.head?, c = ',' ∨ isWhite c

theorem LowersBy.adjustment?_eq (hopcode : opcode ∈ subtractions)
    (h : LowersBy operands.toList n) : adjustment? opcode operands =
      if n < UInt64.size then some (UInt64.ofNat n) else none := by
  obtain ⟨mid, num, tail, hs, hmid, hnum, htail⟩ := h
  have hafter := after?_eq_some_iff.mpr hs
  have hcut : cut? (· == '#') operands.toList = some ("sp, ".toList ++ mid, num ++ tail) := by
    rw [hs, ← List.append_assoc]
    exact cut?_beq_append (by simpa using hmid) _
  have htake : (num ++ tail).takeWhile (fun c ↦ !(c == ',' || isWhite c)) = num := by
    refine takeWhile_append_eq hnum.forall_mem fun c hc ↦ ?_
    rcases htail c hc with rfl | hwhite
    · rfl
    · simp [hwhite]
  simp only [adjustment?, hopcode, guard_true, hafter, hcut, htake, Option.bind_eq_bind,
    Option.bind_some, hnum.immediate?_eq]
  rfl

theorem lowersBy_of_adjustment? (h : adjustment? opcode operands = some w) :
    opcode ∈ subtractions ∧ LowersBy operands.toList w.toNat := by
  simp only [adjustment?, Option.bind_eq_bind, Option.bind_eq_some_iff, Option.guard_eq_some',
    after?_eq_some_iff, exists_const, Prod.exists] at h
  obtain ⟨hopcode, rest, hsp, before, immediate, hcut, hword⟩ := h
  -- the first number sign of the operands is that of `rest`, since there is none in front of it
  have hmem : '#' ∈ rest := by
    by_contra hrest
    rw [hsp, cut?_beq_eq_none (by simpa using hrest)] at hcut
    cases hcut
  obtain ⟨mid, after, rfl, hmid⟩ := List.eq_append_cons_of_mem hmem
  obtain rfl : after = immediate := by
    rw [hsp, ← List.append_assoc, cut?_beq_append (by simpa using hmid)] at hcut
    exact (Prod.mk.inj (Option.some.inj hcut)).2
  refine ⟨hopcode, mid, after.takeWhile fun c ↦ !(c == ',' || isWhite c),
    after.dropWhile fun c ↦ !(c == ',' || isWhite c), ?_, hmid, isImmediate_of_immediate? hword, ?_⟩
  · rw [List.takeWhile_append_dropWhile, hsp]
  · intro c hc
    have hhead := List.head?_dropWhile_not (fun c ↦ !(c == ',' || isWhite c)) after
    rw [hc] at hhead
    simpa [or_iff_not_imp_left] using hhead

theorem adjustment?_eq_some_iff : adjustment? opcode operands = some w ↔
    opcode ∈ subtractions ∧ LowersBy operands.toList w.toNat := by
  constructor
  · exact lowersBy_of_adjustment?
  · rintro ⟨hopcode, h⟩
    rw [h.adjustment?_eq hopcode, if_pos w.toNat_lt, UInt64.ofNat_toNat]

end Adjustment

section Target

/-- The address in front of the first ` <` is `n`: a numeral in base sixteen, marked or not, in white
space. -/
def GoesTo (s : List Char) (n : Nat) : Prop :=
  ∃ before after, FirstMark " <".toList s before after ∧ ∃ lead mark num trail,
    before = lead ++ (mark ++ num ++ trail) ∧ (∀ c ∈ lead, isWhite c) ∧ (∀ c ∈ trail, isWhite c) ∧
    (mark = [] ∨ mark = "0x".toList) ∧ IsSigned 16 num n

theorem trimmed_address {mark num : List Char} (hmark : mark = [] ∨ mark = "0x".toList)
    (h : IsSigned 16 num n) : Trimmed (mark ++ num) := by
  have hmark' : ∀ c ∈ mark, isWhite c = false := by
    intro c hc
    rcases hmark with rfl | rfl
    · cases hc
    · obtain rfl | rfl : c = '0' ∨ c = 'x' := by simpa using hc
      · decide
      · decide
  have hwhite : ∀ c ∈ mark ++ num, isWhite c = false := by
    intro c hc
    rcases List.mem_append.mp hc with hc | hc
    · exact hmark' c hc
    · exact h.isWhite_eq_false (by decide) c hc
  exact ⟨fun c hc ↦ hwhite c (List.mem_of_mem_head? hc),
    fun c hc ↦ hwhite c (List.mem_of_mem_getLast? hc)⟩

theorem getD_after?_address {mark num : List Char} (hmark : mark = [] ∨ mark = "0x".toList)
    (h : IsSigned 16 num n) :
    (after? "0x".toList (mark ++ num)).getD (mark ++ num) = num := by
  rcases hmark with rfl | rfl
  · have hx : 'x' ∉ num := h.not_mem (by decide) (by decide) (by decide)
    have hnone : after? "0x".toList num = none := by
      refine Option.eq_none_iff_forall_ne_some.mpr fun rest hrest ↦ ?_
      simp [after?_eq_some_iff.mp hrest] at hx
    rw [List.nil_append, hnone]
    rfl
  · rw [after?_eq_some_iff.mpr rfl]
    rfl

theorem GoesTo.literalTarget?_eq (h : GoesTo operands.toList n) :
    literalTarget? operands = if n < UInt64.size then some (UInt64.ofNat n) else none := by
  obtain ⟨before, after, hfirst, lead, mark, num, trail, rfl, hlead, htrail, hmark, hnum⟩ := h
  have htrim : trim (lead ++ (mark ++ num ++ trail)) = mark ++ num := by
    rw [trim_white_append hlead, trim_append_white _ htrail, (trimmed_address hmark hnum).trim_eq]
  simp only [literalTarget?, cutOn?_eq_some_iff.mpr hfirst, Option.bind_eq_bind, Option.bind_some,
    htrim, getD_after?_address hmark hnum, hnum.word?_eq (by decide)]

theorem goesTo_of_literalTarget? (h : literalTarget? operands = some w) :
    GoesTo operands.toList w.toNat := by
  simp only [literalTarget?, Option.bind_eq_bind, Option.bind_eq_some_iff, cutOn?_eq_some_iff,
    Prod.exists] at h
  obtain ⟨before, after, hfirst, hword⟩ := h
  obtain ⟨lead, trail, hbefore, hlead, htrail⟩ := exists_eq_append_trim before
  refine ⟨before, after, hfirst, lead, ?_⟩
  cases hafter : after? "0x".toList (trim before) with
  | none =>
    rw [hafter] at hword
    exact ⟨[], trim before, trail, hbefore, hlead, htrail, .inl rfl,
      isSigned_of_word? (by decide) hword⟩
  | some num =>
    rw [hafter] at hword
    rw [after?_eq_some_iff.mp hafter] at hbefore
    exact ⟨"0x".toList, num, trail, hbefore, hlead, htrail, .inr rfl,
      isSigned_of_word? (by decide) hword⟩

theorem literalTarget?_eq_some_iff :
    literalTarget? operands = some w ↔ GoesTo operands.toList w.toNat := by
  constructor
  · exact goesTo_of_literalTarget?
  · intro h
    rw [h.literalTarget?_eq, if_pos w.toNat_lt, UInt64.ofNat_toNat]

end Target

/-- An opcode that begins with `b` and is none of those that do not branch. -/
def Branches (opcode : String) : Prop :=
  "b".toList <+: opcode.toList ∧
    ∀ other ∈ ["bic", "bfi", "bfc", "bkpt"], ¬other.toList <+: opcode.toList

theorem isBranch_iff : isBranch opcode ↔ Branches opcode := by
  simp [isBranch, Branches, nonBranches, Bool.eq_false_iff, List.isPrefixOf_iff_prefix]

theorem not_branches_of_mem_subtractions (h : opcode ∈ subtractions) : ¬Branches opcode := by
  rw [← isBranch_iff]
  revert opcode
  decide

theorem classify_of_branches (h : Branches opcode) : classify opcode operands =
    match literalTarget? operands with
    | some target => .branch target
    | none => .indirectBranch := by
  have hadjustment : adjustment? opcode operands = none := by
    refine Option.eq_none_iff_forall_ne_some.mpr fun bytes hbytes ↦ ?_
    exact not_branches_of_mem_subtractions (adjustment?_eq_some_iff.mp hbytes).1 h
  rw [classify, hadjustment]
  exact if_pos (isBranch_iff.mpr h)

theorem classify_of_not_branches (h : ¬Branches opcode) : classify opcode operands =
    match adjustment? opcode operands with
    | some bytes => .stackAdjust bytes
    | none => .other := by
  rw [classify]
  cases adjustment? opcode operands with
  | some bytes => rfl
  | none => exact if_neg fun hbranch ↦ h (isBranch_iff.mp hbranch)

theorem classify_eq_stackAdjust_iff : classify opcode operands = .stackAdjust w ↔
    opcode ∈ subtractions ∧ LowersBy operands.toList w.toNat := by
  rw [← adjustment?_eq_some_iff]
  by_cases h : Branches opcode
  · have hnone : adjustment? opcode operands ≠ some w := fun hsome ↦
      not_branches_of_mem_subtractions (adjustment?_eq_some_iff.mp hsome).1 h
    rw [classify_of_branches h]
    cases literalTarget? operands <;> simp [hnone]
  · rw [classify_of_not_branches h]
    cases adjustment? opcode operands <;> simp

theorem classify_eq_branch_iff : classify opcode operands = .branch w ↔
    Branches opcode ∧ GoesTo operands.toList w.toNat := by
  rw [← literalTarget?_eq_some_iff]
  by_cases h : Branches opcode
  · rw [classify_of_branches h]
    cases literalTarget? operands <;> simp [h]
  · rw [classify_of_not_branches h]
    cases adjustment? opcode operands <;> simp [h]

theorem classify_eq_indirectBranch_iff : classify opcode operands = .indirectBranch ↔
    Branches opcode ∧ ¬∃ target : UInt64, GoesTo operands.toList target.toNat := by
  simp only [← literalTarget?_eq_some_iff]
  by_cases h : Branches opcode
  · rw [classify_of_branches h]
    cases literalTarget? operands <;> simp [h]
  · rw [classify_of_not_branches h]
    cases adjustment? opcode operands <;> simp [h]

theorem classify_eq_other_iff : classify opcode operands = .other ↔ ¬Branches opcode ∧
    ¬∃ bytes : UInt64, opcode ∈ subtractions ∧ LowersBy operands.toList bytes.toNat := by
  simp only [← adjustment?_eq_some_iff]
  by_cases h : Branches opcode
  · rw [classify_of_branches h]
    cases literalTarget? operands <;> simp [h]
  · rw [classify_of_not_branches h]
    cases adjustment? opcode operands <;> simp [h]

/-- Numbers are read exactly or not at all. A subtraction reserves what its immediate operand is
worth, and nothing where that does not fit into a word. A branch goes to the address in front of its
symbol. A branch without such an address is indirect, and everything else is something other. -/
theorem classify_reads_numerals (opcode operands : String) :
    (∀ bytes, classify opcode operands = .stackAdjust bytes ↔
      opcode ∈ ["sub", "sub.w", "subw"] ∧ LowersBy operands.toList bytes.toNat) ∧
    (∀ n, LowersBy operands.toList n → UInt64.size ≤ n →
      ∀ bytes, classify opcode operands ≠ .stackAdjust bytes) ∧
    (∀ target, classify opcode operands = .branch target ↔
      Branches opcode ∧ GoesTo operands.toList target.toNat) ∧
    (classify opcode operands = .indirectBranch ↔
      Branches opcode ∧ ¬∃ target : UInt64, GoesTo operands.toList target.toNat) ∧
    (classify opcode operands = .other ↔ ¬Branches opcode ∧ ¬∃ bytes : UInt64,
      opcode ∈ ["sub", "sub.w", "subw"] ∧ LowersBy operands.toList bytes.toNat) := by
  refine ⟨fun _ ↦ classify_eq_stackAdjust_iff, ?_, fun _ ↦ classify_eq_branch_iff,
    classify_eq_indirectBranch_iff, classify_eq_other_iff⟩
  intro n hn hsize bytes hclassify
  have hbytes := classify_eq_stackAdjust_iff.mp hclassify
  have hsome := adjustment?_eq_some_iff.mpr hbytes
  rw [hn.adjustment?_eq hbytes.1, if_neg (Nat.not_lt.mpr hsize)] at hsome
  cases hsome

example : classify "sub.w" "sp, sp, #0X00fF\t, lsl #2" = .stackAdjust 255 := by decide +kernel

example : classify "subw" "sp, #18446744073709551616" = .other := by decide +kernel

end Kind

end StackDepth
