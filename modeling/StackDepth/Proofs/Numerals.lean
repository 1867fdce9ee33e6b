import StackDepth.Text.Word
import Mathlib.Data.List.Forall2
import Mathlib.Data.List.Induction
import Mathlib.Data.Nat.Digits.Defs
import Mathlib.Tactic.IntervalCases

namespace StackDepth.Text

variable {base : Nat} {s : List Char}

/-- The number that the digits of a text stand for, most significant first. -/
def valueOf (base : Nat) (s : List Char) : Nat :=
  ofDigits base (s.filterMap (digit? base))

def AllDigits (base : Nat) (s : List Char) : Prop :=
  ∀ c ∈ s, (digit? base c).isSome

theorem digit?_plus (base : Nat) : digit? base '+' = none := by
  simp [digit?, Char.le_def]

theorem AllDigits.mapM_eq (h : AllDigits base s) :
    s.mapM (digit? base) = some (s.filterMap (digit? base)) := by
  induction s with
  | nil => rfl
  | cons c s ih =>
    obtain ⟨hc, hs⟩ := List.forall_mem_cons.mp h
    obtain ⟨d, hd⟩ := Option.isSome_iff_exists.mp hc
    rw [List.mapM_cons, ih hs, List.filterMap_cons_some hd, hd]
    rfl

theorem word?_of_head?_ne (h : s.head? ≠ some '+') : word? base s =
    (s.mapM (digit? base)).bind fun digits ↦ if digits.isEmpty ∨ UInt64.size ≤ ofDigits base digits
      then none else some (UInt64.ofNat (ofDigits base digits)) := by
  rw [word?]
  · rfl
  · rintro t rfl
    exact h rfl

theorem word?_of_allDigits (h : AllDigits base s) (hs : s ≠ []) : word? base s =
    if valueOf base s < UInt64.size then some (UInt64.ofNat (valueOf base s)) else none := by
  obtain ⟨c, t, rfl⟩ := List.exists_cons_of_ne_nil hs
  obtain ⟨d, hd⟩ := Option.isSome_iff_exists.mp (h c List.mem_cons_self)
  have hplus : (c :: t).head? ≠ some '+' := by
    rintro ⟨⟩
    simp [digit?_plus] at hd
  have hne : ((c :: t).filterMap (digit? base)).isEmpty = false := by
    rw [List.filterMap_cons_some hd]
    rfl
  rw [word?_of_head?_ne hplus, h.mapM_eq, Option.bind_some, hne, ← valueOf]
  by_cases hlt : valueOf base (c :: t) < UInt64.size
  · simp [hlt]
  · simp [hlt, Nat.le_of_not_lt hlt]

theorem digit?_lt {c : Char} {d : Nat} (h : digit? base c = some d) : d < base := by
  obtain ⟨hlt, he⟩ := Option.ite_none_right_eq_some.mp h
  exact Option.some.inj he ▸ hlt

theorem isHex_of_digit? {c : Char} {d : Nat} (hbase : base ≤ 16) (h : digit? base c = some d) :
    isHex c := by
  have hd := digit?_lt h
  simp only [isHex, digit?] at h ⊢
  split_ifs at h ⊢ <;> simp_all <;> omega

@[simp]
theorem valueOf_append (base : Nat) (s t : List Char) : valueOf base (s ++ t) =
    (t.filterMap (digit? base)).foldl (fun n d ↦ base * n + d) (valueOf base s) := by
  rw [valueOf, ofDigits, List.filterMap_append, List.foldl_append, ← ofDigits, ← valueOf]

theorem valueOf_lt_pow (h : AllDigits base s) : valueOf base s < base ^ s.length := by
  induction s using List.reverseRecOn with
  | nil => exact Nat.one_pos
  | append_singleton s c ih =>
    obtain ⟨hs, hc⟩ := List.forall_mem_append.mp h
    obtain ⟨d, hd⟩ := Option.isSome_iff_exists.mp (hc c List.mem_cons_self)
    have hlt : base * valueOf base s + d < base * (valueOf base s + 1) := by
      rw [Nat.mul_succ]
      exact Nat.add_lt_add_left (digit?_lt hd) _
    rw [valueOf_append, List.filterMap_cons_some hd, List.length_append, List.length_singleton,
      Nat.pow_succ']
    exact hlt.trans_le (Nat.mul_le_mul_left base (ih hs))

@[simp]
theorem digit?_digitChar {d : Nat} (hd : d < base) (hbase : base ≤ 16) :
    digit? base d.digitChar = some d := by
  have hd' : d < 16 := by omega
  interval_cases d <;> simp [digit?, Nat.digitChar, Char.le_def, hd]

theorem allDigits_toDigits (hbase : 1 < base) (hbase' : base ≤ 16) (n : Nat) :
    AllDigits base (Nat.toDigits base n) := by
  induction n using Nat.base_induction base hbase with
  | single m hm => simp [AllDigits, Nat.toDigits_of_lt_base hm, hm, hbase']
  | digit m k hk hm ih =>
    rw [← Nat.toDigits_append_toDigits hbase hm hk, Nat.toDigits_of_lt_base hk]
    refine List.forall_mem_append.mpr ⟨ih, ?_⟩
    simp [hk, hbase']

theorem not_mem_toDigits {c : Char} (hbase : 1 < base) (hbase' : base ≤ 16)
    (hc : digit? base c = none) (n : Nat) : c ∉ Nat.toDigits base n := by
  intro hmem
  have hsome := allDigits_toDigits hbase hbase' n c hmem
  rw [hc] at hsome
  cases hsome

theorem valueOf_toDigits (hbase : 1 < base) (hbase' : base ≤ 16) (n : Nat) :
    valueOf base (Nat.toDigits base n) = n := by
  induction n using Nat.base_induction base hbase with
  | single m hm =>
    simp [valueOf, ofDigits, Nat.toDigits_of_lt_base hm, hm, hbase']
  | digit m k hk hm ih =>
    rw [← Nat.toDigits_append_toDigits hbase hm hk, Nat.toDigits_of_lt_base hk, valueOf_append, ih]
    simp [hk, hbase']

theorem word?_toDigits (hbase : 1 < base) (hbase' : base ≤ 16) (w : UInt64) :
    word? base (Nat.toDigits base w.toNat) = some w := by
  rw [word?_of_allDigits (allDigits_toDigits hbase hbase' _) Nat.toDigits_ne_nil,
    valueOf_toDigits hbase hbase', if_pos w.toNat_lt, UInt64.ofNat_toNat]

/-- `c` is written for the digit `d`, where letters may be of either case. -/
def IsDigit (c : Char) (d : Nat) : Prop :=
  c = d.digitChar ∨ c = d.digitChar.toUpper

/-- One or more digits in `base`, most significant first, with the positional value `n`. -/
structure IsNumeral (base : Nat) (s : List Char) (n : Nat) : Prop where
  ne_nil : s ≠ []
  digits : ∃ ds, List.Forall₂ (fun c d ↦ d < base ∧ IsDigit c d) s ds ∧
    Nat.ofDigits base ds.reverse = n

/-- A numeral, after a plus sign or not. -/
def IsSigned (base : Nat) (s : List Char) (n : Nat) : Prop :=
  ∃ t, (s = t ∨ s = '+' :: t) ∧ IsNumeral base t n

theorem digit?_of_toNat {c : Char} {d : Nat} (hc : c.toNat = 55 + d) (hd : 10 ≤ d) (hd' : d < 16)
    (hlt : d < base) : digit? base c = some d := by
  have hle (a b : Char) : a ≤ b ↔ a.toNat ≤ b.toNat := Iff.rfl
  simp only [digit?, hle, Char.reduceToNat, hc]
  split_ifs <;> grind

theorem digit?_eq_some_iff (hbase : base ≤ 16) {c : Char} {d : Nat} :
    digit? base c = some d ↔ d < base ∧ IsDigit c d := by
  constructor
  · intro h
    have hd := digit?_lt h
    have hd' : d < 16 := by omega
    have hc : c.toNat = 48 + d ∧ d < 10 ∨ c.toNat = 87 + d ∧ 10 ≤ d ∨ c.toNat = 55 + d ∧ 10 ≤ d := by
      have hle (a b : Char) : a ≤ b ↔ a.toNat ≤ b.toNat := Iff.rfl
      simp only [digit?, hle, Char.reduceToNat] at h
      split_ifs at h <;> simp at h <;> omega
    refine ⟨hd, ?_⟩
    rw [IsDigit, ← Char.ofNat_toNat c]
    rcases hc with ⟨hc, hlt⟩ | ⟨hc, hle⟩ | ⟨hc, hle⟩ <;> rw [hc] <;> clear hc h hd <;>
      interval_cases d <;> decide
  · rintro ⟨hd, rfl | rfl⟩
    · exact digit?_digitChar hd hbase
    · have hd' : d < 16 := by omega
      have hupper : d.digitChar.toUpper = d.digitChar ∨
          10 ≤ d ∧ d.digitChar.toUpper.toNat = 55 + d := by
        clear hd
        interval_cases d <;> decide
      rcases hupper with hupper | ⟨hle, hupper⟩
      · rw [hupper]
        exact digit?_digitChar hd hbase
      · exact digit?_of_toNat hupper hle hd' hd

theorem mapM_eq_some_iff {α β : Type} {f : α → Option β} {s : List α} {ds : List β} :
    s.mapM f = some ds ↔ List.Forall₂ (fun c d ↦ f c = some d) s ds := by
  induction s generalizing ds with
  | nil => cases ds <;> simp
  | cons c s ih =>
    rw [List.mapM_cons]
    cases ds with
    | nil => simp [Option.bind_eq_some_iff]
    | cons d ds => simp [← ih, Option.bind_eq_some_iff]

theorem ofDigits_eq_ofDigits_reverse (base : Nat) (ds : List Nat) :
    ofDigits base ds = Nat.ofDigits base ds.reverse := by
  rw [ofDigits, Nat.ofDigits_eq_foldr, List.foldr_reverse]
  simp [Nat.add_comm]

section Word

variable {n : Nat} {w : UInt64} {ds : List Nat}

theorem isNumeral_of_mapM (hbase : base ≤ 16) (hs : s ≠ [])
    (h : s.mapM (digit? base) = some ds) : IsNumeral base s (ofDigits base ds) := by
  simp only [mapM_eq_some_iff, digit?_eq_some_iff hbase] at h
  exact ⟨hs, ds, h, (ofDigits_eq_ofDigits_reverse base ds).symm⟩

theorem isNumeral_toDigits (hbase : 1 < base) (hbase' : base ≤ 16) (n : Nat) :
    IsNumeral base (Nat.toDigits base n) n := by
  have h := isNumeral_of_mapM hbase' Nat.toDigits_ne_nil (allDigits_toDigits hbase hbase' n).mapM_eq
  rwa [← valueOf, valueOf_toDigits hbase hbase'] at h

theorem IsNumeral.isSigned (h : IsNumeral base s n) : IsSigned base s n :=
  ⟨s, .inl rfl, h⟩

theorem IsNumeral.exists_mapM (hbase : base ≤ 16) (h : IsNumeral base s n) :
    ∃ ds, s.mapM (digit? base) = some ds ∧ ds ≠ [] ∧ ofDigits base ds = n := by
  obtain ⟨hne, ds, hds, hn⟩ := h
  refine ⟨ds, ?_, ?_, (ofDigits_eq_ofDigits_reverse base ds).trans hn⟩
  · simpa only [mapM_eq_some_iff, digit?_eq_some_iff hbase] using hds
  · rintro rfl
    exact hne (List.forall₂_nil_right_iff.mp hds)

theorem IsNumeral.allDigits (hbase : base ≤ 16) (h : IsNumeral base s n) : AllDigits base s := by
  obtain ⟨-, ds, hds, -⟩ := h
  have hsome := hds.imp fun c d h ↦ And.intro
    (Option.isSome_of_eq_some ((digit?_eq_some_iff hbase).mpr h)) h
  exact ((List.forall₂_and_left _ _).mp hsome).1

theorem exists_word?_eq (base : Nat) (s : List Char) : ∃ t, (s = t ∨ s = '+' :: t) ∧
    word? base s = (t.mapM (digit? base)).bind fun digits ↦
      if digits.isEmpty ∨ UInt64.size ≤ ofDigits base digits then none
      else some (UInt64.ofNat (ofDigits base digits)) := by
  by_cases hplus : s.head? = some '+'
  · obtain ⟨t, rfl⟩ := List.head?_eq_some_iff.mp hplus
    exact ⟨t, .inr rfl, rfl⟩
  · exact ⟨s, .inl rfl, word?_of_head?_ne hplus⟩

theorem IsNumeral.head?_ne (hbase : base ≤ 16) (h : IsNumeral base s n) : s.head? ≠ some '+' := by
  intro hplus
  have hdigit := h.allDigits hbase '+' (List.mem_of_mem_head? hplus)
  simp [digit?_plus] at hdigit

theorem IsSigned.word?_eq (hbase : base ≤ 16) (h : IsSigned base s n) :
    word? base s = if n < UInt64.size then some (UInt64.ofNat n) else none := by
  obtain ⟨t, hs, ht⟩ := h
  have hword : word? base s = word? base t := by
    rcases hs with rfl | rfl
    · rfl
    · exact (word?_of_head?_ne (ht.head?_ne hbase)).symm
  obtain ⟨ds, hds, hne, rfl⟩ := ht.exists_mapM hbase
  rw [hword, word?_of_head?_ne (ht.head?_ne hbase), hds, Option.bind_some]
  by_cases hlt : ofDigits base ds < UInt64.size
  · simp [hlt, hne]
  · simp [hlt, Nat.le_of_not_lt hlt]

theorem isSigned_of_word? (hbase : base ≤ 16) (h : word? base s = some w) :
    IsSigned base s w.toNat := by
  obtain ⟨t, hs, hword⟩ := exists_word?_eq base s
  rw [hword, Option.bind_eq_some_iff] at h
  obtain ⟨ds, hds, h⟩ := h
  obtain ⟨hds', h⟩ := Option.ite_none_left_eq_some.mp h
  obtain ⟨hne, hlt⟩ := not_or.mp hds'
  refine ⟨t, hs, ?_⟩
  have hvalue : w.toNat = ofDigits base ds := by
    rw [← Option.some.inj h]
    exact UInt64.toNat_ofNat_of_lt' (Nat.lt_of_not_le hlt)
  rw [hvalue]
  refine isNumeral_of_mapM hbase ?_ hds
  rintro rfl
  cases hds
  simp at hne

end Word

end StackDepth.Text
