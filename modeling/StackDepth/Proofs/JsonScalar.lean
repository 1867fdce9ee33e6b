import StackDepth.Json.Codec
import StackDepth.Proofs.Numerals
import StackDepth.Proofs.TextCut

namespace StackDepth.Json

namespace Reader

variable {α β : Type} {r : Reader α} {s t : List Char} {a : α} {c : Char}

theorem exists_eq_ok_of_run (h : r.run s = .ok (a, t)) : ∃ hle, r s = .ok ⟨a, t, hle⟩ := by
  rw [run] at h
  cases hr : r s with
  | error e => simp [hr, Except.map] at h
  | ok x =>
    obtain ⟨rfl, rfl⟩ : x.value = a ∧ x.rest = t := by simpa [hr, Except.map] using h
    exact ⟨x.le, rfl⟩

theorem run_bind_of_eq (h : r.run s = .ok (a, t)) (f : α → Reader β) :
    (r >>= f).run s = (f a).run t := by
  rw [run_bind, h]
  rfl

theorem run_map_of_eq (h : r.run s = .ok (a, t)) (f : α → β) :
    (f <$> r).run s = .ok (f a, t) :=
  run_bind_of_eq h (pure ∘ f)

@[simp]
theorem map_widen (h : t.length ≤ s.length) (x : Except Fault (Read α t)) :
    (x.map (Read.widen h)).map (fun a ↦ (a.value, a.rest)) = x.map fun a ↦ (a.value, a.rest) := by
  cases x <;> rfl

theorem run_bind_of_error {e : Fault} (h : r s = .error e)
    (f : α → Reader β) : (r >>= f).run s = .error e := by
  rw [run_bind, run, h]
  rfl

theorem run_bind_of_ok {x : Read α s} (h : r s = .ok x)
    (f : α → Reader β) : (r >>= f).run s = (f x.value).run x.rest := by
  rw [run_bind, run, h]
  rfl

@[simp]
theorem run_peek? (s : List Char) : peek?.run s = .ok (s.head?, s) := rfl

@[simp]
theorem run_skip (c : Char) (s : List Char) : skip.run (c :: s) = .ok ((), s) := rfl

@[simp]
theorem run_next (c : Char) (s : List Char) : next.run (c :: s) = .ok (c, s) := rfl

@[simp]
theorem run_takeWhile (p : Char → Bool) (s : List Char) :
    (takeWhile p).run s = .ok (s.takeWhile p, s.dropWhile p) := rfl

@[simp]
theorem run_expect (c : Char) (s : List Char) : (expect c).run (c :: s) = .ok ((), s) := by
  rw [expect, run_bind_of_eq (run_next c s), if_neg (not_not.mpr rfl)]
  rfl

theorem run_expectAll (cs t : List Char) : (expectAll cs).run (cs ++ t) = .ok ((), t) := by
  induction cs with
  | nil => rfl
  | cons c cs ih =>
    rw [expectAll, List.cons_append, run_bind_of_eq (run_expect c _), ih]

@[simp]
theorem run_blanks (s : List Char) : blanks.run s = .ok ((), s.dropWhile isBlank) := rfl

theorem run_begin (h : s.dropWhile isBlank = c :: t) : begin.run s = .ok (c, c :: t) := by
  rw [begin, run_bind_of_eq (run_blanks s), h, run_bind_of_eq (run_peek? (c :: t))]
  rfl

theorem dropWhile_isBlank_cons (hc : isBlank c = false) (s : List Char) :
    (c :: s).dropWhile isBlank = c :: s := by
  rw [List.dropWhile_cons, hc]
  rfl

theorem run_begin_cons (hc : isBlank c = false) (s : List Char) :
    begin.run (c :: s) = .ok (c, c :: s) :=
  run_begin (dropWhile_isBlank_cons hc s)

theorem run_punctuation (hc : isBlank c = false) (s : List Char) :
    (punctuation c).run (c :: s) = .ok ((), s) := by
  rw [punctuation, run_bind_of_eq (run_blanks (c :: s)), dropWhile_isBlank_cons hc, run_expect]

theorem map_value_eq (r : Reader α) (s : List Char) :
    (r s).map Read.value = (r.run s).map Prod.fst := by
  rw [run]
  cases r s <;> rfl

theorem document_ofList (h : r.run s = .ok (a, [])) :
    r.document (String.ofList s) = .ok a := by
  rw [document, map_value_eq, String.toList_ofList, run_bind_of_eq h,
    run_bind_of_eq (run_blanks []), run_bind_of_eq (run_peek? _)]
  rfl

end Reader

open Reader

/-- What may stand behind a value: nothing, a blank, a comma or a closing bracket. -/
def Ended (rest : List Char) : Prop :=
  ∀ c ∈ rest.head?, isBlank c ∨ c = ',' ∨ c = ']' ∨ c = '\x7d'

namespace Numeral

variable {e : Fault} {p : Char → Bool} {rest ds : List Char}

theorem run_optional (h : ∀ c ∈ rest.head?, p c = false) :
    (optional p).run rest = .ok (false, rest) := by
  rw [optional, run_bind_of_eq (run_peek? rest)]
  cases rest with
  | nil => rfl
  | cons c rest =>
    have hc := h c rfl
    simp only [List.head?_cons, hc, Bool.false_eq_true, if_false]
    rfl

theorem run_digits (hds : ∀ c ∈ ds, isDigit c) (hne : ds ≠ [])
    (hrest : ∀ c ∈ rest.head?, isDigit c = false) :
    (digits e).run (ds ++ rest) = .ok (ds, rest) := by
  have hempty : ds.isEmpty = false := by simpa using hne
  rw [digits, run_bind_of_eq (run_takeWhile isDigit _), Text.takeWhile_append_eq hds hrest,
    Text.dropWhile_append_eq hds hrest, hempty]
  rfl

theorem digit?_ten {c : Char} {d : Nat} (h : Text.digit? 10 c = some d) :
    isDigit c ∧ d = c.toNat - '0'.toNat := by
  obtain ⟨hlt, hd⟩ := Option.ite_none_right_eq_some.mp h
  have hvalue := Option.some.inj hd
  by_cases hc : '0' ≤ c ∧ c ≤ '9'
  · rw [if_pos hc] at hvalue
    exact ⟨by simpa [isDigit] using hc, hvalue.symm⟩
  · rw [if_neg hc] at hlt
    split_ifs at hlt <;> omega

theorem isDigit_of_mem_toDigits {c : Char} {n : Nat} (hc : c ∈ Nat.toDigits 10 n) : isDigit c := by
  have hsome := Text.allDigits_toDigits (by decide) (by decide) n c hc
  obtain ⟨d, hd⟩ := Option.isSome_iff_exists.mp hsome
  exact (digit?_ten hd).1

theorem value_eq_valueOf (h : Text.AllDigits 10 ds) : value ds = Text.valueOf 10 ds := by
  have hmap : ds.map (fun c ↦ c.toNat - '0'.toNat) = ds.filterMap (Text.digit? 10) := by
    rw [← List.filterMap_eq_map]
    apply List.filterMap_congr
    intro c hc
    obtain ⟨d, hd⟩ := Option.isSome_iff_exists.mp (h c hc)
    rw [hd, (digit?_ten hd).2]
    rfl
  rw [value, hmap, Text.valueOf]

theorem value_toDigits (n : Nat) : value (Nat.toDigits 10 n) = n := by
  rw [value_eq_valueOf (Text.allDigits_toDigits (by decide) (by decide) n),
    Text.valueOf_toDigits (by decide) (by decide)]

theorem head?_toDigits_ne_zero {n : Nat} (hn : 0 < n) : (Nat.toDigits 10 n).head? ≠ some '0' := by
  induction n using Nat.base_induction 10 (by decide) with
  | single m hm =>
    rw [Nat.toDigits_of_lt_base hm]
    interval_cases m <;> decide
  | digit m k hk hm ih =>
    rw [← Nat.toDigits_append_toDigits (by decide) hm hk,
      List.head?_append_of_ne_nil _ Nat.toDigits_ne_nil]
    exact ih hm

theorem isBlank_eq_false_of_isDigit {c : Char} (hc : isDigit c) : isBlank c = false := by
  rw [← Bool.not_eq_true]
  intro hblank
  simp only [isBlank, Bool.or_eq_true, beq_iff_eq] at hblank
  rcases hblank with ((rfl | rfl) | rfl) | rfl <;> revert hc <;> decide

/-- Nothing of what may stand behind a value goes on with a number. -/
theorem head?_of_ended (hrest : Ended rest) : ∀ c ∈ rest.head?,
    isDigit c = false ∧ (c == '.') = false ∧ (c == 'e' || c == 'E') = false := by
  intro c hc
  rcases hrest c hc with hblank | rfl | rfl | rfl
  · simp only [isBlank, Bool.or_eq_true, beq_iff_eq] at hblank
    rcases hblank with ((rfl | rfl) | rfl) | rfl <;> decide
  all_goals decide

theorem run_read_toDigits (e : Fault) (n : Nat) (hrest : Ended rest) :
    (read e).run (Nat.toDigits 10 n ++ rest) =
      .ok (⟨false, Nat.toDigits 10 n, [], none⟩, rest) := by
  have hstop := head?_of_ended hrest
  have hne : Nat.toDigits 10 n ≠ [] := Nat.toDigits_ne_nil
  have hminus : ∀ c ∈ (Nat.toDigits 10 n ++ rest).head?, (c == '-') = false := by
    intro c hc
    rw [List.head?_append_of_ne_nil _ hne] at hc
    have hdigit := isDigit_of_mem_toDigits (List.mem_of_mem_head? hc)
    rw [beq_eq_false_iff_ne]
    rintro rfl
    revert hdigit
    decide
  have hzero : ¬((Nat.toDigits 10 n).head? = some '0' ∧ 1 < (Nat.toDigits 10 n).length) := by
    rintro ⟨hhead, hlength⟩
    rcases Nat.eq_zero_or_pos n with rfl | hn
    · simp at hlength
    · exact head?_toDigits_ne_zero hn hhead
  rw [read, run_bind_of_eq (run_optional hminus),
    run_bind_of_eq (run_digits (fun c ↦ isDigit_of_mem_toDigits) hne fun c hc ↦ (hstop c hc).1),
    if_neg hzero, run_bind_of_eq (run_optional fun c hc ↦ (hstop c hc).2.1)]
  simp only [Bool.false_eq_true, if_false]
  rw [run_bind_of_eq (run_pure [] rest), run_bind_of_eq (run_optional fun c hc ↦ (hstop c hc).2.2)]
  rfl

end Numeral

def IsUnit (ds : List Char) (n : Nat) : Prop :=
  ds.length = 4 ∧ Text.IsNumeral 16 ds n

theorem isUnit_iff {ds : List Char} {n : Nat} : IsUnit ds n ↔
    ds.length = 4 ∧ (ds.mapM (Text.digit? 16)).map (Text.ofDigits 16) = some n := by
  apply and_congr_right
  intro hlength
  constructor
  · intro h
    obtain ⟨digits, hdigits, -, hn⟩ := h.exists_mapM (Nat.le_refl 16)
    rw [hdigits, Option.map_some, hn]
  · intro h
    obtain ⟨digits, hdigits, rfl⟩ := Option.map_eq_some_iff.mp h
    refine Text.isNumeral_of_mapM (Nat.le_refl 16) ?_ hdigits
    rintro rfl
    cases hlength

instance (ds : List Char) (n : Nat) : Decidable (IsUnit ds n) :=
  decidable_of_iff' _ isUnit_iff

def shortEscapes : List (Char × Char) :=
  [('"', '"'), ('\\', '\\'), ('/', '/'), ('b', '\x08'), ('t', '\t'), ('n', '\n'), ('f', '\x0c'),
    ('r', '\r')]

/-- The ways to write a character inside quotes. No character has the number of a surrogate, so
surrogates stand in pairs only. -/
inductive SpellsChar : Char → List Char → Prop
  | plain {c : Char} (hquote : c ≠ '"') (hslash : c ≠ '\\') (hc : ¬c < ' ') : SpellsChar c [c]
  | short {c e : Char} (h : (e, c) ∈ shortEscapes) : SpellsChar c ['\\', e]
  | unit {c : Char} {ds : List Char} (h : IsUnit ds c.toNat) : SpellsChar c ('\\' :: 'u' :: ds)
  | pair {c : Char} {ds es : List Char} {high low : Nat} (hhigh : high < 0x400) (hlow : low < 0x400)
      (hds : IsUnit ds (0xD800 + high)) (hes : IsUnit es (0xDC00 + low))
      (hc : c.toNat = 0x10000 + high * 0x400 + low) :
      SpellsChar c ('\\' :: 'u' :: (ds ++ '\\' :: 'u' :: es))

def SpellsText (s : String) (t : List Char) : Prop :=
  ∃ pieces, List.Forall₂ SpellsChar s.toList pieces ∧ t = pieces.flatten

namespace Quoted

variable {numbered : Reader Char} {done ds t u piece : List Char} {c d : Char} {n : Nat}
variable {s : String}

theorem run_charsFrom_quote (numbered : Reader Char) (done t : List Char) :
    run (charsFrom numbered done) ('"' :: t) = .ok (done.reverse, t) := by
  unfold run
  rw [charsFrom]
  rfl

theorem run_charsFrom_plain (hquote : c ≠ '"') (hslash : c ≠ '\\') (hc : ¬c < ' ') :
    run (charsFrom numbered done) (c :: t) =
      run (charsFrom numbered (c :: done)) t := by
  unfold run
  rw [charsFrom, if_neg hquote, if_neg hslash, if_neg hc]
  cases charsFrom numbered (c :: done) t <;> rfl

theorem run_charsFrom_escape (h : (escape numbered).run t = .ok (d, u)) :
    run (charsFrom numbered done) ('\\' :: t) =
      run (charsFrom numbered (d :: done)) u := by
  obtain ⟨hle, hr⟩ := exists_eq_ok_of_run h
  unfold run
  rw [charsFrom, if_neg (by decide), if_pos rfl, hr]
  dsimp only
  cases charsFrom numbered (d :: done) u <;> rfl

theorem run_escape_u (numbered : Reader Char) (t : List Char) :
    (escape numbered).run ('u' :: t) = numbered.run t :=
  run_bind_of_eq (run_next 'u' t) _

theorem run_unit (h : IsUnit ds n) (t : List Char) : unit.run (ds ++ t) = .ok (n, t) := by
  obtain ⟨hlength, hmap⟩ := isUnit_iff.mp h
  obtain ⟨digits, hdigits, rfl⟩ := Option.map_eq_some_iff.mp hmap
  obtain ⟨a, b, c, d, rfl⟩ := List.length_eq_four.mp hlength
  unfold run
  simp only [List.cons_append, List.nil_append]
  rw [unit, hdigits]
  rfl

theorem run_escape_short (numbered : Reader Char) {e : Char} (h : (e, c) ∈ shortEscapes)
    (t : List Char) : (escape numbered).run (e :: t) = .ok (c, t) := by
  have hnext := run_bind_of_eq (run_next e t) (β := Char)
  simp only [shortEscapes, List.mem_cons, Prod.mk.injEq, List.not_mem_nil, or_false] at h
  rcases h with ⟨rfl, rfl⟩ | ⟨rfl, rfl⟩ | ⟨rfl, rfl⟩ | ⟨rfl, rfl⟩ | ⟨rfl, rfl⟩ | ⟨rfl, rfl⟩ |
    ⟨rfl, rfl⟩ | ⟨rfl, rfl⟩ <;> exact hnext _

theorem run_scalar_unit (h : IsUnit ds c.toNat) (t : List Char) :
    scalar.run (ds ++ t) = .ok (c, t) := by
  have hlow : isLowSurrogate c.toNat = false := by
    have hvalid : c.toNat < 0xD800 ∨ 0xDFFF < c.toNat ∧ c.toNat < 0x110000 := c.valid
    simp only [isLowSurrogate, Bool.and_eq_false_iff, decide_eq_false_iff_not]
    omega
  have hhigh : isHighSurrogate c.toNat = false := by
    have hvalid : c.toNat < 0xD800 ∨ 0xDFFF < c.toNat ∧ c.toNat < 0x110000 := c.valid
    simp only [isHighSurrogate, Bool.and_eq_false_iff, decide_eq_false_iff_not]
    omega
  rw [scalar, run_bind_of_eq (run_unit h t), hlow, hhigh, Char.ofNat_toNat]
  rfl

theorem run_scalar_pair {es : List Char} {high low : Nat} (hhigh : high < 0x400)
    (hlow : low < 0x400) (hds : IsUnit ds (0xD800 + high)) (hes : IsUnit es (0xDC00 + low))
    (hc : c.toNat = 0x10000 + high * 0x400 + low) (t : List Char) :
    scalar.run (ds ++ '\\' :: 'u' :: (es ++ t)) = .ok (c, t) := by
  have hfirst : isLowSurrogate (0xD800 + high) = false ∧
      isHighSurrogate (0xD800 + high) = true := by
    simp only [isLowSurrogate, isHighSurrogate, Bool.and_eq_false_iff, decide_eq_false_iff_not,
      Bool.and_eq_true, decide_eq_true_eq]
    omega
  have hsecond : isLowSurrogate (0xDC00 + low) = true := by
    simp only [isLowSurrogate, Bool.and_eq_true, decide_eq_true_eq]
    omega
  have hchar : Char.ofNat (0x10000 + (0xD800 + high - 0xD800) * 0x400 + (0xDC00 + low - 0xDC00)) =
      c := by
    rw [Nat.add_sub_cancel_left, Nat.add_sub_cancel_left, ← hc, Char.ofNat_toNat]
  rw [scalar, run_bind_of_eq (run_unit hds _), hfirst.1, hfirst.2]
  refine (run_bind_of_eq (run_expectAll ['\\', 'u'] (es ++ t)) _).trans ?_
  refine (run_bind_of_eq (run_unit hes t) _).trans ?_
  rw [if_pos hsecond, hchar]
  rfl

theorem run_charsFrom_spelled (h : SpellsChar c piece) (done t : List Char) :
    run (charsFrom scalar done) (piece ++ t) = run (charsFrom scalar (c :: done)) t := by
  cases h with
  | plain hquote hslash hc => exact run_charsFrom_plain hquote hslash hc
  | short h => exact run_charsFrom_escape (run_escape_short scalar h t)
  | unit h => exact run_charsFrom_escape ((run_escape_u scalar _).trans (run_scalar_unit h t))
  | pair hhigh hlow hds hes hc =>
    simp only [List.cons_append, List.append_assoc]
    apply run_charsFrom_escape
    exact (run_escape_u scalar _).trans (run_scalar_pair hhigh hlow hds hes hc t)

theorem run_charsFrom_flatten {chars : List Char} {pieces : List (List Char)}
    (h : List.Forall₂ SpellsChar chars pieces) (done t : List Char) :
    run (charsFrom scalar done) (pieces.flatten ++ '"' :: t) = .ok (done.reverse ++ chars, t) := by
  induction h generalizing done with
  | nil => simpa using run_charsFrom_quote scalar done t
  | cons hc _ ih =>
    rw [List.flatten_cons, List.append_assoc, run_charsFrom_spelled hc, ih]
    simp

/-- A string is read however its characters are written. -/
theorem run_body_spelled {k : List Char} (h : SpellsText s k) (t : List Char) :
    body.run (k ++ '"' :: t) = .ok (s, t) := by
  obtain ⟨pieces, hpieces, rfl⟩ := h
  obtain ⟨hle, hread⟩ := exists_eq_ok_of_run (run_charsFrom_flatten hpieces [] t)
  unfold run
  rw [body, hread]
  simp [Except.map]

theorem spellsChar_escapeChar (c : Char) : SpellsChar c (escapeChar c) := by
  unfold escapeChar
  split
  case h_8 =>
    split
    case isTrue hc =>
      have hlt : c.toNat < 32 := hc
      refine .unit ⟨rfl, List.cons_ne_nil _ _, [0, 0, c.toNat / 16, c.toNat % 16], ?_, ?_⟩
      · refine .cons ⟨?_, .inl rfl⟩ (.cons ⟨?_, .inl rfl⟩ (.cons ⟨?_, .inl rfl⟩
          (.cons ⟨?_, .inl rfl⟩ .nil))) <;> omega
      · simp only [List.reverse_cons, List.reverse_nil, List.nil_append, List.cons_append,
          Nat.ofDigits_cons, Nat.ofDigits_nil]
        omega
    case isFalse hc => exact .plain ‹_› ‹_› hc
  all_goals exact .short (by decide)

theorem forall₂_map_escapeChar (cs : List Char) :
    List.Forall₂ SpellsChar cs (cs.map escapeChar) := by
  apply List.forall₂_map_right_iff.mpr
  exact List.forall₂_same.mpr fun c _ ↦ spellsChar_escapeChar c

theorem spellsText_flatMap (s : String) : SpellsText s (s.toList.flatMap escapeChar) :=
  ⟨s.toList.map escapeChar, forall₂_map_escapeChar s.toList, List.flatMap_def⟩

theorem write_append (s : String) (rest : List Char) :
    write s ++ rest = '"' :: (s.toList.flatMap escapeChar ++ '"' :: rest) := by
  simp [write]

theorem run_body (s : String) (t : List Char) :
    body.run (s.toList.flatMap escapeChar ++ '"' :: t) = .ok (s, t) :=
  run_body_spelled (spellsText_flatMap s) t

end Quoted

/-- The reader takes `a` from the text, in front of all that may stand behind a value. -/
def Reads {α : Type} (r : Reader α) (text : List Char) (a : α) : Prop :=
  ∀ rest, Ended rest → r.run (text ++ rest) = .ok (a, rest)

namespace Codec

theorem reads_readWord (w : UInt64) : Reads readWord (Nat.toDigits 10 w.toNat) w := by
  intro rest hrest
  obtain ⟨c, ds, hdigits⟩ :=
    List.exists_cons_of_ne_nil (Nat.toDigits_ne_nil (b := 10) (n := w.toNat))
  have hc : Numeral.isDigit c := Numeral.isDigit_of_mem_toDigits (n := w.toNat) (by simp [hdigits])
  have hblank : isBlank c = false := Numeral.isBlank_eq_false_of_isDigit hc
  have hword : Numeral.word? ⟨false, Nat.toDigits 10 w.toNat, [], none⟩ = some w := by
    have hlt : ¬UInt64.size ≤ w.toNat := Nat.not_le_of_lt w.toNat_lt
    simp [Numeral.word?, Numeral.value_toDigits, hlt]
  have hbegin : begin.run (Nat.toDigits 10 w.toNat ++ rest) =
      .ok (c, Nat.toDigits 10 w.toNat ++ rest) := by
    rw [hdigits]
    exact run_begin_cons hblank (ds ++ rest)
  rw [readWord, run_bind_of_eq hbegin, hc, Bool.or_true, if_pos rfl,
    run_bind_of_eq (Numeral.run_read_toDigits .endOfText w.toNat hrest), hword]
  rfl

theorem reads_readText (s : String) : Reads readText (Quoted.write s) s := by
  intro rest _
  rw [Quoted.write_append, readText, run_bind_of_eq (run_begin_cons (by decide) _), if_pos rfl,
    run_bind_of_eq (run_skip '"' _), Quoted.run_body]

end Codec

end StackDepth.Json
