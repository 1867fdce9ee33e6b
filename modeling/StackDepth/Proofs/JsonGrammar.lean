import StackDepth.Json.Skim
import StackDepth.Proofs.JsonScalar

namespace StackDepth.Json

open Reader

/-- What a text says. Numbers are kept as they are written, members in their order. -/
inductive Content where
  | literal (word : String)
  | number (digits : List Char)
  | text (s : String)
  | list (items : List Content)
  | object (members : List (String × Content))

def Blank (w : List Char) : Prop := ∀ c ∈ w, isBlank c

instance (w : List Char) : Decidable (Blank w) :=
  List.decidableBAll (isBlank ·) w

theorem blank_nil : Blank [] := by decide

def IsDigits (ds : List Char) : Prop := ds ≠ [] ∧ ∀ c ∈ ds, Numeral.isDigit c

instance (ds : List Char) : Decidable (IsDigits ds) :=
  @instDecidableAnd _ _ _ (List.decidableBAll (Numeral.isDigit ·) ds)

def IsFraction (s : List Char) : Prop :=
  s = [] ∨ ∃ ds, IsDigits ds ∧ s = '.' :: ds

def IsExponent (s : List Char) : Prop :=
  s = [] ∨ ∃ e sign ds, e ∈ ['e', 'E'] ∧ sign ∈ [[], ['-'], ['+']] ∧ IsDigits ds ∧
    s = e :: (sign ++ ds)

/-- A sign, digits of which the first is no zero unless it is the only one, a fraction and an
exponent. -/
def IsNumber (s : List Char) : Prop :=
  ∃ sign whole fraction exponent, sign ∈ [[], ['-']] ∧ IsDigits whole ∧
    (whole.head? = some '0' → whole = ['0']) ∧ IsFraction fraction ∧ IsExponent exponent ∧
    s = sign ++ (whole ++ (fraction ++ exponent))

/-- What a part of a text may be. An element is a value between blanks. -/
inductive Phrase where
  | value (v : Content)
  | element (v : Content)
  | elements (vs : List Content)
  | member (m : String × Content)
  | members (ms : List (String × Content))

inductive Spells : Phrase → List Char → Prop
  | literal {word : String} (h : word ∈ ["null", "true", "false"]) :
      Spells (.value (.literal word)) word.toList
  | number {s : List Char} (h : IsNumber s) : Spells (.value (.number s)) s
  | text {s : String} {t : List Char} (h : SpellsText s t) :
      Spells (.value (.text s)) ('"' :: (t ++ ['"']))
  | emptyList {w : List Char} (hw : Blank w) : Spells (.value (.list [])) ('[' :: (w ++ [']']))
  | list {vs : List Content} {s : List Char} (h : Spells (.elements vs) s) :
      Spells (.value (.list vs)) ('[' :: (s ++ [']']))
  | emptyObject {w : List Char} (hw : Blank w) :
      Spells (.value (.object [])) ('\x7b' :: (w ++ ['\x7d']))
  | object {ms : List (String × Content)} {s : List Char} (h : Spells (.members ms) s) :
      Spells (.value (.object ms)) ('\x7b' :: (s ++ ['\x7d']))
  | element {v : Content} {w w' s : List Char} (hw : Blank w) (hw' : Blank w')
      (h : Spells (.value v) s) : Spells (.element v) (w ++ (s ++ w'))
  | oneElement {v : Content} {s : List Char} (h : Spells (.element v) s) : Spells (.elements [v]) s
  | moreElements {v : Content} {vs : List Content} {s t : List Char} (h : Spells (.element v) s)
      (hs : Spells (.elements vs) t) : Spells (.elements (v :: vs)) (s ++ ',' :: t)
  | member {key : String} {v : Content} {w w' k s : List Char} (hw : Blank w) (hw' : Blank w')
      (hkey : SpellsText key k) (h : Spells (.element v) s) :
      Spells (.member (key, v)) (w ++ '"' :: (k ++ '"' :: (w' ++ ':' :: s)))
  | oneMember {m : String × Content} {s : List Char} (h : Spells (.member m) s) :
      Spells (.members [m]) s
  | moreMembers {m : String × Content} {ms : List (String × Content)} {s t : List Char}
      (h : Spells (.member m) s) (hs : Spells (.members ms) t) :
      Spells (.members (m :: ms)) (s ++ ',' :: t)

namespace Quoted

variable {c : Char} {piece : List Char} {s : String}

/-- Passing over a string, the two units of a pair are passed over one by one. -/
theorem exists_run_charsFrom_skim (h : SpellsChar c piece) (done t : List Char) :
    ∃ done', run (charsFrom (Char.ofNat <$> unit) done) (piece ++ t) =
      run (charsFrom (Char.ofNat <$> unit) done') t := by
  have hunit : ∀ {ds n} (done t : List Char), IsUnit ds n →
      run (charsFrom (Char.ofNat <$> unit) done) ('\\' :: 'u' :: (ds ++ t)) =
        run (charsFrom (Char.ofNat <$> unit) (Char.ofNat n :: done)) t := by
    intro ds n done t h
    apply run_charsFrom_escape
    exact (run_escape_u _ _).trans (run_map_of_eq (run_unit h t) Char.ofNat)
  cases h with
  | plain hquote hslash hc => exact ⟨_, run_charsFrom_plain hquote hslash hc⟩
  | short h => exact ⟨_, run_charsFrom_escape (run_escape_short _ h t)⟩
  | unit h => exact ⟨_, hunit done t h⟩
  | pair _ _ hds hes _ =>
    simp only [List.cons_append, List.append_assoc]
    exact ⟨_, (hunit done _ hds).trans (hunit _ t hes)⟩

theorem exists_run_charsFrom_skim_flatten {chars : List Char} {pieces : List (List Char)}
    (h : List.Forall₂ SpellsChar chars pieces) (done t : List Char) :
    ∃ cs, run (charsFrom (Char.ofNat <$> unit) done) (pieces.flatten ++ '"' :: t) =
      .ok (cs, t) := by
  induction h generalizing done with
  | nil => exact ⟨_, run_charsFrom_quote _ done t⟩
  | @cons c piece chars pieces hc _ ih =>
    obtain ⟨done', hpiece⟩ := exists_run_charsFrom_skim hc done (pieces.flatten ++ '"' :: t)
    rw [List.flatten_cons, List.append_assoc, hpiece]
    exact ih done'

theorem run_skim_spelled {k : List Char} (h : SpellsText s k) (t : List Char) :
    skim.run (k ++ '"' :: t) = .ok ((), t) := by
  obtain ⟨pieces, hpieces, rfl⟩ := h
  obtain ⟨chars, hrun⟩ := exists_run_charsFrom_skim_flatten hpieces [] t
  obtain ⟨hle, hread⟩ := exists_eq_ok_of_run hrun
  unfold run
  rw [skim, hread]
  rfl

end Quoted

namespace Numeral

variable {β : Type} {e : Fault} {s rest : List Char}

theorem run_optional_cons {p : Char → Bool} {c : Char} (hc : p c = true) (t : List Char) :
    (optional p).run (c :: t) = .ok (true, t) := by
  rw [optional, run_bind_of_eq (run_peek? _)]
  simp only [List.head?_cons, hc, if_true]
  rfl

theorem beq_eq_false_of_isDigit {c d : Char} (hc : isDigit c) (hd : isDigit d = false) :
    (c == d) = false := by
  rw [beq_eq_false_iff_ne]
  rintro rfl
  rw [hc] at hd
  cases hd

theorem ne_of_starts {c d : Char} (hc : c = '-' ∨ isDigit c) (hd : isDigit d = false)
    (hd' : d ≠ '-') : c ≠ d := by
  rcases hc with rfl | hc
  · exact hd'.symm
  · exact ne_of_beq_false (beq_eq_false_of_isDigit hc hd)

theorem isDigit_of_head? {ds : List Char} (h : IsDigits ds) {c : Char}
    (hc : c ∈ (ds ++ rest).head?) : isDigit c := by
  rw [List.head?_append_of_ne_nil _ h.1] at hc
  exact h.2 c (List.mem_of_mem_head? hc)

theorem run_digits_spelled {ds : List Char} (h : IsDigits ds)
    (hrest : ∀ c ∈ rest.head?, isDigit c = false) : (digits e).run (ds ++ rest) = .ok (ds, rest) :=
  run_digits h.2 h.1 hrest

theorem exists_run_sign {sign ds : List Char} (hsign : sign ∈ [[], ['-']]) (hds : IsDigits ds)
    (rest : List Char) :
    ∃ negative, (optional (· == '-')).run (sign ++ (ds ++ rest)) = .ok (negative, ds ++ rest) := by
  rcases List.mem_pair.mp hsign with rfl | rfl
  · refine ⟨false, run_optional fun c hc ↦ ?_⟩
    exact beq_eq_false_of_isDigit (isDigit_of_head? hds hc) (by decide)
  · exact ⟨true, run_optional_cons rfl _⟩

theorem exists_run_fraction (h : IsFraction s)
    (hrest : ∀ c ∈ rest.head?, isDigit c = false ∧ (c == '.') = false) :
    ∃ ds, ∀ k : List Char → Reader β,
      (do
        let fraction ← if ← optional (· == '.') then digits e else pure []
        k fraction : Reader β).run (s ++ rest) = (k ds).run rest := by
  rcases h with rfl | ⟨ds, hds, rfl⟩
  · refine ⟨[], fun k ↦ ?_⟩
    refine (run_bind_of_eq (run_optional fun c hc ↦ (hrest c hc).2) _).trans ?_
    exact run_bind_of_eq (run_pure [] rest) _
  · refine ⟨ds, fun k ↦ ?_⟩
    refine (run_bind_of_eq (run_optional_cons rfl (ds ++ rest)) _).trans ?_
    exact run_bind_of_eq (run_digits_spelled hds fun c hc ↦ (hrest c hc).1) _

theorem exists_run_exponentSign {sign ds : List Char} (hsign : sign ∈ [[], ['-'], ['+']])
    (hds : IsDigits ds) (rest : List Char) : ∃ down, ∀ k : Bool → Reader β,
      (do
        let down ← optional (· == '-')
        if !down then
          let _ ← optional (· == '+')
        k down : Reader β).run (sign ++ (ds ++ rest)) = (k down).run (ds ++ rest) := by
  have hhead : ∀ d, isDigit d = false → ∀ c ∈ (ds ++ rest).head?, (c == d) = false :=
    fun d hd c hc ↦ beq_eq_false_of_isDigit (isDigit_of_head? hds hc) hd
  simp only [List.mem_cons, List.not_mem_nil, or_false] at hsign
  rcases hsign with rfl | rfl | rfl
  · refine ⟨false, fun k ↦ (run_bind_of_eq (run_optional (hhead '-' (by decide))) _).trans ?_⟩
    exact run_bind_of_eq (run_optional (hhead '+' (by decide))) _
  · exact ⟨true, fun k ↦ run_bind_of_eq (run_optional_cons rfl (ds ++ rest)) _⟩
  · have hminus : (optional (· == '-')).run ('+' :: (ds ++ rest)) =
        .ok (false, '+' :: (ds ++ rest)) := run_optional (by simp)
    refine ⟨false, fun k ↦ (run_bind_of_eq hminus _).trans ?_⟩
    exact run_bind_of_eq (run_optional_cons rfl (ds ++ rest)) _

theorem exists_run_exponent (h : IsExponent s) (hrest : Ended rest) :
    ∃ exponent, ∀ k : Option (Bool × List Char) → Reader β,
      (do
        let exponent ←
          if ← optional (fun c ↦ c == 'e' || c == 'E') then do
            let down ← optional (· == '-')
            if !down then
              let _ ← optional (· == '+')
            pure (some (down, ← digits e))
          else pure none
        k exponent : Reader β).run (s ++ rest) = (k exponent).run rest := by
  have hstop := head?_of_ended hrest
  rcases h with rfl | ⟨letter, sign, ds, hletter, hsign, hds, rfl⟩
  · refine ⟨none, fun k ↦ ?_⟩
    refine (run_bind_of_eq (run_optional fun c hc ↦ (hstop c hc).2.2) _).trans ?_
    exact run_bind_of_eq (run_pure none rest) _
  · have hletter : (letter == 'e' || letter == 'E') = true := by simpa using hletter
    obtain ⟨down, hdown⟩ := exists_run_exponentSign (β := β) hsign hds rest
    refine ⟨some (down, ds), fun k ↦ ?_⟩
    rw [List.cons_append, List.append_assoc]
    refine (run_bind_of_eq (run_optional_cons hletter _) _).trans ((hdown _).trans ?_)
    refine (run_bind_of_eq (run_digits_spelled hds fun c hc ↦ (hstop c hc).1) _).trans ?_
    exact run_bind_of_eq (run_pure _ rest) _

theorem head?_exponent (h : IsExponent s) (hrest : Ended rest) :
    ∀ c ∈ (s ++ rest).head?, isDigit c = false ∧ (c == '.') = false := by
  rcases h with rfl | ⟨letter, sign, ds, hletter, -, -, rfl⟩
  · exact fun c hc ↦ ⟨(head?_of_ended hrest c hc).1, (head?_of_ended hrest c hc).2.1⟩
  · intro c hc
    obtain rfl : letter = c := Option.some.inj hc
    rcases List.mem_pair.mp hletter with rfl | rfl <;> decide

theorem head?_fraction (h : IsFraction s) (hrest : ∀ c ∈ rest.head?, isDigit c = false) :
    ∀ c ∈ (s ++ rest).head?, isDigit c = false := by
  rcases h with rfl | ⟨ds, -, rfl⟩
  · exact hrest
  · intro c hc
    obtain rfl : '.' = c := Option.some.inj hc
    decide

theorem exists_run_read (e : Fault) (h : IsNumber s) (hrest : Ended rest) :
    ∃ n, (read e).run (s ++ rest) = .ok (n, rest) := by
  obtain ⟨sign, whole, fraction, exponent, hsign, hwhole, hzero, hfraction, hexponent, rfl⟩ := h
  -- Each part stops before the next one, whether this is there or not.
  have hend := head?_exponent hexponent hrest
  have hpoint := head?_fraction hfraction fun c hc ↦ (hend c hc).1
  have hlead : ¬(whole.head? = some '0' ∧ 1 < whole.length) := by
    intro h
    rw [hzero h.1] at h
    exact absurd h.2 (by decide)
  obtain ⟨negative, hnegative⟩ := exists_run_sign hsign hwhole (fraction ++ (exponent ++ rest))
  obtain ⟨ds, hds⟩ := exists_run_fraction (β := Numeral) (e := e) hfraction hend
  obtain ⟨x, hx⟩ := exists_run_exponent (β := Numeral) (e := e) hexponent hrest
  refine ⟨⟨negative, whole, ds, x⟩, ?_⟩
  simp only [List.append_assoc]
  rw [read, run_bind_of_eq hnegative, run_bind_of_eq (run_digits_spelled hwhole hpoint),
    if_neg hlead]
  exact (hds _).trans (hx _)

end Numeral

def Content.Begins : Content → Char → Prop
  | .literal _, c => (literalRest? c).isSome
  | .number _, c => c = '-' ∨ Numeral.isDigit c
  | .text _, c => c = '"'
  | .list _, c => c = '['
  | .object _, c => c = '\x7b'

theorem Numeral.exists_cons_of_isNumber {s : List Char} (h : IsNumber s) :
    ∃ c t, s = c :: t ∧ (c = '-' ∨ isDigit c) := by
  obtain ⟨sign, whole, fraction, exponent, hsign, hwhole, -, -, -, rfl⟩ := h
  obtain ⟨c, t, rfl⟩ := List.exists_cons_of_ne_nil hwhole.1
  rcases List.mem_pair.mp hsign with rfl | rfl
  · exact ⟨c, _, rfl, .inr (hwhole.2 c List.mem_cons_self)⟩
  · exact ⟨'-', _, rfl, .inl rfl⟩

theorem Spells.exists_begins {v : Content} {s : List Char} (h : Spells (.value v) s) :
    ∃ c t, s = c :: t ∧ v.Begins c := by
  cases h with
  | literal h =>
    simp only [List.mem_cons, List.not_mem_nil, or_false] at h
    rcases h with rfl | rfl | rfl <;> exact ⟨_, _, rfl, rfl⟩
  | number h => exact Numeral.exists_cons_of_isNumber h
  | text _ => exact ⟨_, _, rfl, rfl⟩
  | emptyList _ => exact ⟨_, _, rfl, rfl⟩
  | list _ => exact ⟨_, _, rfl, rfl⟩
  | emptyObject _ => exact ⟨_, _, rfl, rfl⟩
  | object _ => exact ⟨_, _, rfl, rfl⟩

namespace Content.Begins

variable {v : Content} {c : Char}

theorem isBlank_eq_false (h : v.Begins c) : isBlank c = false := by
  rw [← Bool.not_eq_true]
  intro hblank
  simp only [isBlank, Bool.or_eq_true, beq_iff_eq] at hblank
  rcases hblank with ((rfl | rfl) | rfl) | rfl <;> cases v <;> revert h <;> simp [Begins] <;> decide

theorem ne_close (h : v.Begins c) : c ≠ ']' := by
  rintro rfl
  cases v <;> revert h <;> simp [Begins] <;> decide

end Content.Begins

end StackDepth.Json
