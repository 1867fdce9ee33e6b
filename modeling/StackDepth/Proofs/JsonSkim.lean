import StackDepth.Proofs.JsonGrammar
import StackDepth.Proofs.JsonShape

namespace StackDepth.Json

open Reader

variable {w s t rest : List Char} {opened : List Bracket}

theorem dropWhile_blank (hw : Blank w) (s : List Char) :
    (w ++ s).dropWhile isBlank = s.dropWhile isBlank :=
  List.dropWhile_append_of_pos hw

theorem ended_blank (hw : Blank w) (hrest : Ended rest) : Ended (w ++ rest) := by
  cases w with
  | nil => exact hrest
  | cons c w =>
    intro d hd
    obtain rfl : c = d := Option.some.inj hd
    exact .inl (hw c List.mem_cons_self)

theorem run_begin_blank {c : Char} (hw : Blank w) (hc : isBlank c = false) (s : List Char) :
    begin.run (w ++ c :: s) = .ok (c, c :: s) :=
  run_begin ((dropWhile_blank hw _).trans (dropWhile_isBlank_cons hc s))

theorem run_punctuation_blank {c : Char} (hw : Blank w) (hc : isBlank c = false) (s : List Char) :
    (punctuation c).run (w ++ c :: s) = .ok ((), s) := by
  rw [punctuation, run_bind_of_eq (run_blanks _), dropWhile_blank hw, dropWhile_isBlank_cons hc,
    run_expect]

/-- A member and all that follows it up to the ends of the brackets. -/
def skimMember (opened : List Bracket) : Reader Unit := do
  skimKey
  skimValue (.object :: opened)

theorem run_skimMember_of_error {e : Fault} (h : skimKey t = .error e) (opened : List Bracket) :
    (skimMember opened).run t = .error e :=
  run_bind_of_error h _

theorem run_skimMember_of_ok {r : Read Unit t} (h : skimKey t = .ok r) (opened : List Bracket) :
    (skimMember opened).run t = run (skimValue (.object :: opened)) r.rest :=
  run_bind_of_ok h _

theorem run_skimValue (opened : List Bracket) (s : List Char) :
    run (skimValue opened) s = match s.dropWhile isBlank with
      | [] => .error .endOfText
      | c :: t =>
        if c = '[' then
          match t.dropWhile isBlank with
          | ']' :: u => run (skimRest opened) u
          | _ => run (skimValue (.list :: opened)) t
        else if c = '\x7b' then
          match t.dropWhile isBlank with
          | '\x7d' :: u => run (skimRest opened) u
          | _ => (skimMember opened).run t
        else (skimScalar c >>= fun _ ↦ skimRest opened : Reader Unit).run (c :: t) := by
  unfold run
  rw [skimValue]
  split
  case h_1 hs =>
    simp only [hs]
    rfl
  case h_2 c t hs =>
    simp only [hs]
    split_ifs
    · split
      case h_1 ht => simp only [ht, map_widen]
      case h_2 => simp only [map_widen]
    · split
      case h_1 ht => simp only [ht, map_widen]
      case h_2 ht =>
        trans (skimMember opened).run t
        · cases hkey : skimKey t with
          | error e => exact (run_skimMember_of_error hkey opened).symm
          | ok r => exact (map_widen _ _).trans (run_skimMember_of_ok hkey opened).symm
        · split
          case h_1 u hu => exact absurd hu (ht u)
          case h_2 => rfl
    · cases hscalar : skimScalar c (c :: t) with
      | error e => exact (run_bind_of_error hscalar _).symm
      | ok r => exact (map_widen _ _).trans (run_bind_of_ok hscalar fun _ ↦ skimRest opened).symm

theorem run_skimRest (b : Bracket) (opened : List Bracket) (s : List Char) :
    run (skimRest (b :: opened)) s = match s.dropWhile isBlank with
      | [] => .error .endOfText
      | c :: t =>
        if c = ',' then
          match b with
          | .list => run (skimValue (.list :: opened)) t
          | .object => (skimMember opened).run t
        else if c = b.close then run (skimRest opened) t
        else .error .malformed := by
  unfold run
  rw [skimRest]
  split
  case h_1 hs =>
    simp only [hs]
    rfl
  case h_2 c t hs =>
    simp only [hs]
    split_ifs
    · cases b with
      | list => exact map_widen _ _
      | object =>
        cases hkey : skimKey t with
        | error e => exact (run_skimMember_of_error hkey opened).symm
        | ok r => exact (map_widen _ _).trans (run_skimMember_of_ok hkey opened).symm
    · exact map_widen _ _
    · rfl

theorem run_skimValue_blank (opened : List Bracket) (hw : Blank w) (s : List Char) :
    run (skimValue opened) (w ++ s) = run (skimValue opened) s := by
  rw [run_skimValue, run_skimValue opened s, dropWhile_blank hw]

theorem run_skimRest_blank (b : Bracket) (opened : List Bracket) (hw : Blank w) (s : List Char) :
    run (skimRest (b :: opened)) (w ++ s) = run (skimRest (b :: opened)) s := by
  rw [run_skimRest, run_skimRest b opened s, dropWhile_blank hw]

theorem run_skimRest_close (b : Bracket) (opened : List Bracket) (s : List Char) :
    run (skimRest (b :: opened)) (b.close :: s) = run (skimRest opened) s := by
  cases b <;> rw [run_skimRest, dropWhile_isBlank_cons (by decide)] <;> rfl

theorem run_skimRest_comma (b : Bracket) (opened : List Bracket) (s : List Char) :
    run (skimRest (b :: opened)) (',' :: s) = match b with
      | .list => run (skimValue (.list :: opened)) s
      | .object => (skimMember opened).run s := by
  rw [run_skimRest, dropWhile_isBlank_cons (by decide)]
  rfl

theorem run_skimMember_key {key : String} {w' k : List Char} (hw : Blank w) (hw' : Blank w')
    (hkey : SpellsText key k) (opened : List Bracket) (s : List Char) :
    (skimMember opened).run (w ++ '"' :: (k ++ '"' :: (w' ++ ':' :: s))) =
      run (skimValue (.object :: opened)) s := by
  have hrun : skimKey.run (w ++ '"' :: (k ++ '"' :: (w' ++ ':' :: s))) = .ok ((), s) := by
    rw [skimKey, run_bind_of_eq (run_punctuation_blank hw (by decide) _),
      run_bind_of_eq (Quoted.run_skim_spelled hkey _),
      run_punctuation_blank hw' (by decide)]
  exact run_bind_of_eq hrun _

theorem run_skimValue_emptyList (opened : List Bracket) (hw : Blank w) (rest : List Char) :
    run (skimValue opened) ('[' :: (w ++ ']' :: rest)) = run (skimRest opened) rest := by
  rw [run_skimValue, dropWhile_isBlank_cons (by decide)]
  simp only [dropWhile_blank hw, dropWhile_isBlank_cons (show isBlank ']' = false by decide)]
  rfl

theorem run_skimValue_emptyObject (opened : List Bracket) (hw : Blank w) (rest : List Char) :
    run (skimValue opened) ('\x7b' :: (w ++ '\x7d' :: rest)) = run (skimRest opened) rest := by
  rw [run_skimValue, dropWhile_isBlank_cons (by decide)]
  simp only [dropWhile_blank hw, dropWhile_isBlank_cons (show isBlank '\x7d' = false by decide)]
  rfl

theorem run_skimValue_list {c : Char} (hs : s.dropWhile isBlank = c :: t) (hc : c ≠ ']')
    (opened : List Bracket) :
    run (skimValue opened) ('[' :: s) = run (skimValue (.list :: opened)) s := by
  rw [run_skimValue, dropWhile_isBlank_cons (by decide)]
  simp only [hs, if_true]
  split
  case h_1 heq => exact absurd (List.cons.inj heq).1 hc
  case h_2 => rfl

theorem run_skimValue_object (hs : s.dropWhile isBlank = '"' :: t) (opened : List Bracket) :
    run (skimValue opened) ('\x7b' :: s) = (skimMember opened).run s := by
  rw [run_skimValue, dropWhile_isBlank_cons (by decide)]
  simp only [hs]
  rfl

theorem run_skimValue_scalar {c : Char} (hblank : isBlank c = false) (hlist : c ≠ '[')
    (hobject : c ≠ '\x7b') (h : (skimScalar c).run (c :: t) = .ok ((), rest)) :
    run (skimValue opened) (c :: t) = run (skimRest opened) rest := by
  rw [run_skimValue, dropWhile_isBlank_cons hblank]
  simp only [hlist, hobject, if_false]
  exact run_bind_of_eq h _

theorem run_skimValue_literal {word : String} (h : word ∈ ["null", "true", "false"])
    (opened : List Bracket) (rest : List Char) :
    run (skimValue opened) (word.toList ++ rest) = run (skimRest opened) rest := by
  simp only [List.mem_cons, List.not_mem_nil, or_false] at h
  rcases h with rfl | rfl | rfl
  · apply run_skimValue_scalar (c := 'n') (by decide) (by decide) (by decide)
    exact (run_bind_of_eq (run_skip _ _) _).trans (run_expectAll "ull".toList rest)
  · apply run_skimValue_scalar (c := 't') (by decide) (by decide) (by decide)
    exact (run_bind_of_eq (run_skip _ _) _).trans (run_expectAll "rue".toList rest)
  · apply run_skimValue_scalar (c := 'f') (by decide) (by decide) (by decide)
    exact (run_bind_of_eq (run_skip _ _) _).trans (run_expectAll "alse".toList rest)

theorem run_skimValue_text {x : String} (h : SpellsText x t) (opened : List Bracket)
    (rest : List Char) :
    run (skimValue opened) ('"' :: (t ++ '"' :: rest)) = run (skimRest opened) rest := by
  apply run_skimValue_scalar (by decide) (by decide) (by decide)
  exact (run_bind_of_eq (run_skip _ _) _).trans (Quoted.run_skim_spelled h rest)

theorem run_skimValue_number (h : IsNumber s) (opened : List Bracket) (hrest : Ended rest) :
    run (skimValue opened) (s ++ rest) = run (skimRest opened) rest := by
  obtain ⟨n, hn⟩ := Numeral.exists_run_read .malformed h hrest
  obtain ⟨c, t, rfl, hc⟩ := Numeral.exists_cons_of_isNumber h
  have hblank : isBlank c = false := Content.Begins.isBlank_eq_false (v := .number []) hc
  have hliteral : literalRest? c = none := by
    unfold literalRest?
    split <;> first | rfl | exact absurd rfl (Numeral.ne_of_starts hc (by decide) (by decide))
  have hnumber : (c = '-' || Numeral.isDigit c) = true := by simpa using hc
  apply run_skimValue_scalar hblank (Numeral.ne_of_starts hc (by decide) (by decide))
    (Numeral.ne_of_starts hc (by decide) (by decide))
  rw [skimScalar, hliteral]
  simp only [Numeral.ne_of_starts hc (show Numeral.isDigit '"' = false by decide) (by decide),
    if_false, hnumber, if_true]
  exact run_bind_of_eq hn _

/-- The text of a phrase is passed over, inside the brackets that are open around it. -/
def Skims : Phrase → List Char → Prop
  | .value _, s => ∀ opened rest, Ended rest →
      run (skimValue opened) (s ++ rest) = run (skimRest opened) rest
  | .element _, s => ∀ b opened rest, Ended rest →
      run (skimValue (b :: opened)) (s ++ rest) = run (skimRest (b :: opened)) rest
  | .elements _, s => ∀ opened rest,
      run (skimValue (.list :: opened)) (s ++ ']' :: rest) = run (skimRest opened) rest
  | .member _, s => ∀ opened rest, Ended rest →
      (skimMember opened).run (s ++ rest) = run (skimRest (.object :: opened)) rest
  | .members _, s => ∀ opened rest,
      (skimMember opened).run (s ++ '\x7d' :: rest) = run (skimRest opened) rest

theorem Spells.exists_dropWhile_value {v : Content} (h : Spells (.value v) s) (hw : Blank w)
    (rest : List Char) :
    ∃ c t, (w ++ (s ++ rest)).dropWhile isBlank = c :: t ∧ s ++ rest = c :: t ∧ v.Begins c := by
  obtain ⟨c, t, rfl, hc⟩ := h.exists_begins
  refine ⟨c, t ++ rest, ?_, rfl, hc⟩
  rw [dropWhile_blank hw, List.cons_append, dropWhile_isBlank_cons hc.isBlank_eq_false]

/-- What stands behind the blanks before an element is a text of the same element. -/
theorem Spells.exists_element_cons {v : Content} (h : Spells (.element v) s) :
    ∃ c t, Spells (.element v) (c :: t) ∧ c ≠ ']' ∧
      ∀ rest, (s ++ rest).dropWhile isBlank = c :: t ++ rest := by
  cases h with
  | @element _ w w' s hw hw' h =>
    obtain ⟨c, t, rfl, hc⟩ := h.exists_begins
    refine ⟨c, t ++ w', .element blank_nil hw' h, hc.ne_close, fun rest ↦ ?_⟩
    rw [List.append_assoc, dropWhile_blank hw]
    exact dropWhile_isBlank_cons hc.isBlank_eq_false _

theorem Spells.exists_elements_cons {vs : List Content} (h : Spells (.elements vs) s) :
    ∃ c t, Spells (.elements vs) (c :: t) ∧ c ≠ ']' ∧
      ∀ rest, (s ++ rest).dropWhile isBlank = c :: t ++ rest := by
  cases h with
  | oneElement h =>
    obtain ⟨c, t, h, hc, hs⟩ := h.exists_element_cons
    exact ⟨c, t, .oneElement h, hc, hs⟩
  | @moreElements _ _ _ u h hs =>
    obtain ⟨c, t, h, hc, hdrop⟩ := h.exists_element_cons
    refine ⟨c, t ++ ',' :: u, .moreElements h hs, hc, fun rest ↦ ?_⟩
    rw [List.append_assoc, hdrop]
    simp

theorem Spells.exists_dropWhile_member {m : String × Content} (h : Spells (.member m) s)
    (rest : List Char) : ∃ t, (s ++ rest).dropWhile isBlank = '"' :: t := by
  cases h with
  | member hw _ _ _ =>
    rw [List.append_assoc, dropWhile_blank hw]
    exact ⟨_, dropWhile_isBlank_cons (by decide) _⟩

theorem Spells.exists_dropWhile_members {ms : List (String × Content)} (h : Spells (.members ms) s)
    (rest : List Char) : ∃ t, (s ++ rest).dropWhile isBlank = '"' :: t := by
  cases h with
  | oneMember h => exact h.exists_dropWhile_member rest
  | moreMembers h _ =>
    rw [List.append_assoc]
    exact h.exists_dropWhile_member _

theorem Spells.skims {p : Phrase} (h : Spells p s) : Skims p s := by
  -- The brackets open around a phrase stay as they are, so they are any in the induction.
  induction h with
  | literal h => exact fun opened rest _ ↦ run_skimValue_literal h opened rest
  | number h => exact fun opened rest hrest ↦ run_skimValue_number h opened hrest
  | text h =>
    intro opened rest _
    simpa using run_skimValue_text h opened rest
  | emptyList hw =>
    intro opened rest _
    simpa using run_skimValue_emptyList opened hw rest
  | list h ih =>
    intro opened rest _
    obtain ⟨c, t, -, hc, hs⟩ := h.exists_elements_cons
    simp only [List.cons_append, List.append_assoc, List.nil_append]
    rw [run_skimValue_list (hs _) hc, ih]
  | emptyObject hw =>
    intro opened rest _
    simpa using run_skimValue_emptyObject opened hw rest
  | object h ih =>
    intro opened rest _
    obtain ⟨t, hs⟩ := h.exists_dropWhile_members ('\x7d' :: rest)
    simp only [List.cons_append, List.append_assoc, List.nil_append]
    rw [run_skimValue_object hs, ih]
  | element hw hw' _ ih =>
    intro b opened rest hrest
    simp only [List.append_assoc]
    rw [run_skimValue_blank _ hw, ih _ _ (ended_blank hw' hrest), run_skimRest_blank _ _ hw']
  | oneElement _ ih =>
    intro opened rest
    rw [ih _ _ _ (ended_cons (by decide) rest)]
    exact run_skimRest_close .list opened rest
  | moreElements _ _ ih ihs =>
    intro opened rest
    simp only [List.append_assoc, List.cons_append]
    rw [ih _ _ _ (ended_cons (by decide) _), run_skimRest_comma, ihs]
  | member hw hw' hkey _ ih =>
    intro opened rest hrest
    simp only [List.append_assoc, List.cons_append]
    rw [run_skimMember_key hw hw' hkey, ih _ _ _ hrest]
  | oneMember _ ih =>
    intro opened rest
    rw [ih _ _ (ended_cons (by decide) rest)]
    exact run_skimRest_close .object opened rest
  | moreMembers _ _ ih ihs =>
    intro opened rest
    simp only [List.append_assoc, List.cons_append]
    rw [ih _ _ (ended_cons (by decide) _), run_skimRest_comma]
    exact ihs opened rest

theorem run_skim {v : Content} (hw : Blank w) (h : Spells (.value v) s) (hrest : Ended rest) :
    skim.run (w ++ (s ++ rest)) = .ok ((), rest) := by
  refine (run_skimValue_blank [] hw _).trans ?_
  rw [h.skims [] rest hrest]
  unfold run
  rw [skimRest]
  rfl

end StackDepth.Json
