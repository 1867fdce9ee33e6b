import StackDepth.Proofs.JsonSkim

namespace StackDepth.Json

namespace Reader

variable {α β : Type} {r : Reader α} {a : α} {s t : List Char}

/-- What is read, and the rest of the text. Which fault there is does not matter. -/
def run? (r : Reader α) (s : List Char) : Option (α × List Char) :=
  (r.run s).toOption

theorem toOption_eq_some_iff {x : Except Fault α} : x.toOption = some a ↔ x = .ok a := by
  cases x <;> simp [Except.toOption]

theorem run?_of_eq (h : r.run s = .ok (a, t)) : r.run? s = some (a, t) := by
  rw [run?, h]
  rfl

theorem run?_congr {r' : Reader α} (h : r.run s = r'.run t) : r.run? s = r'.run? t := by
  rw [run?, h, run?]

theorem run?_bind (r : Reader α) (f : α → Reader β) (s : List Char) :
    (r >>= f).run? s = (r.run? s).bind fun a ↦ (f a.1).run? a.2 := by
  rw [run?, run_bind, run?]
  cases r.run s <;> rfl

theorem run?_bind_of_eq (h : r.run s = .ok (a, t)) (f : α → Reader β) :
    (r >>= f).run? s = (f a).run? t := by
  rw [run?_bind, run?_of_eq h]
  rfl

theorem run?_bind_map {f : α → Reader β} {x : Option α} {y : α → Option β} {rest : List Char}
    (hr : r.run? s = x.map (·, t)) (hf : ∀ a, (f a).run? t = (y a).map (·, rest)) :
    (r >>= f).run? s = (x.bind y).map (·, rest) := by
  rw [run?_bind, hr]
  cases x with
  | none => rfl
  | some a => exact hf a

@[simp]
theorem run?_map (f : α → β) (r : Reader α) (s : List Char) :
    (f <$> r).run? s = (r.run? s).map fun a ↦ (f a.1, a.2) := by
  change (r >>= fun a ↦ pure (f a)).run? s = _
  rw [run?_bind]
  cases r.run? s <;> rfl

theorem run?_bind_eq_none {f : α → Reader β} (h : ∀ a t, (f a).run? t = none) :
    (r >>= f).run? s = none := by
  rw [run?_bind]
  cases r.run? s with
  | none => rfl
  | some a => exact h a.1 a.2

/-- A whole text gives the value before its last blanks. -/
theorem toOption_document {x : Option α} {w : List Char} {text : String} (hw : Blank w)
    (h : r.run? text.toList = x.map (·, w)) : (r.document text).toOption = x := by
  have hend : w.dropWhile isBlank = [] := List.dropWhile_eq_nil_iff.mpr hw
  have hfst : ∀ y : Except Fault (α × List Char),
      (y.map Prod.fst).toOption = y.toOption.map Prod.fst := by
    intro y
    cases y <;> rfl
  rw [document, map_value_eq, hfst, ← run?, run?_bind, h]
  cases x with
  | none => rfl
  | some a =>
    change Option.map Prod.fst (Reader.run? _ w) = some a
    rw [run?_bind_of_eq (run_blanks w), hend]
    rfl

end Reader

open Reader

variable {α : Type} {v : Content} {w s t rest : List Char}

theorem run?_wrongShape (s : List Char) : (wrongShape : Reader α).run? s = none := by
  rw [wrongShape, run?_bind_of_eq (run_peek? s)]
  cases s.head? with
  | none => rfl
  | some c =>
    dsimp only
    split
    · apply run?_bind_eq_none
      intro _ t
      exact run?_bind_eq_none fun _ _ ↦ rfl
    · split_ifs
      · apply run?_bind_eq_none
        intro _ t
        exact run?_bind_eq_none fun _ _ ↦ rfl
      · exact run?_bind_eq_none fun _ _ ↦ rfl
      · rfl
      · rfl

namespace Content

def text? : Content → Option String
  | .text s => some s
  | _ => none

def list? (item : Content → Option α) : Content → Option (List α)
  | .list vs => vs.mapM item
  | _ => none

@[simp]
theorem text?_eq_some_iff {s : String} : v.text? = some s ↔ v = .text s := by
  cases v <;> simp [text?]

theorem list?_eq_some_iff {item : Content → Option α} {form : α → Content} {xs : List α}
    (h : ∀ {v a}, item v = some a ↔ v = form a) :
    v.list? item = some xs ↔ v = .list (xs.map form) := by
  cases v with
  | list vs =>
    rw [list?, Content.list.injEq, Text.mapM_eq_some_iff]
    simp only [h]
    rw [← List.forall₂_map_right_iff, List.forall₂_eq_eq_eq]
  | literal => simp [list?]
  | number => simp [list?]
  | text => simp [list?]
  | object => simp [list?]

def opening? : Content → Option Char
  | .text _ => some '"'
  | .list _ => some '['
  | .object _ => some '\x7b'
  | _ => none

theorem Begins.eq_iff {c d : Char} (h : v.Begins c) (hd : d ∈ ['"', '[', '\x7b']) :
    c = d ↔ v.opening? = some d := by
  cases v with
  | literal word =>
    simp only [List.mem_cons, List.not_mem_nil, or_false] at hd
    simp only [opening?, reduceCtorEq, iff_false]
    rintro rfl
    rcases hd with rfl | rfl | rfl <;> exact absurd h Bool.false_ne_true
  | number ds =>
    simp only [opening?, reduceCtorEq, iff_false]
    simp only [List.mem_cons, List.not_mem_nil, or_false] at hd
    apply Numeral.ne_of_starts h <;> rcases hd with rfl | rfl | rfl <;> decide
  | text s => rw [show c = '"' from h, opening?, Option.some.injEq]
  | list vs => rw [show c = '[' from h, opening?, Option.some.injEq]
  | object ms => rw [show c = '\x7b' from h, opening?, Option.some.injEq]

end Content

/-- A reader that goes on behind a quote or an opening bracket reads no other values. -/
theorem run?_opening {d : Char} (hd : d ∈ ['"', '[', '\x7b']) (hw : Blank w)
    (h : Spells (.value v) s) (rest : List Char) (r : Reader α) :
    (begin >>= fun c ↦ if c = d then r else wrongShape).run? (w ++ (s ++ rest)) =
      if v.opening? = some d then r.run? (s ++ rest) else none := by
  obtain ⟨c, t, hbegin, hs, hc⟩ := h.exists_dropWhile_value hw rest
  rw [run?_bind_of_eq (run_begin hbegin), ← hs, if_congr (hc.eq_iff hd) rfl rfl]
  split_ifs
  · rfl
  · exact run?_wrongShape _

namespace Codec

/-- The codec reads what `view` sees in a value, and nothing where it sees nothing. -/
def ReadsAs (c : Codec α) (view : Content → Option α) : Prop :=
  ∀ {v w s rest}, Blank w → Spells (.value v) s → Ended rest →
    c.read.run? (w ++ (s ++ rest)) = (view v).map (·, rest)

theorem ReadsAs.run?_map {β : Type} {c : Codec α} {view : Content → Option α} (h : c.ReadsAs view)
    (f : α → β) (hw : Blank w) (hs : Spells (.value v) s) (hrest : Ended rest) :
    (f <$> c.read).run? (w ++ (s ++ rest)) = ((view v).map f).map (·, rest) := by
  rw [Reader.run?_map, h hw hs hrest]
  cases view v <;> rfl

theorem readsAs_text : text.ReadsAs Content.text? := by
  intro v w s rest hw h hrest
  refine (run?_opening (by decide) hw h rest _).trans ?_
  cases h with
  | text hx =>
    rw [if_pos (by rfl)]
    simp only [List.cons_append, List.append_assoc, List.nil_append]
    rw [run?_bind_of_eq (run_skip _ _), run?_of_eq (Quoted.run_body_spelled hx rest)]
    rfl
  | literal => rfl
  | number => rfl
  | emptyList => rfl
  | list => rfl
  | emptyObject => rfl
  | object => rfl

section List

variable {read : Reader α} {view : Content → Option α} {item : Codec α} {done : List α}

theorem run_itemsAfter_blank (hw : Blank w) (s : List Char) :
    run (itemsAfter read done) (w ++ s) = run (itemsAfter read done) s := by
  rw [run_itemsAfter_eq, run_itemsAfter_eq read done s, dropWhile_blank hw]

theorem run?_element (hitem : item.ReadsAs view) (h : Spells (.element v) s) (ht : Ended t)
    {next : α → Option (List α)}
    (hnext : ∀ a, run? (itemsAfter item.read (a :: done)) t = (next a).map (·, rest)) :
    (item.read >>= fun a ↦ itemsAfter item.read (a :: done) : Reader (List α)).run? (s ++ t) =
      ((view v).bind next).map (·, rest) := by
  cases h with
  | element hw hw' h =>
    simp only [List.append_assoc]
    apply run?_bind_map (hitem hw h (ended_blank hw' ht))
    intro a
    exact (run?_congr (run_itemsAfter_blank hw' t)).trans (hnext a)

theorem run?_elements (hitem : item.ReadsAs view) {vs : List Content}
    (h : Spells (.elements vs) s) (done : List α) (rest : List Char) :
    (item.read >>= fun a ↦ itemsAfter item.read (a :: done) : Reader (List α)).run?
        (s ++ ']' :: rest) = ((vs.mapM view).map (done.reverse ++ ·)).map (·, rest) := by
  -- The items read so far are kept with the last one first.
  induction vs generalizing s done with
  | nil => cases h
  | cons v vs ih =>
    have hsplit : ((v :: vs).mapM view).map (done.reverse ++ ·) =
        (view v).bind fun a ↦ (vs.mapM view).map ((a :: done).reverse ++ ·) := by
      rw [List.mapM_cons]
      cases view v <;> cases vs.mapM view <;> simp
    rw [hsplit]
    cases h with
    | oneElement h =>
      apply run?_element hitem h (ended_cons (by decide) rest)
      intro a
      refine (run?_of_eq (run_itemsAfter_close _ _ rest)).trans ?_
      simp
    | moreElements h ht =>
      obtain ⟨c, u, -, hc, hbegin⟩ := ht.exists_elements_cons
      rw [List.append_assoc, List.cons_append]
      apply run?_element hitem h (ended_cons (by decide) _)
      intro a
      exact (run?_congr (run_itemsAfter_next (hbegin _) hc)).trans (ih ht (a :: done))

theorem run?_items_empty (read : Reader α) (hw : Blank w) (rest : List Char) :
    (items read).run? (w ++ ']' :: rest) = some ([], rest) := by
  rw [items, run?_bind_of_eq (run_begin_blank hw (by decide) rest), if_pos rfl,
    run?_bind_of_eq (run_skip _ rest)]
  rfl

theorem run?_items (hitem : item.ReadsAs view) {vs : List Content}
    (h : Spells (.elements vs) s) (rest : List Char) :
    (items item.read).run? (s ++ ']' :: rest) = (vs.mapM view).map (·, rest) := by
  obtain ⟨c, t, ht, hc, hbegin⟩ := h.exists_elements_cons
  rw [items, run?_bind_of_eq (run_begin (hbegin _)), if_neg hc]
  refine (run?_elements hitem ht [] rest).trans ?_
  simp

theorem readsAs_list (hitem : item.ReadsAs view) : (list item).ReadsAs (Content.list? view) := by
  intro v w s rest hw h hrest
  refine (run?_opening (by decide) hw h rest _).trans ?_
  cases h with
  | emptyList hw' =>
    rw [if_pos (by rfl)]
    simp only [List.cons_append, List.append_assoc, List.nil_append]
    rw [run?_bind_of_eq (run_skip _ _), run?_items_empty _ hw']
    rfl
  | list h =>
    rw [if_pos (by rfl)]
    simp only [List.cons_append, List.append_assoc, List.nil_append]
    rw [run?_bind_of_eq (run_skip _ _), run?_items hitem h]
    rfl
  | literal => rfl
  | number => rfl
  | text => rfl
  | emptyObject => rfl
  | object => rfl

end List

end Codec

end StackDepth.Json
