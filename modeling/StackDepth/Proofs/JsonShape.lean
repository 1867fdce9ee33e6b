import StackDepth.Json.Record
import StackDepth.Proofs.JsonScalar
import Mathlib.Data.List.Forall2

namespace StackDepth.Json

open Reader

namespace Value

@[simp]
theorem renderItems_cons (v : Value) (vs : List Value) :
    renderItems (v :: vs) = v.render ++ vs.flatMap fun v ↦ ',' :: v.render := by
  induction vs generalizing v with
  | nil => simp [renderItems]
  | cons w vs ih => rw [renderItems, ih, List.flatMap_cons, List.cons_append]; simp

def renderMember (m : String × Value) : List Char :=
  m.1.toList.flatMap Quoted.escapeChar ++ '"' :: ':' :: m.2.render

@[simp]
theorem renderMembers_cons (m : String × Value) (ms : List (String × Value)) :
    renderMembers (m :: ms) =
      '"' :: renderMember m ++ ms.flatMap fun m ↦ ',' :: '"' :: renderMember m := by
  induction ms generalizing m with
  | nil => simp [renderMembers, Quoted.write, renderMember]
  | cons w ms ih =>
    obtain ⟨key, v⟩ := m
    rw [renderMembers, ih]
    · simp [Quoted.write, renderMember]
    · simp

@[simp]
theorem render_list_append (vs : List Value) (rest : List Char) :
    (list vs).render ++ rest = '[' :: (renderItems vs ++ ']' :: rest) := by
  simp [render]

@[simp]
theorem render_object_append (ms : List (String × Value)) (rest : List Char) :
    (object ms).render ++ rest = '\x7b' :: (renderMembers ms ++ '\x7d' :: rest) := by
  simp [render]

theorem exists_render_cons (v : Value) :
    ∃ c t, v.render = c :: t ∧ isBlank c = false ∧ c ≠ ']' := by
  cases v with
  | number n =>
    obtain ⟨c, t, hdigits⟩ := List.exists_cons_of_ne_nil (Nat.toDigits_ne_nil (b := 10) (n := n))
    have hc : Numeral.isDigit c := Numeral.isDigit_of_mem_toDigits (n := n) (by simp [hdigits])
    refine ⟨c, t, by rw [render, hdigits], Numeral.isBlank_eq_false_of_isDigit hc, ?_⟩
    rintro rfl
    revert hc
    decide
  | text s => exact ⟨'"', _, by rw [render, Quoted.write, List.cons_append], by decide, by decide⟩
  | list vs => exact ⟨'[', _, by rw [render, List.cons_append], by decide, by decide⟩
  | object ms => exact ⟨'\x7b', _, by rw [render, List.cons_append], by decide, by decide⟩

/-- A value begins with a character that neither is skipped nor ends a list. -/
theorem exists_dropWhile_render (v : Value) (rest : List Char) : ∃ c u,
    v.render ++ rest = c :: u ∧ (v.render ++ rest).dropWhile isBlank = c :: u ∧ c ≠ ']' := by
  obtain ⟨c, t, hrender, hblank, hc⟩ := v.exists_render_cons
  refine ⟨c, t ++ rest, by rw [hrender, List.cons_append], ?_, hc⟩
  rw [hrender, List.cons_append, dropWhile_isBlank_cons hblank]

end Value

theorem ended_cons {c : Char} (hc : c ∈ [',', ']', '\x7d']) (t : List Char) : Ended (c :: t) := by
  intro d hd
  obtain rfl : c = d := Option.some.inj hd
  exact .inr (by simpa using hc)

/-- Each value of a list or of an object stands before a comma or the closing bracket. -/
theorem ended_flatMap {β : Type} (text : β → List Char) (xs : List β) {c : Char}
    (hc : c ∈ [',', ']', '\x7d']) (t : List Char) :
    Ended ((xs.flatMap fun x ↦ ',' :: text x) ++ c :: t) := by
  cases xs with
  | nil => exact ended_cons hc t
  | cons x xs => exact ended_cons (by decide) _

theorem ended_items (vs : List Value) (t : List Char) :
    Ended ((vs.flatMap fun v ↦ ',' :: v.render) ++ ']' :: t) :=
  ended_flatMap _ vs (by decide) t

theorem ended_members (ms : List (String × Value)) (t : List Char) :
    Ended ((ms.flatMap fun m ↦ ',' :: '"' :: Value.renderMember m) ++ '\x7d' :: t) :=
  ended_flatMap _ ms (by decide) t

namespace Codec

variable {α : Type} {read : Reader α} {done : List α} {s t : List Char} {a : α}

theorem run_itemsAfter_eq (read : Reader α) (done : List α) (s : List Char) :
    run (itemsAfter read done) s = match s.dropWhile isBlank with
      | [] => .error .endOfText
      | c :: t =>
        if c = ']' then .ok (done.reverse, t)
        else if c = ',' then
          if t.dropWhile isBlank = [] then .error .endOfText
          else if (t.dropWhile isBlank).head? = some ']' then .error .malformed
          else (read >>= fun a ↦ itemsAfter read (a :: done) : Reader (List α)).run t
        else .error .malformed := by
  unfold run
  rw [itemsAfter]
  split
  case h_1 hs =>
    simp only [hs]
    rfl
  case h_2 c t hs =>
    simp only [hs]
    split_ifs with _ _ hempty hhead
    · rfl
    · simp only [hempty]
      rfl
    · obtain ⟨u, hu⟩ := List.head?_eq_some_iff.mp hhead
      simp only [hu]
      rfl
    · split
      case h_1 ht => exact absurd ht hempty
      case h_2 ht => exact absurd (by rw [ht]; rfl) hhead
      case h_3 =>
        cases hread : read t with
        | error e => exact (run_bind_of_error hread _).symm
        | ok r =>
          exact (map_widen _ _).trans
            (run_bind_of_ok hread fun a ↦ itemsAfter read (a :: done)).symm
    · rfl

theorem run_itemsAfter_close (read : Reader α) (done : List α) (t : List Char) :
    run (itemsAfter read done) (']' :: t) = .ok (done.reverse, t) := by
  rw [run_itemsAfter_eq, dropWhile_isBlank_cons (by decide)]
  rfl

theorem run_itemsAfter_next {c : Char} {u : List Char} (hs : s.dropWhile isBlank = c :: u)
    (hc : c ≠ ']') :
    run (itemsAfter read done) (',' :: s) =
      (read >>= fun a ↦ itemsAfter read (a :: done) : Reader (List α)).run s := by
  have hempty : s.dropWhile isBlank ≠ [] := by simp [hs]
  have hhead : (s.dropWhile isBlank).head? ≠ some ']' := by simpa [hs] using hc
  rw [run_itemsAfter_eq, dropWhile_isBlank_cons (by decide)]
  dsimp only
  rw [if_neg (by decide), if_pos rfl, if_neg hempty, if_neg hhead]

theorem run_itemsAfter_comma {c : Char} {u : List Char} (hs : s.dropWhile isBlank = c :: u)
    (hc : c ≠ ']') (h : read.run s = .ok (a, t)) :
    run (itemsAfter read done) (',' :: s) = run (itemsAfter read (a :: done)) t := by
  rw [run_itemsAfter_next hs hc]
  exact run_bind_of_eq h _

def Takes (c : Codec α) (a : α) (v : Value) : Prop :=
  Reads c.read v.render a

variable {item : Codec α} {xs : List α} {vs : List Value}

theorem run_itemsAfter (h : List.Forall₂ item.Takes xs vs) (done : List α) (t : List Char) :
    run (itemsAfter item.read done) ((vs.flatMap fun v ↦ ',' :: v.render) ++ ']' :: t) =
      .ok (done.reverse ++ xs, t) := by
  induction h generalizing done with
  | nil => simpa using run_itemsAfter_close item.read done t
  | @cons a v xs vs ha _ ih =>
    obtain ⟨c, u, -, hbegin, hc⟩ :=
      v.exists_dropWhile_render ((vs.flatMap fun v ↦ ',' :: v.render) ++ ']' :: t)
    rw [List.flatMap_cons, List.cons_append, List.cons_append, List.append_assoc,
      run_itemsAfter_comma hbegin hc (ha _ (ended_items vs t)), ih]
    simp

theorem run_items (h : List.Forall₂ item.Takes xs vs) (t : List Char) :
    (items item.read).run (Value.renderItems vs ++ ']' :: t) = .ok (xs, t) := by
  cases h with
  | nil =>
    rw [Value.renderItems, List.nil_append, items, run_bind_of_eq (run_begin_cons (by decide) t),
      if_pos rfl, run_bind_of_eq (run_skip _ t)]
    rfl
  | @cons a v xs vs ha hxs =>
    obtain ⟨c, u, htext, hbegin, hc⟩ :=
      v.exists_dropWhile_render ((vs.flatMap fun v ↦ ',' :: v.render) ++ ']' :: t)
    have hfirst := ha _ (ended_items vs t)
    rw [Value.renderItems_cons, List.append_assoc, items, run_bind_of_eq (run_begin hbegin),
      if_neg hc, ← htext]
    exact (run_bind_of_eq hfirst _).trans (run_itemsAfter hxs [a] t)

theorem takes_list (h : List.Forall₂ item.Takes xs vs) : (list item).Takes xs (.list vs) := by
  intro rest _
  rw [Value.render_list_append, list, run_bind_of_eq (run_begin_cons (by decide) _), if_pos rfl,
    run_bind_of_eq (run_skip _ _), run_items h]

end Codec

theorem Draft.member_cons_of_ne {f : Field} {fs : List Field} {key : String} (h : key ≠ f.name)
    (value : Option f.type) (rest : Draft fs) :
    Draft.member key (f :: fs) (value, rest) =
      (Draft.member key fs rest).map fun rest ↦ (value, rest) :=
  if_neg h

namespace Record

def Takes : (fs : List Field) → Record fs → List Value → Prop
  | [], _, [] => True
  | f :: fs, (a, r), v :: vs => f.codec.Takes a v ∧ Takes fs r vs
  | _, _, _ => False

/-- What is known of a record from the members with the given keys. -/
def draft (keys : List String) : (fs : List Field) → Record fs → Draft fs
  | [], () => ()
  | f :: fs, (a, r) => (if f.name ∈ keys then some a else none, draft keys fs r)

variable {fs : List Field} {r : Record fs} {vs : List Value} {keys : List String}

theorem Takes.length_eq (h : Takes fs r vs) : vs.length = fs.length := by
  induction fs generalizing vs with
  | nil => cases vs with
    | nil => rfl
    | cons => exact h.elim
  | cons f fs ih => cases vs with
    | nil => exact h.elim
    | cons v vs => rw [List.length_cons, List.length_cons, ih h.2]

@[simp]
theorem draft_nil (fs : List Field) (r : Record fs) : draft [] fs r = Draft.empty fs := by
  induction fs with
  | nil => rfl
  | cons f fs ih =>
    obtain ⟨a, r⟩ := r
    rw [draft, if_neg List.not_mem_nil, ih]
    rfl

theorem complete?_draft (h : ∀ f ∈ fs, f.name ∈ keys) :
    (draft keys fs r).complete? fs = some r := by
  induction fs with
  | nil => rfl
  | cons f fs ih =>
    obtain ⟨a, r⟩ := r
    obtain ⟨hf, hfs⟩ := List.forall_mem_cons.mp h
    rw [draft, if_pos hf, Draft.complete?, ih hfs]
    rfl

theorem draft_cons_of_ne {f : Field} {key : String} (h : key ≠ f.name) (a : f.type)
    (r : Record fs) :
    draft (key :: keys) (f :: fs) (a, r) =
      (if f.name ∈ keys then some a else none, draft (key :: keys) fs r) := by
  have hmem : f.name ∈ key :: keys ↔ f.name ∈ keys := by simp [h.symm]
  rw [draft, if_congr hmem rfl rfl]

theorem draft_cons_of_notMem {key : String} (h : key ∉ fs.map Field.name) :
    draft (key :: keys) fs r = draft keys fs r := by
  induction fs with
  | nil => rfl
  | cons f fs ih =>
    obtain ⟨a, r⟩ := r
    rw [List.map_cons, List.mem_cons, not_or] at h
    rw [draft_cons_of_ne h.1, ih h.2, draft]

/-- A member that is new to the draft is awaited, and its key becomes known. -/
theorem exists_member_draft {m : String × Value} (hnames : (fs.map Field.name).Nodup)
    (h : Takes fs r vs) (hm : m ∈ (fs.map Field.name).zip vs) (hnew : m.1 ∉ keys) :
    ∃ read, (draft keys fs r).member m.1 fs = .awaited read ∧
      Reads read m.2.render (draft (m.1 :: keys) fs r) := by
  induction fs generalizing vs with
  | nil => simp at hm
  | cons f fs ih =>
    obtain ⟨a, r⟩ := r
    obtain _ | ⟨v, vs⟩ := vs
    · exact h.elim
    rw [List.map_cons, List.nodup_cons] at hnames
    rw [List.map_cons, List.zip_cons_cons, List.mem_cons] at hm
    rcases hm with rfl | hm
    · refine ⟨(fun a ↦ (some a, draft keys fs r)) <$> f.codec.read, ?_, ?_⟩
      · rw [draft, if_neg hnew, Draft.member, if_pos rfl]
      · intro rest hrest
        rw [draft, if_pos List.mem_cons_self, draft_cons_of_notMem hnames.1]
        exact run_map_of_eq (h.1 rest hrest) _
    · have hkey : m.1 ≠ f.name := by
        intro hkey
        exact hnames.1 (hkey ▸ (List.of_mem_zip hm).1)
      obtain ⟨read, hmember, hreads⟩ := ih hnames.2 h.2 hm
      refine ⟨(fun d ↦ (if f.name ∈ keys then some a else none, d)) <$> read, ?_, ?_⟩
      · rw [draft, Draft.member_cons_of_ne hkey, hmember]
        rfl
      · intro rest hrest
        rw [draft_cons_of_ne hkey]
        exact run_map_of_eq (hreads rest hrest) _

end Record

variable {fs : List Field} {r : Record fs} {vs : List Value} {d d' : Draft fs} {s t : List Char}

theorem run_readMember {read : Reader (Draft fs)} {m : String × Value}
    (hmember : d.member m.1 fs = .awaited read) (hread : Reads read m.2.render d')
    (ht : Ended t) : (readMember fs d).run (Value.renderMember m ++ t) = .ok (d', t) := by
  have htext : Value.renderMember m ++ t =
      m.1.toList.flatMap Quoted.escapeChar ++ '"' :: ':' :: (m.2.render ++ t) := by
    simp [Value.renderMember]
  rw [htext, readMember, run_bind_of_eq (Quoted.run_body _ _), hmember]
  exact (run_bind_of_eq (run_punctuation (by decide) _) _).trans (hread t ht)

theorem run_membersAfter_eq (d : Draft fs) (s : List Char) :
    run (membersAfter fs d) s = match s.dropWhile isBlank with
      | [] => .error .endOfText
      | c :: t =>
        if c = '\x7d' then .ok (d, t)
        else if c = ',' then
          match t.dropWhile isBlank with
          | [] => .error .endOfText
          | '"' :: u => (readMember fs d >>= membersAfter fs : Reader (Draft fs)).run u
          | _ => .error .malformed
        else .error .malformed := by
  unfold run
  rw [membersAfter]
  split
  case h_1 hs =>
    simp only [hs]
    rfl
  case h_2 c t hs =>
    simp only [hs]
    split_ifs
    · rfl
    · split
      case h_1 ht =>
        simp only [ht]
        rfl
      case h_2 u ht =>
        simp only [ht]
        cases hread : readMember fs d u with
        | error e => exact (run_bind_of_error hread _).symm
        | ok r => exact (map_widen _ _).trans (run_bind_of_ok hread (membersAfter fs)).symm
      case h_3 hempty hquote =>
        split
        case h_1 ht => exact absurd ht hempty
        case h_2 u ht => exact absurd ht (hquote u)
        case h_3 => rfl
    · rfl

theorem run_membersAfter_close (d : Draft fs) (t : List Char) :
    run (membersAfter fs d) ('\x7d' :: t) = .ok (d, t) := by
  rw [run_membersAfter_eq, dropWhile_isBlank_cons (by decide)]
  rfl

theorem run_membersAfter_next (hs : s.dropWhile isBlank = '"' :: t) (d : Draft fs) :
    run (membersAfter fs d) (',' :: s) =
      (readMember fs d >>= membersAfter fs : Reader (Draft fs)).run t := by
  rw [run_membersAfter_eq, dropWhile_isBlank_cons (by decide)]
  simp only [hs]
  rfl

theorem run_membersAfter_comma (h : (readMember fs d).run s = .ok (d', t)) :
    run (membersAfter fs d) (',' :: '"' :: s) = run (membersAfter fs d') t := by
  rw [run_membersAfter_next (dropWhile_isBlank_cons (by decide) s)]
  exact run_bind_of_eq h _

theorem run_membersAfter {keys : List String} {ms : List (String × Value)}
    (hnames : (fs.map Field.name).Nodup) (h : Record.Takes fs r vs)
    (hms : ∀ m ∈ ms, m ∈ (fs.map Field.name).zip vs)
    (hnew : ((ms.map Prod.fst).reverse ++ keys).Nodup) (t : List Char) :
    run (membersAfter fs (Record.draft keys fs r))
        ((ms.flatMap fun m ↦ ',' :: '"' :: Value.renderMember m) ++ '\x7d' :: t) =
      .ok (Record.draft ((ms.map Prod.fst).reverse ++ keys) fs r, t) := by
  induction ms generalizing keys with
  | nil => exact run_membersAfter_close _ t
  | cons m ms ih =>
    obtain ⟨hm, hms⟩ := List.forall_mem_cons.mp hms
    rw [List.map_cons, List.reverse_cons, List.append_assoc] at hnew ⊢
    have hkey : m.1 ∉ keys := (List.nodup_cons.mp (List.nodup_append.mp hnew).2.1).1
    obtain ⟨read, hmember, hread⟩ := Record.exists_member_draft hnames h hm hkey
    rw [List.flatMap_cons, List.append_assoc, List.cons_append, List.cons_append,
      run_membersAfter_comma (run_readMember hmember hread (ended_members ms t))]
    exact ih hms hnew

/-- The members of an object may stand in any order. -/
theorem run_members {ms : List (String × Value)} (hnames : (fs.map Field.name).Nodup)
    (h : Record.Takes fs r vs) (hms : ms.Perm ((fs.map Field.name).zip vs)) (t : List Char) :
    ∃ d, (members fs).run (Value.renderMembers ms ++ '\x7d' :: t) = .ok (d, t) ∧
      d.complete? fs = some r := by
  have hfst : ((fs.map Field.name).zip vs).map Prod.fst = fs.map Field.name :=
    List.map_fst_zip (by rw [List.length_map, h.length_eq])
  have hkeys : (ms.map Prod.fst).reverse.Perm (fs.map Field.name) := by
    rw [← hfst]
    exact (List.reverse_perm _).trans (hms.map Prod.fst)
  refine ⟨Record.draft (ms.map Prod.fst).reverse fs r, ?_, ?_⟩
  · obtain _ | ⟨m, ms⟩ := ms
    · rw [Value.renderMembers, List.nil_append, members,
        run_bind_of_eq (run_begin_cons (by decide) t), List.map_nil, List.reverse_nil,
        Record.draft_nil]
      exact run_bind_of_eq (run_skip _ t) _
    · have hmem : ∀ m' ∈ m :: ms, m' ∈ (fs.map Field.name).zip vs := fun m' ↦ hms.mem_iff.mp
      obtain ⟨hm, hmem⟩ := List.forall_mem_cons.mp hmem
      obtain ⟨read, hmember, hread⟩ :=
        Record.exists_member_draft hnames h hm List.not_mem_nil
      have hnew := hkeys.nodup_iff.mpr hnames
      rw [List.map_cons, List.reverse_cons] at hnew ⊢
      rw [Record.draft_nil] at hmember
      rw [Value.renderMembers_cons, List.append_assoc, members, List.cons_append,
        run_bind_of_eq (run_begin_cons (by decide) _)]
      refine (run_bind_of_eq (run_skip _ _) _).trans ?_
      refine (run_bind_of_eq (run_readMember hmember hread (ended_members ms t)) _).trans ?_
      exact run_membersAfter hnames h hmem hnew t
  · apply Record.complete?_draft
    intro f hf
    exact hkeys.mem_iff.mpr (List.mem_map_of_mem hf)

theorem run_fieldsInOrder_cons {f : Field} {first : Bool} {a : f.type} {u w : List Char}
    (hnext : (nextItem first).run s = .ok (true, t)) (hread : f.codec.read.run t = .ok (a, u))
    (hrest : (fieldsInOrder fs false).run u = .ok (r, w)) :
    (fieldsInOrder (f :: fs) first).run s = .ok ((a, r), w) := by
  rw [fieldsInOrder, run_bind_of_eq hnext, if_pos rfl]
  refine (run_bind_of_eq hread _).trans ?_
  exact run_bind_of_eq hrest _

theorem run_nextItem_true (v : Value) (t : List Char) :
    (nextItem true).run (v.render ++ t) = .ok (true, v.render ++ t) := by
  obtain ⟨c, u, htext, hbegin, hc⟩ := v.exists_dropWhile_render t
  rw [nextItem, run_bind_of_eq (run_begin hbegin), if_neg hc, if_pos rfl, htext]
  rfl

theorem run_nextItem_false (v : Value) (t : List Char) :
    (nextItem false).run (',' :: (v.render ++ t)) = .ok (true, v.render ++ t) := by
  obtain ⟨c, u, htext, hbegin, hc⟩ := v.exists_dropWhile_render t
  rw [nextItem, run_bind_of_eq (run_begin_cons (by decide) _), if_neg (by decide),
    if_neg Bool.false_ne_true, if_pos rfl, run_bind_of_eq (run_skip _ _),
    run_bind_of_eq (run_begin hbegin), if_neg hc, htext]
  rfl

theorem run_fieldsInOrder_false (h : Record.Takes fs r vs) (t : List Char) :
    (fieldsInOrder fs false).run ((vs.flatMap fun v ↦ ',' :: v.render) ++ ']' :: t) =
      .ok (r, ']' :: t) := by
  induction fs generalizing vs with
  | nil =>
    obtain _ | ⟨v, vs⟩ := vs
    · rfl
    · exact h.elim
  | cons f fs ih =>
    obtain ⟨a, r⟩ := r
    obtain _ | ⟨v, vs⟩ := vs
    · exact h.elim
    rw [List.flatMap_cons, List.cons_append, List.cons_append, List.append_assoc]
    exact run_fieldsInOrder_cons (run_nextItem_false v _)
      (h.1 _ (ended_items vs t)) (ih h.2)

theorem run_fieldsInOrder_true (h : Record.Takes fs r vs) (t : List Char) :
    (fieldsInOrder fs true).run (Value.renderItems vs ++ ']' :: t) = .ok (r, ']' :: t) := by
  cases fs with
  | nil =>
    obtain _ | ⟨v, vs⟩ := vs
    · rfl
    · exact h.elim
  | cons f fs =>
    obtain ⟨a, r⟩ := r
    obtain _ | ⟨v, vs⟩ := vs
    · exact h.elim
    rw [Value.renderItems_cons, List.append_assoc]
    exact run_fieldsInOrder_cons (run_nextItem_true v _)
      (h.1 _ (ended_items vs t)) (run_fieldsInOrder_false h.2 t)

/-- How the values of a structure may be put together: as the members of an object in any order,
or as a list. -/
inductive Value.Structured (names : List String) (vs : List Value) : Value → Prop
  | members {ms : List (String × Value)} (h : ms.Perm (names.zip vs)) :
      Structured names vs (.object ms)
  | items : Structured names vs (.list vs)

theorem reads_readRecord {v : Value} (hnames : (fs.map Field.name).Nodup)
    (h : Record.Takes fs r vs) (hv : v.Structured (fs.map Field.name) vs) :
    Reads (readRecord fs) v.render r := by
  intro rest _
  cases hv with
  | @members ms hms =>
    obtain ⟨d, hd, hcomplete⟩ := run_members hnames h hms rest
    rw [Value.render_object_append, readRecord, run_bind_of_eq (run_begin_cons (by decide) _)]
    refine (run_bind_of_eq (run_skip _ _) _).trans ?_
    refine (run_bind_of_eq hd _).trans ?_
    rw [hcomplete]
    rfl
  | items =>
    rw [Value.render_list_append, readRecord, run_bind_of_eq (run_begin_cons (by decide) _)]
    refine (run_bind_of_eq (run_skip _ _) _).trans ?_
    refine (run_bind_of_eq (run_fieldsInOrder_true h rest) _).trans ?_
    exact run_bind_of_eq (run_punctuation (by decide) rest) _

namespace Codec

variable {α : Type} {a : α} {v : Value}

theorem takes_word (w : UInt64) : word.Takes w (.number w.toNat) := by
  unfold Takes
  rw [Value.render]
  exact reads_readWord w

theorem takes_count {n : Nat} (hn : n < UInt64.size) : count.Takes n (.number n) := by
  intro rest hrest
  have hword := takes_word (.ofNatLT n hn) rest hrest
  rw [UInt64.toNat_ofNatLT] at hword
  have hcount := run_map_of_eq hword UInt64.toNat
  rwa [UInt64.toNat_ofNatLT] at hcount

theorem takes_text (s : String) : text.Takes s (.text s) := by
  unfold Takes
  rw [Value.render]
  exact reads_readText s

theorem takes_record {build : Record fs → α} {split : α → Record fs}
    (hnames : (fs.map Field.name).Nodup) (hbuild : build (split a) = a)
    (h : Record.Takes fs (split a) vs) (hv : v.Structured (fs.map Field.name) vs) :
    (record fs build split).Takes a v := by
  intro rest hrest
  have hrun := run_map_of_eq (reads_readRecord hnames h hv rest hrest) build
  rwa [hbuild] at hrun

/-- A value that stands for `a` is read as `a` when there is nothing else in the text. -/
theorem Takes.decode_eq {c : Codec α} (h : c.Takes a v) :
    c.decode (String.ofList v.render) = .ok a := by
  have hrun := h [] (by simp [Ended])
  rw [List.append_nil] at hrun
  exact document_ofList hrun

end Codec

namespace Variant

variable {α : Type} {variants : List (Variant α)} {name : String} {a : α}

theorem reads_bare (hname : find? variants name = some (.bare name a)) :
    Reads (read variants) (Value.text name).render a := by
  intro rest _
  rw [Value.render, Quoted.write_append, read, run_bind_of_eq (run_begin_cons (by decide) _)]
  refine (run_bind_of_eq (run_skip _ _) _).trans ?_
  refine (run_bind_of_eq (Quoted.run_body name rest) _).trans ?_
  rw [hname]
  rfl

theorem reads_holding {variant : Variant α} {v : Value}
    (hname : find? variants name = some variant) (h : Reads variant.readHeld v.render a) :
    Reads (read variants) (Value.object [(name, v)]).render a := by
  intro rest _
  rw [Value.render_object_append, Value.renderMembers, List.append_assoc, Quoted.write_append, read,
    run_bind_of_eq (run_begin_cons (by decide) _)]
  refine (run_bind_of_eq (run_skip _ _) _).trans ?_
  refine (run_bind_of_eq (run_punctuation (by decide) _) _).trans ?_
  refine (run_bind_of_eq (Quoted.run_body name _) _).trans ?_
  rw [hname]
  refine (run_bind_of_eq (run_punctuation (by decide) _) _).trans ?_
  refine (run_bind_of_eq (h _ (ended_cons (by decide) rest)) _).trans ?_
  exact run_bind_of_eq (run_punctuation (by decide) rest) _

theorem reads_holding_record {build : Record fs → α} {v : Value}
    (hname : find? variants name = some (.holding name (build <$> readRecord fs)))
    (hnames : (fs.map Field.name).Nodup) (h : Record.Takes fs r vs)
    (hv : v.Structured (fs.map Field.name) vs) :
    Reads (read variants) (Value.object [(name, v)]).render (build r) := by
  apply reads_holding hname
  intro rest hrest
  exact run_map_of_eq (reads_readRecord hnames h hv rest hrest) build

end Variant

end StackDepth.Json
