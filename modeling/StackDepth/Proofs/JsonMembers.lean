import StackDepth.Proofs.JsonReading

namespace StackDepth.Json

open Reader

variable {v : Content} {w s t rest : List Char}

def valuesOf (key : String) (ms : List (String × Content)) : List Content :=
  (ms.filter (·.1 = key)).map Prod.snd

@[simp]
theorem valuesOf_cons_self (key : String) (v : Content) (ms : List (String × Content)) :
    valuesOf key ((key, v) :: ms) = v :: valuesOf key ms := by
  simp [valuesOf]

@[simp]
theorem valuesOf_cons_of_ne {key : String} {m : String × Content} (h : m.1 ≠ key)
    (ms : List (String × Content)) : valuesOf key (m :: ms) = valuesOf key ms := by
  simp [valuesOf, h]

namespace Field

variable {f : Field} {view : Content → Option f.type} {m : String × Content}
variable {ms ms' : List (String × Content)} {value : Option f.type}

/-- What a field holds by the members of an object. -/
def pick? (f : Field) (view : Content → Option f.type) (ms : List (String × Content)) :
    Option f.type :=
  match valuesOf f.name ms with
  | [] => f.absent
  | [v] => view v
  | _ => none

def add? (f : Field) (view : Content → Option f.type) (value : Option f.type)
    (m : String × Content) : Option (Option f.type) :=
  if m.1 = f.name then
    match value with
    | some _ => none
    | none => (view m.2).map some
  else some value

theorem add?_of_ne (h : m.1 ≠ f.name) : f.add? view value m = some value :=
  if_neg h

theorem foldlM_add?_some (a : f.type) (ms : List (String × Content)) :
    ms.foldlM (f.add? view) (some a) =
      if (valuesOf f.name ms).isEmpty then some (some a) else none := by
  induction ms with
  | nil => rfl
  | cons m ms ih =>
    rw [List.foldlM_cons]
    by_cases hm : m.1 = f.name
    · obtain ⟨key, v⟩ := m
      subst hm
      simp only [valuesOf_cons_self, add?, if_true]
      rfl
    · rw [valuesOf_cons_of_ne hm, add?_of_ne hm]
      exact ih

theorem foldlM_add?_none (ms : List (String × Content)) :
    (ms.foldlM (f.add? view) none).bind (·.or f.absent) = f.pick? view ms := by
  induction ms with
  | nil => rfl
  | cons m ms ih =>
    rw [List.foldlM_cons]
    by_cases hm : m.1 = f.name
    · obtain ⟨key, v⟩ := m
      subst hm
      have hvalues : f.pick? view ((f.name, v) :: ms) =
          if (valuesOf f.name ms).isEmpty then view v else none := by
        rw [pick?, valuesOf_cons_self]
        cases valuesOf f.name ms <;> rfl
      have hadd : f.add? view none (f.name, v) = (view v).map some := if_pos rfl
      rw [hvalues, hadd]
      cases view v with
      | none => exact (ite_self none).symm
      | some a =>
        change ((ms.foldlM (f.add? view) (some a)).bind _) = _
        rw [foldlM_add?_some]
        split_ifs <;> rfl
    · rw [pick?, valuesOf_cons_of_ne hm, add?_of_ne hm]
      exact ih

theorem pick?_eq_some_iff {a : f.type} {form : f.type → Content}
    (h : ∀ {v a}, view v = some a ↔ v = form a) :
    f.pick? view ms = some a ↔
      valuesOf f.name ms = [form a] ∨ valuesOf f.name ms = [] ∧ f.absent = some a := by
  rw [pick?]
  split
  case h_1 hvalues => simp [hvalues]
  case h_2 v hvalues => simp [hvalues, h]
  case h_3 hnone hone =>
    simp only [reduceCtorEq, false_iff, not_or, not_and]
    exact ⟨hone _, fun hempty ↦ absurd hempty hnone⟩

/-- Only the values under the key of the field count, in any order. -/
theorem pick?_congr (h : (valuesOf f.name ms).Perm (valuesOf f.name ms')) :
    f.pick? view ms = f.pick? view ms' := by
  rw [pick?, pick?]
  split
  case h_1 hvalues =>
    rw [hvalues] at h
    rw [List.nil_perm.mp h]
  case h_2 v hvalues =>
    rw [hvalues] at h
    rw [← List.singleton_perm.mp h]
  case h_3 hnone hone =>
    split
    case h_1 hvalues =>
      rw [hvalues] at h
      exact absurd (List.perm_nil.mp h) hnone
    case h_2 v hvalues =>
      rw [hvalues] at h
      exact absurd (List.perm_singleton.mp h) (hone v)
    case h_3 => rfl

end Field

/-- How the values of fields are seen in a text. -/
def Views : List Field → Type
  | [] => Unit
  | f :: fs => (Content → Option f.type) × Views fs

def Views.Read : (fs : List Field) → Views fs → Prop
  | [], _ => True
  | f :: fs, (view, views) => f.codec.ReadsAs view ∧ Views.Read fs views

def Draft.add? : (fs : List Field) → Views fs → Draft fs → String × Content → Option (Draft fs)
  | [], _, d, _ => some d
  | f :: fs, (view, views), (value, rest), m =>
    (f.add? view value m).bind fun value ↦
      (Draft.add? fs views rest m).map fun rest ↦ (value, rest)

def Record.pick? : (fs : List Field) → Views fs → List (String × Content) → Option (Record fs)
  | [], _, _ => some ()
  | f :: fs, (view, views), ms =>
    (f.pick? view ms).bind fun value ↦ (pick? fs views ms).map fun rest ↦ (value, rest)

variable {fs : List Field} {views : Views fs} {d : Draft fs} {ms : List (String × Content)}

theorem Draft.foldlM_add?_cons {f : Field} (view : Content → Option f.type)
    (value : Option f.type) (rest : Draft fs) :
    ms.foldlM (Draft.add? (f :: fs) (view, views)) (value, rest) =
      (ms.foldlM (f.add? view) value).bind fun value ↦
        (ms.foldlM (Draft.add? fs views) rest).map fun rest ↦ (value, rest) := by
  induction ms generalizing value rest with
  | nil => rfl
  | cons m ms ih =>
    change ((f.add? view value m).bind fun value ↦
      (Draft.add? fs views rest m).map fun rest ↦ (value, rest)).bind _ = _
    rw [List.foldlM_cons, List.foldlM_cons]
    cases f.add? view value m with
    | none => rfl
    | some a =>
      cases Draft.add? fs views rest m with
      | none =>
        -- The first field may fail further on, which is a fault as well.
        change none = (ms.foldlM (f.add? view) a).bind fun _ ↦ none
        cases ms.foldlM (f.add? view) a <;> rfl
      | some b => exact ih a b

/-- A record is complete where each of its fields has a value. -/
theorem complete?_foldlM (fs : List Field) (views : Views fs) (ms : List (String × Content)) :
    (ms.foldlM (Draft.add? fs views) (Draft.empty fs)).bind (Draft.complete? fs) =
      Record.pick? fs views ms := by
  induction fs with
  | nil =>
    have hfold : ms.foldlM (Draft.add? [] views) (Draft.empty []) = some () := by
      induction ms with
      | nil => rfl
      | cons m ms ih => exact ih
    rw [hfold]
    rfl
  | cons f fs ih =>
    obtain ⟨view, views⟩ := views
    change (ms.foldlM (Draft.add? (f :: fs) (view, views)) (none, Draft.empty fs)).bind _ =
      (f.pick? view ms).bind fun value ↦ (Record.pick? fs views ms).map fun rest ↦ (value, rest)
    rw [Draft.foldlM_add?_cons, ← Field.foldlM_add?_none, ← ih]
    cases ms.foldlM (f.add? view) none with
    | none => rfl
    | some value =>
      cases ms.foldlM (Draft.add? fs views) (Draft.empty fs) with
      | none =>
        change none = (value.or f.absent).bind fun _ ↦ none
        cases value.or f.absent <;> rfl
      | some rest =>
        change ((value.or f.absent).bind fun value ↦ (rest.complete? fs).bind fun rest ↦
          some (value, rest)) =
            (value.or f.absent).bind fun value ↦ (rest.complete? fs).map fun rest ↦ (value, rest)
        cases value.or f.absent <;> cases rest.complete? fs <;> rfl

theorem Draft.add?_of_notMem {m : String × Content} (h : m.1 ∉ fs.map Field.name) :
    d.add? fs views m = some d := by
  induction fs with
  | nil => rfl
  | cons f fs ih =>
    obtain ⟨view, views⟩ := views
    obtain ⟨value, rest⟩ := d
    rw [List.map_cons, List.mem_cons, not_or] at h
    change ((f.add? view value m).bind fun value ↦
      (Draft.add? fs views rest m).map fun rest ↦ (value, rest)) = _
    rw [Field.add?_of_ne h.1, ih h.2]
    rfl

/-- Reading a member with the value `v` turns the draft `d` into `d'`. -/
def Member.Adds {σ : Type} (v : Content) (d : σ) (d' : Option σ) : Member σ → Prop
  | .unknown => d' = some d
  | .repeated => d' = none
  | .awaited read => ∀ {w s rest}, Blank w → Spells (.value v) s → Ended rest →
      read.run? (w ++ (s ++ rest)) = d'.map (·, rest)

theorem Member.Adds.map {σ τ : Type} {m : Member σ} {d : σ} {d' : Option σ} (h : m.Adds v d d')
    (f : σ → τ) : (m.map f).Adds v (f d) (d'.map f) := by
  cases m with
  | unknown => exact congrArg (Option.map f) h
  | repeated => exact congrArg (Option.map f) h
  | awaited read =>
    intro w s rest hw hs hrest
    rw [run?_map, h hw hs hrest]
    cases d' <;> rfl

theorem adds_member (hviews : views.Read fs) (hnames : (fs.map Field.name).Nodup) (key : String)
    (v : Content) : (d.member key fs).Adds v d (d.add? fs views (key, v)) := by
  induction fs with
  | nil => rfl
  | cons f fs ih =>
    obtain ⟨view, views⟩ := views
    obtain ⟨value, rest⟩ := d
    obtain ⟨hview, hviews⟩ := hviews
    rw [List.map_cons, List.nodup_cons] at hnames
    change (Draft.member key (f :: fs) (value, rest)).Adds v (value, rest)
      ((f.add? view value (key, v)).bind fun value ↦
        (rest.add? fs views (key, v)).map fun rest ↦ (value, rest))
    by_cases hkey : key = f.name
    · subst hkey
      -- No later field has this key, so the rest of the draft stays as it is.
      rw [Draft.add?_of_notMem hnames.1]
      cases value with
      | some a =>
        simp only [Draft.member, Field.add?, if_true]
        rfl
      | none =>
        simp only [Draft.member, Field.add?, if_true]
        intro w s rest' hw hs hrest
        refine (hview.run?_map (fun a ↦ (some a, rest)) hw hs hrest).trans ?_
        cases view v <;> rfl
    · rw [Draft.member_cons_of_ne hkey, Field.add?_of_ne hkey]
      exact (ih hviews hnames.2).map _

theorem run?_readMember (hviews : views.Read fs) (hnames : (fs.map Field.name).Nodup)
    {key : String} {k w' : List Char} (hkey : SpellsText key k) (hw' : Blank w') (hw : Blank w)
    (hs : Spells (.value v) s) (hrest : Ended rest) :
    (readMember fs d).run? (k ++ '"' :: (w' ++ ':' :: (w ++ (s ++ rest)))) =
      (d.add? fs views (key, v)).map (·, rest) := by
  rw [readMember, run?_bind_of_eq (Quoted.run_body_spelled hkey _)]
  have hadds := adds_member (d := d) hviews hnames key v
  have hcolon := run_punctuation_blank hw' (show isBlank ':' = false by decide) (w ++ (s ++ rest))
  cases hmember : d.member key fs with
  | unknown =>
    rw [hmember] at hadds
    rw [show d.add? fs views (key, v) = some d from hadds]
    refine (run?_bind_of_eq hcolon _).trans ?_
    exact run?_bind_of_eq (run_skim hw hs hrest) _
  | repeated =>
    rw [hmember] at hadds
    rw [show d.add? fs views (key, v) = none from hadds]
    rfl
  | awaited read =>
    rw [hmember] at hadds
    exact (run?_bind_of_eq hcolon _).trans (hadds hw hs hrest)

theorem run_membersAfter_blank (d : Draft fs) (hw : Blank w) (s : List Char) :
    run (membersAfter fs d) (w ++ s) = run (membersAfter fs d) s := by
  rw [run_membersAfter_eq, run_membersAfter_eq d s, dropWhile_blank hw]

def membersFrom (fs : List Field) (d : Draft fs) : Reader (Draft fs) := do
  punctuation '"'
  let d ← readMember fs d
  membersAfter fs d

theorem run_membersFrom (hs : s.dropWhile isBlank = '"' :: t) (d : Draft fs) :
    (membersFrom fs d).run s = (readMember fs d >>= membersAfter fs : Reader (Draft fs)).run t := by
  have hquote : (punctuation '"').run s = .ok ((), t) := by
    rw [punctuation, run_bind_of_eq (run_blanks s), hs, run_expect]
  exact run_bind_of_eq hquote _

theorem run?_membersFrom_member (hviews : views.Read fs) (hnames : (fs.map Field.name).Nodup)
    {m : String × Content} (h : Spells (.member m) s) (ht : Ended t)
    {next : Draft fs → Option (Draft fs)}
    (hnext : ∀ d, run? (membersAfter fs d) t = (next d).map (·, rest)) :
    (membersFrom fs d).run? (s ++ t) = ((d.add? fs views m).bind next).map (·, rest) := by
  cases h with
  | member hw hw' hkey h => cases h with
    | element hu hu' h =>
      simp only [List.cons_append, List.append_assoc]
      refine (run?_bind_of_eq (run_punctuation_blank hw (by decide) _) _).trans ?_
      refine run?_bind_map (run?_readMember hviews hnames hkey hw' hu h (ended_blank hu' ht)) ?_
      intro d
      exact (run?_congr (run_membersAfter_blank d hu' t)).trans (hnext d)

theorem run?_membersFrom (hviews : views.Read fs) (hnames : (fs.map Field.name).Nodup)
    (h : Spells (.members ms) s) (d : Draft fs) (rest : List Char) :
    (membersFrom fs d).run? (s ++ '\x7d' :: rest) =
      (ms.foldlM (Draft.add? fs views) d).map (·, rest) := by
  induction ms generalizing s d with
  | nil => cases h
  | cons m ms ih =>
    rw [List.foldlM_cons]
    cases h with
    | oneMember h =>
      apply run?_membersFrom_member hviews hnames h (ended_cons (by decide) rest)
      intro d
      exact run?_of_eq (run_membersAfter_close d rest)
    | moreMembers h ht =>
      rw [List.append_assoc, List.cons_append]
      apply run?_membersFrom_member hviews hnames h (ended_cons (by decide) _)
      intro d
      obtain ⟨u, hu⟩ := ht.exists_dropWhile_members ('\x7d' :: rest)
      have hnext := (run_membersAfter_next hu d).trans (run_membersFrom hu d).symm
      exact (run?_congr hnext).trans (ih ht d)

theorem run?_members_empty (hw : Blank w) (rest : List Char) :
    (members fs).run? (w ++ '\x7d' :: rest) = some (Draft.empty fs, rest) := by
  rw [members, run?_bind_of_eq (run_begin_blank hw (by decide) rest)]
  exact run?_bind_of_eq (run_skip _ rest) _

theorem run?_members (hviews : views.Read fs) (hnames : (fs.map Field.name).Nodup)
    (h : Spells (.members ms) s) (rest : List Char) :
    (members fs).run? (s ++ '\x7d' :: rest) =
      (ms.foldlM (Draft.add? fs views) (Draft.empty fs)).map (·, rest) := by
  obtain ⟨t, ht⟩ := h.exists_dropWhile_members ('\x7d' :: rest)
  rw [← run?_membersFrom hviews hnames h, members, run?_bind_of_eq (run_begin ht)]
  refine (run?_bind_of_eq (run_skip _ t) _).trans ?_
  exact (run?_congr (run_membersFrom ht _)).symm

theorem run?_readRecord_members {x : Option (Draft fs)} (hw : Blank w)
    (h : (members fs).run? t = x.map (·, rest)) :
    (readRecord fs).run? (w ++ '\x7b' :: t) = (x.bind (Draft.complete? fs)).map (·, rest) := by
  rw [readRecord, run?_bind_of_eq (run_begin_blank hw (by decide) _)]
  refine (run?_bind_of_eq (run_skip _ _) _).trans ?_
  apply run?_bind_map h
  intro d
  cases d.complete? fs <;> rfl

theorem run?_readRecord (hviews : views.Read fs) (hnames : (fs.map Field.name).Nodup)
    (hw : Blank w) (h : Spells (.value (.object ms)) s) (rest : List Char) :
    (readRecord fs).run? (w ++ (s ++ rest)) = (Record.pick? fs views ms).map (·, rest) := by
  rw [← complete?_foldlM]
  cases h with
  | emptyObject hw' =>
    simp only [List.cons_append, List.append_assoc, List.nil_append]
    exact run?_readRecord_members (x := some _) hw (run?_members_empty hw' rest)
  | object h =>
    simp only [List.cons_append, List.append_assoc, List.nil_append]
    exact run?_readRecord_members hw (run?_members hviews hnames h rest)

/-- A whole text that says an object is decoded by its members. -/
theorem Codec.toOption_decode_record {α : Type} {build : Record fs → α} {split : α → Record fs}
    {text : String} (hviews : views.Read fs) (hnames : (fs.map Field.name).Nodup)
    (h : Spells (.element (.object ms)) text.toList) :
    ((Codec.record fs build split).decode text).toOption =
      (Record.pick? fs views ms).map build := by
  generalize hchars : text.toList = chars at h
  cases h with
  | @element _ w w' s hw hw' h =>
    apply toOption_document hw'
    rw [hchars]
    have hread := run?_readRecord hviews hnames hw h w'
    refine (run?_map build (readRecord fs) _).trans ?_
    rw [hread]
    cases Record.pick? fs views ms <;> rfl

end StackDepth.Json
