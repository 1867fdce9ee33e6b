import StackDepth.Listing
import StackDepth.Proofs.LinePattern
import StackDepth.Proofs.Numerals

namespace StackDepth.Listing

open Text

/-- A line without the carriage returns and line feeds at its end. -/
def chomp (s : List Char) : List Char :=
  dropEndWhile (fun c ↦ c == '\r' || c == '\n') s

@[simp]
theorem chomp_concat_return (s : List Char) : chomp (s ++ ['\r']) = chomp s :=
  List.rdropWhile_concat_pos _ _ '\r' rfl

def headerOf? (s : List Char) : Option Routine :=
  match Line.ofText (chomp s) with
  | .header address name =>
    some ⟨String.ofList name, UInt64.ofNat (valueOf 16 address), [], 0, []⟩
  | _ => none

def instructionOf? (s : List Char) : Option Instruction :=
  match Line.ofText (chomp s) with
  | .instruction address bytes text =>
    if valueOf 16 address < UInt64.size then
      some (.ofText (UInt64.ofNat (valueOf 16 address)) (String.ofList bytes) (String.ofList text))
    else none
  | _ => none

/-- The instructions in front of the first header. -/
def leading (fed : List (List Char)) : List Instruction :=
  (fed.takeWhile fun s ↦ (headerOf? s).isNone).filterMap instructionOf?

/-- A routine for each header, with the instructions up to the next one. -/
def sections : List (List Char) → List Routine
  | [] => []
  | s :: rest =>
    match headerOf? s with
    | some r => { r with body := leading rest } :: sections rest
    | none => sections rest

/-- The line is a header with the name and the entry address of the routine, of which it tells
neither a frame nor a callee. -/
def Heads (s : List Char) (r : Routine) : Prop :=
  ∃ address name, Line.IsHeader (chomp s) address name ∧ r.name = String.ofList name ∧
    r.entry.toNat = valueOf 16 address ∧ r.frame = 0 ∧ r.callees = []

/-- The fault of a line after others: an address that does not fit, or else no header in front of
it. -/
inductive Fault (before : List (List Char)) (s : List Char) : Error → Prop
  | address {address bytes text : List Char} :
      Line.IsInstruction (chomp s) address bytes text → UInt64.size ≤ valueOf 16 address →
      Fault before s (.address (before.length + 1) (String.ofList address))
  | orphan {address bytes text : List Char} :
      Line.IsInstruction (chomp s) address bytes text → valueOf 16 address < UInt64.size →
      (∀ t ∈ before, ∀ address name, ¬Line.IsHeader (chomp t) address name) →
      Fault before s (.orphan (before.length + 1) (String.ofList (chomp s)))

def Faultless (fed : List (List Char)) : Prop :=
  ∀ before s rest, fed = before ++ s :: rest → ∀ e, ¬Fault before s e

def IsNoise (s : List Char) : Prop :=
  (∀ address name, ¬Line.IsHeader (chomp s) address name) ∧
    ∀ address bytes text, ¬Line.IsInstruction (chomp s) address bytes text

section Line

variable {s address bytes text name : List Char}

theorem valueOf_lt_of_isHeader (h : Line.IsHeader s address name) :
    valueOf 16 address < UInt64.size := by
  have hpow := valueOf_lt_pow (s := address) h.digits
  rw [h.length] at hpow
  exact hpow.trans (by decide)

theorem word?_of_isHeader (h : Line.IsHeader s address name) :
    word? 16 address = some (UInt64.ofNat (valueOf 16 address)) := by
  have hne : address ≠ [] := List.ne_nil_of_length_pos (by rw [h.length]; decide)
  rw [word?_of_allDigits h.digits hne, if_pos (valueOf_lt_of_isHeader h)]

theorem word?_of_isInstruction (h : Line.IsInstruction s address bytes text) :
    word? 16 address = if valueOf 16 address < UInt64.size then
      some (UInt64.ofNat (valueOf 16 address)) else none := by
  obtain ⟨x, hx, rfl, -⟩ := h
  exact word?_of_allDigits hx.fits.address.forall_mem hx.fits.address.ne_nil

theorem headerOf?_eq_some_iff {r : Routine} : headerOf? s = some r ↔ ∃ address name,
    Line.IsHeader (chomp s) address name ∧ r.name = String.ofList name ∧
      r.entry.toNat = valueOf 16 address ∧ r.body = [] ∧ r.frame = 0 ∧ r.callees = [] := by
  constructor
  · intro h
    rw [headerOf?] at h
    split at h
    · rename_i address name hline
      obtain rfl := Option.some.inj h
      have hheader := Line.ofText_eq_header_iff.mp hline
      refine ⟨address, name, hheader, rfl, ?_, rfl, rfl, rfl⟩
      exact UInt64.toNat_ofNat_of_lt' (valueOf_lt_of_isHeader hheader)
    · cases h
  · intro ⟨address, name, hheader, hname, hentry, hbody, hframe, hcallees⟩
    rw [headerOf?, Line.ofText_eq_header_iff.mpr hheader]
    change some (Routine.mk (String.ofList name) (UInt64.ofNat (valueOf 16 address)) [] 0 []) = _
    rw [← hname, ← hentry, UInt64.ofNat_toNat, ← hbody, ← hframe, ← hcallees]

theorem instructionOf?_eq_some_iff {i : Instruction} : instructionOf? s = some i ↔
    ∃ address bytes text, Line.IsInstruction (chomp s) address bytes text ∧
      i.address.toNat = valueOf 16 address ∧ i.rawBytes = String.ofList bytes ∧
      i = .ofText (UInt64.ofNat (valueOf 16 address)) (String.ofList bytes)
        (String.ofList text) := by
  constructor
  · intro h
    rw [instructionOf?] at h
    split at h
    · rename_i address bytes text hline
      obtain ⟨hlt, hi⟩ := Option.ite_none_right_eq_some.mp h
      obtain rfl := Option.some.inj hi
      exact ⟨address, bytes, text, Line.ofText_eq_instruction_iff.mp hline,
        UInt64.toNat_ofNat_of_lt' hlt, rfl, rfl⟩
    · cases h
  · intro ⟨address, bytes, text, hline, haddress, _, hi⟩
    have hlt : valueOf 16 address < UInt64.size := haddress ▸ i.address.toNat_lt_size
    rw [instructionOf?, Line.ofText_eq_instruction_iff.mpr hline, hi]
    exact if_pos hlt

theorem headerOf?_eq_none_iff :
    headerOf? s = none ↔ ∀ address name, ¬Line.IsHeader (chomp s) address name := by
  simp only [← Line.ofText_eq_header_iff, headerOf?]
  cases Line.ofText (chomp s) <;> simp

end Line

namespace Scan

variable {scan : Scan} {s : List Char} {e : Error}

def push (recent : List Routine) (s : List Char) : List Routine :=
  match headerOf? s, instructionOf? s, recent with
  | some r, _, recent => r :: recent
  | none, some i, r :: older => { r with body := i :: r.body } :: older
  | none, _, recent => recent

theorem feed_fst (scan : Scan) (s : List Char) :
    (scan.feed s).1 = ⟨scan.line + 1, push scan.recent s⟩ := by
  rw [feed, ← chomp, extend]
  cases hline : Line.ofText (chomp s) with
  | noise => simp [push, headerOf?, instructionOf?, hline]
  | header address name =>
    simp [push, headerOf?, Routine.ofHeader, hline,
      word?_of_isHeader (Line.ofText_eq_header_iff.mp hline)]
  | instruction address bytes text =>
    simp only [word?_of_isInstruction (Line.ofText_eq_instruction_iff.mp hline)]
    by_cases hlt : valueOf 16 address < UInt64.size
    · cases scan.recent <;> simp [push, headerOf?, instructionOf?, hline, hlt]
    · simp [push, headerOf?, instructionOf?, hline, hlt]

theorem feed_eq_error_iff : (scan.feed s).2 = .error e ↔ ∃ address bytes text,
    Line.IsInstruction (chomp s) address bytes text ∧
    (UInt64.size ≤ valueOf 16 address ∧ e = .address (scan.line + 1) (String.ofList address) ∨
      valueOf 16 address < UInt64.size ∧ scan.recent = [] ∧
        e = .orphan (scan.line + 1) (String.ofList (chomp s))) := by
  simp only [← Line.ofText_eq_instruction_iff]
  rw [feed, ← chomp, extend]
  cases hline : Line.ofText (chomp s) with
  | noise => simp
  | header address name =>
    simp [word?_of_isHeader (Line.ofText_eq_header_iff.mp hline)]
  | instruction address bytes text =>
    simp only [word?_of_isInstruction (Line.ofText_eq_instruction_iff.mp hline)]
    by_cases hlt : valueOf 16 address < UInt64.size
    · cases scan.recent <;> simp [hlt, eq_comm]
    · simp [hlt, Nat.le_of_not_lt hlt, eq_comm]

theorem feed_eq_ok_of_isHeader {address name : List Char}
    (h : Line.IsHeader (chomp s) address name) : (scan.feed s).2 = .ok () := by
  cases hfed : (scan.feed s).2 with
  | ok _ => rfl
  | error e =>
    obtain ⟨address', bytes, text, hs, -⟩ := feed_eq_error_iff.mp hfed
    rw [← Line.ofText_eq_header_iff] at h
    rw [← Line.ofText_eq_instruction_iff, h] at hs
    cases hs

theorem routines_feed_of_error (h : (scan.feed s).2 = .error e) :
    (scan.feed s).1.routines = scan.routines := by
  rw [feed] at h ⊢
  split at h
  · cases h
  · rfl

theorem routines_feed_of_isNoise (h : IsNoise s) :
    (scan.feed s).1.routines = scan.routines := by
  have hinstruction : instructionOf? s = none := by
    refine Option.eq_none_iff_forall_ne_some.mpr fun i hi ↦ ?_
    obtain ⟨address, bytes, text, hs, -⟩ := instructionOf?_eq_some_iff.mp hi
    exact h.2 address bytes text hs
  have hpush : push scan.recent s = scan.recent := by
    simp [push, headerOf?_eq_none_iff.mpr h.1, hinstruction]
  rw [feed_fst, hpush]
  rfl

end Scan

section Sections

variable {s : List Char} {fed : List (List Char)} {r : Routine}

@[simp]
theorem leading_cons_of_header (h : headerOf? s = some r) : leading (s :: fed) = [] := by
  simp [leading, h]

@[simp]
theorem leading_cons_of_none (h : headerOf? s = none) :
    leading (s :: fed) = (instructionOf? s).toList ++ leading fed := by
  cases hi : instructionOf? s <;> simp [leading, h, hi]

@[simp]
theorem sections_cons_of_header (h : headerOf? s = some r) :
    sections (s :: fed) = { r with body := leading fed } :: sections fed := by
  rw [sections, h]

@[simp]
theorem sections_cons_of_none (h : headerOf? s = none) : sections (s :: fed) = sections fed := by
  rw [sections, h]

theorem sections_eq_nil_iff : sections fed = [] ↔ ∀ s ∈ fed, headerOf? s = none := by
  induction fed with
  | nil => simp [sections]
  | cons s fed ih =>
    cases h : headerOf? s with
    | none => simp [h, ih]
    | some r => simp [h]

theorem body_eq_nil_of_headerOf? (h : headerOf? s = some r) : r.body = [] := by
  obtain ⟨-, -, -, -, -, hbody, -⟩ := headerOf?_eq_some_iff.mp h
  exact hbody

theorem heads_of_headerOf? (h : headerOf? s = some r) : Heads s r := by
  obtain ⟨address, name, hheader, hname, hentry, -, hframe, hcallees⟩ :=
    headerOf?_eq_some_iff.mp h
  exact ⟨address, name, hheader, hname, hentry, hframe, hcallees⟩

theorem forall₂_heads_sections (fed : List (List Char)) :
    List.Forall₂ Heads (fed.filter fun s ↦ (headerOf? s).isSome) (sections fed) := by
  induction fed with
  | nil => exact .nil
  | cons s fed ih =>
    cases h : headerOf? s with
    | none =>
      rw [List.filter_cons_of_neg (by simp [h]), sections_cons_of_none h]
      exact ih
    | some r =>
      rw [List.filter_cons_of_pos (by simp [h]), sections_cons_of_header h]
      have hheads : Heads s r := heads_of_headerOf? h
      exact .cons hheads ih

end Sections

namespace Scan

variable {scan : Scan} {s : List Char} {fed : List (List Char)} {e : Error}

/-- Where reading stands after some more lines, faulty or not. -/
def after (scan : Scan) (fed : List (List Char)) : Scan :=
  fed.foldl (fun scan s ↦ (scan.feed s).1) scan

@[simp]
theorem after_cons (scan : Scan) (s : List Char) (fed : List (List Char)) :
    scan.after (s :: fed) = (scan.feed s).1.after fed := rfl

theorem after_eq (scan : Scan) (fed : List (List Char)) :
    scan.after fed = ⟨scan.line + fed.length, fed.foldl push scan.recent⟩ := by
  induction fed generalizing scan with
  | nil => rfl
  | cons s fed ih =>
    rw [after_cons, ih, feed_fst, List.foldl_cons, List.length_cons, Nat.add_assoc, Nat.add_comm 1]

theorem routines_cons (n : Nat) (r : Routine) (older : List Routine) :
    (Scan.mk n (r :: older)).routines =
      (Scan.mk n older).routines ++ [{ r with body := r.body.reverse }] := by
  rw [routines, List.map_cons, List.reverse_cons]
  rfl

/-- The routine that is open takes the instructions up to the next header, and the lines from there
on make routines of their own. -/
theorem routines_foldl_push_cons (n : Nat) (fed : List (List Char)) (r : Routine)
    (older : List Routine) : (Scan.mk n (fed.foldl push (r :: older))).routines =
      (Scan.mk n older).routines ++
        { r with body := r.body.reverse ++ leading fed } :: sections fed := by
  -- `r` is the open routine, whose last instruction comes first until a header closes it
  induction fed generalizing r older with
  | nil => simp [routines_cons, leading, sections]
  | cons s fed ih =>
    rw [List.foldl_cons]
    cases hheader : headerOf? s with
    | some next =>
      have hpush : push (r :: older) s = next :: r :: older := by simp [push, hheader]
      simp [hpush, ih, routines_cons, body_eq_nil_of_headerOf? hheader, hheader]
    | none =>
      rw [leading_cons_of_none hheader, sections_cons_of_none hheader]
      cases hinstruction : instructionOf? s with
      | some i =>
        have hpush : push (r :: older) s = { r with body := i :: r.body } :: older := by
          simp [push, hheader, hinstruction]
        rw [hpush, ih]
        simp
      | none =>
        have hpush : push (r :: older) s = r :: older := by simp [push, hheader, hinstruction]
        rw [hpush, ih]
        rfl

@[simp]
theorem routines_after_start (fed : List (List Char)) :
    (start.after fed).routines = sections fed := by
  have hnil (n : Nat) : (Scan.mk n (fed.foldl push [])).routines = sections fed := by
    induction fed with
    | nil => rfl
    | cons s fed ih =>
      rw [List.foldl_cons]
      cases hheader : headerOf? s with
      | some r =>
        have hpush : push [] s = [r] := by simp [push, hheader]
        rw [hpush, routines_foldl_push_cons, body_eq_nil_of_headerOf? hheader]
        simp [routines, hheader]
      | none =>
        have hpush : push [] s = [] := by simp [push, hheader]
        simp [hpush, ih, hheader]
  rw [after_eq]
  exact hnil _

theorem recent_after_start_eq_nil_iff : (start.after fed).recent = [] ↔
    ∀ s ∈ fed, ∀ address name, ¬Line.IsHeader (chomp s) address name := by
  have hroutines : (start.after fed).recent = [] ↔ (start.after fed).routines = [] := by
    simp [routines]
  simp only [hroutines, routines_after_start, sections_eq_nil_iff, headerOf?_eq_none_iff]

theorem feed_after_start_eq_error_iff :
    ((start.after fed).feed s).2 = .error e ↔ Fault fed s e := by
  have hline : (start.after fed).line = fed.length := by rw [after_eq, start, Nat.zero_add]
  rw [feed_eq_error_iff, hline, recent_after_start_eq_nil_iff]
  constructor
  · rintro ⟨address, bytes, text, hs, ⟨hle, rfl⟩ | ⟨hlt, hnone, rfl⟩⟩
    · exact .address hs hle
    · exact .orphan hs hlt hnone
  · intro h
    cases h with
    | address hs hle => exact ⟨_, _, _, hs, .inl ⟨hle, rfl⟩⟩
    | orphan hs hlt hnone => exact ⟨_, _, _, hs, .inr ⟨hlt, hnone, rfl⟩⟩

def Accepts (scan : Scan) (fed : List (List Char)) : Prop :=
  ∀ before s rest, fed = before ++ s :: rest → ((scan.after before).feed s).2 = .ok ()

theorem accepts_cons_iff : scan.Accepts (s :: fed) ↔
    (scan.feed s).2 = .ok () ∧ (scan.feed s).1.Accepts fed := by
  constructor
  · intro h
    refine ⟨h [] s fed rfl, ?_⟩
    rintro before t rest rfl
    exact h (s :: before) t rest rfl
  · rintro ⟨hs, h⟩ before t rest he
    cases before with
    | nil =>
      obtain ⟨rfl, rfl⟩ := List.cons.inj he
      exact hs
    | cons _ before =>
      obtain ⟨rfl, rfl⟩ := List.cons.inj he
      exact h before t rest rfl

@[simp]
theorem accepts_nil (scan : Scan) : scan.Accepts [] := by
  intro before s rest he
  simp at he

theorem accepts_start_iff : start.Accepts fed ↔ Faultless fed := by
  refine forall₄_congr fun before s rest he ↦ ?_
  simp only [← feed_after_start_eq_error_iff]
  cases ((start.after before).feed s).2 <;> simp

theorem foldlM_next_cons (scan : Scan) (s : List Char) (fed : List (List Char)) :
    (s :: fed).foldlM next scan = (scan.feed s).2.bind fun _ ↦ fed.foldlM next (scan.feed s).1 := by
  rw [List.foldlM_cons, next]
  rcases scan.feed s with ⟨scan', e | _⟩ <;> rfl

theorem foldlM_next_eq_ok_iff {scan' : Scan} :
    fed.foldlM next scan = .ok scan' ↔ scan.Accepts fed ∧ scan' = scan.after fed := by
  induction fed generalizing scan with
  | nil =>
    simp only [List.foldlM_nil, accepts_nil, true_and]
    exact ⟨fun h ↦ (Except.ok.inj h).symm, fun h ↦ congrArg _ h.symm⟩
  | cons s fed ih =>
    rw [foldlM_next_cons, accepts_cons_iff, after_cons]
    cases hs : (scan.feed s).2 with
    | error e => exact ⟨nofun, fun h ↦ nomatch h.1.1⟩
    | ok _ => simpa [Except.bind] using ih

theorem foldlM_next_eq_error_iff : fed.foldlM next scan = .error e ↔ ∃ before s rest,
    fed = before ++ s :: rest ∧ scan.Accepts before ∧
      ((scan.after before).feed s).2 = .error e := by
  induction fed generalizing scan with
  | nil => exact ⟨nofun, by simp⟩
  | cons s fed ih =>
    rw [foldlM_next_cons]
    constructor
    · cases hs : (scan.feed s).2 with
      | error e' =>
        intro h
        exact ⟨[], s, fed, rfl, accepts_nil scan, hs.trans (congrArg _ (Except.error.inj h))⟩
      | ok _ =>
        intro h
        obtain ⟨before, t, rest, rfl, haccepts, ht⟩ := ih.mp h
        exact ⟨s :: before, t, rest, rfl, accepts_cons_iff.mpr ⟨hs, haccepts⟩, ht⟩
    · rintro ⟨_ | ⟨_, before⟩, t, rest, he, haccepts, ht⟩ <;> obtain ⟨rfl, rfl⟩ := List.cons.inj he
      · rw [show (scan.feed s).2 = .error e from ht]
        rfl
      · obtain ⟨hs, haccepts⟩ := accepts_cons_iff.mp haccepts
        rw [hs]
        exact ih.mpr ⟨before, t, rest, rfl, haccepts, ht⟩

theorem feed_eq_feed_chomp (scan : Scan) (s : List Char) : scan.feed s = scan.feed (chomp s) := by
  rw [feed, feed, ← chomp, ← chomp]
  have hchomp : chomp (chomp s) = chomp s := List.rdropWhile_idempotent _ s
  rw [hchomp]

theorem foldlM_next_map_chomp (fed : List (List Char)) (scan : Scan) :
    (fed.map chomp).foldlM next scan = fed.foldlM next scan := by
  have hnext (scan : Scan) (s : List Char) : scan.next (chomp s) = scan.next s := by
    rw [next, next, ← feed_eq_feed_chomp]
  rw [List.foldlM_map]
  simp only [hnext]

end Scan

theorem ofText_eq (listing : String) : ofText listing =
    ((rows listing.toList).foldlM Scan.next Scan.start).map Scan.routines := by
  rw [ofText, lines, ← Scan.foldlM_next_map_chomp,
    ← map_rowsBy_eq_map_pieces chomp_concat_return, Scan.foldlM_next_map_chomp, rows_eq_rowsBy]

theorem ofText_eq_ok_iff {listing : String} {rs : List Routine} : ofText listing = .ok rs ↔
    Faultless (rows listing.toList) ∧ rs = sections (rows listing.toList) := by
  rw [ofText_eq, ← Scan.accepts_start_iff, ← Scan.routines_after_start]
  constructor
  · intro h
    cases hread : (rows listing.toList).foldlM Scan.next Scan.start with
    | error e => simp [hread, Except.map] at h
    | ok scan =>
      obtain ⟨haccepts, rfl⟩ := Scan.foldlM_next_eq_ok_iff.mp hread
      rw [hread] at h
      exact ⟨haccepts, (Except.ok.inj h).symm⟩
  · rintro ⟨haccepts, rfl⟩
    rw [Scan.foldlM_next_eq_ok_iff.mpr ⟨haccepts, rfl⟩]
    rfl

theorem ofText_eq_error_iff {listing : String} {e : Error} : ofText listing = .error e ↔
    ∃ before s rest, rows listing.toList = before ++ s :: rest ∧ Faultless before ∧
      Fault before s e := by
  have hmap : ofText listing = .error e ↔
      (rows listing.toList).foldlM Scan.next Scan.start = .error e := by
    rw [ofText_eq]
    cases (rows listing.toList).foldlM Scan.next Scan.start <;> simp [Except.map]
  simp only [hmap, Scan.foldlM_next_eq_error_iff, Scan.accepts_start_iff,
    Scan.feed_after_start_eq_error_iff]

/-- Reading is determined line by line. Feeding a line fails where it is an instruction whose
address does not fit, or else one without a header before it, and with the number of the line among
all lines fed; a line that fails or is noise changes no routine. The routines that have been read
are one for each header, in order, with its name and address, a frame of zero, no callees, and the
instructions up to the next header. A listing has the first of these faults, or none and these
routines. -/
theorem reading_line_by_line :
    (∀ s r, headerOf? s = some r ↔ ∃ address name, Line.IsHeader (chomp s) address name ∧
      r.name = String.ofList name ∧ r.entry.toNat = valueOf 16 address ∧ r.body = [] ∧
      r.frame = 0 ∧ r.callees = []) ∧
    (∀ s i, instructionOf? s = some i ↔
      ∃ address bytes text, Line.IsInstruction (chomp s) address bytes text ∧
        i.address.toNat = valueOf 16 address ∧ i.rawBytes = String.ofList bytes ∧
        i = .ofText (UInt64.ofNat (valueOf 16 address)) (String.ofList bytes)
          (String.ofList text)) ∧
    (∀ fed s, let scan := Scan.start.after fed
      (∀ e, (scan.feed s).2 = .error e ↔ Fault fed s e) ∧
      (∀ address name, Line.IsHeader (chomp s) address name → (scan.feed s).2 = .ok ()) ∧
      ((∃ e, (scan.feed s).2 = .error e) ∨ IsNoise s →
        (scan.feed s).1.routines = scan.routines)) ∧
    (∀ fed, (Scan.start.after fed).routines = sections fed ∧
      List.Forall₂ Heads (fed.filter fun s ↦ (headerOf? s).isSome)
        (Scan.start.after fed).routines) ∧
    ∀ listing : String,
      (∀ e, ofText listing = .error e ↔ ∃ before s rest,
        rows listing.toList = before ++ s :: rest ∧ Faultless before ∧ Fault before s e) ∧
      ∀ rs, ofText listing = .ok rs ↔
        Faultless (rows listing.toList) ∧ rs = sections (rows listing.toList) := by
  refine ⟨fun _ _ ↦ headerOf?_eq_some_iff, fun _ _ ↦ instructionOf?_eq_some_iff, fun fed s ↦ ?_,
    fun fed ↦ ?_, fun _ ↦ ⟨fun _ ↦ ofText_eq_error_iff, fun _ ↦ ofText_eq_ok_iff⟩⟩
  · refine ⟨fun _ ↦ Scan.feed_after_start_eq_error_iff, fun _ _ ↦ Scan.feed_eq_ok_of_isHeader, ?_⟩
    rintro (⟨e, he⟩ | hnoise)
    · exact Scan.routines_feed_of_error he
    · exact Scan.routines_feed_of_isNoise hnoise
  · rw [Scan.routines_after_start]
    exact ⟨rfl, forall₂_heads_sections fed⟩

example : ofText "00008000 <f>:\r\n    8000:\tb082      \tsub\tsp, #8\n" =
    .ok [⟨"f", 0x8000, [⟨0x8000, "b082", "sub", "sp, #8", "", .stackAdjust 8⟩], 0, []⟩] := by
  decide +kernel

end StackDepth.Listing
