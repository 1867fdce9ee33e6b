import StackDepth.Listing.Line
import StackDepth.Proofs.TextCut
import Mathlib.Data.List.TakeWhile
import Mathlib.Data.Option.Basic

namespace StackDepth.Listing.Line

open Text

/-- Eight digits, a blank, a name in angle brackets, a colon. -/
structure IsHeader (s address name : List Char) : Prop where
  line : s = address ++ " <".toList ++ name ++ ">:".toList
  length : address.length = 8
  digits : ∀ c ∈ address, isHex c
  name_ne : name ≠ []
  nameChars : ∀ c ∈ name, isNameChar c

theorem header?_eq_some_iff {s : List Char} {l : Line} :
    header? s = some l ↔ ∃ address name, IsHeader s address name ∧ l = .header address name := by
  simp only [header?, Option.bind_eq_bind, Option.bind_eq_some_iff, Option.guard_eq_some',
    after?_eq_some_iff, exists_const]
  constructor
  · rintro ⟨⟨hlength, hdigits⟩, rest, hrest, ⟨hne, hend⟩, ⟨⟩⟩
    refine ⟨s.take 8, rest.takeWhile isNameChar,
      ⟨?_, hlength, by simpa using hdigits, hne, ?_⟩, rfl⟩
    · rw [List.append_assoc, ← hend, List.takeWhile_append_dropWhile, List.append_assoc, ← hrest,
        List.take_append_drop]
    · exact fun c hc ↦ List.mem_takeWhile_imp hc
  · rintro ⟨address, name, ⟨rfl, hlength, hdigits, hne, hname⟩, rfl⟩
    have hstop : ∀ c ∈ ">:".toList.head?, isNameChar c = false := by
      rintro _ ⟨⟩
      decide
    have htake : (address ++ " <".toList ++ name ++ ">:".toList).take 8 = address := by
      rw [List.append_assoc, List.append_assoc, ← hlength, List.take_left]
    refine ⟨⟨by rw [htake, hlength], by rw [htake]; simpa using hdigits⟩, name ++ ">:".toList,
      ?_, ?_, ?_⟩
    · rw [List.append_assoc, List.append_assoc, ← hlength, List.drop_left]
    · rw [takeWhile_append_eq hname hstop, dropWhile_append_eq hname hstop]
      exact ⟨hne, rfl⟩
    · rw [takeWhile_append_eq hname hstop, htake]
      rfl

structure IsRun (p : Char → Bool) (w : List Char) : Prop where
  ne_nil : w ≠ []
  forall_mem : ∀ c ∈ w, p c

theorem isRun_of_all {p : Char → Bool} {w : List Char} (hne : w ≠ []) (hall : w.all p) :
    IsRun p w :=
  ⟨hne, List.all_eq_true.mp hall⟩

section Greedy

variable {β : Type} {p : Char → Bool} {k : List Char → Option β} {s w rest : List Char} {b : β}

/-- The longest run in `p` at the beginning of a text after which `k` can read the rest, and what
`k` reads there. -/
def greedy (p : Char → Bool) (k : List Char → Option β) : List Char → Option (List Char × β)
  | [] => none
  | c :: s =>
    if p c then
      ((greedy p k s).map fun (w, b) ↦ (c :: w, b)).or ((k s).map fun b ↦ ([c], b))
    else none

theorem greedy_cons_of_pos {c : Char} (hc : p c) : greedy p k (c :: s) =
    ((greedy p k s).map fun (w, b) ↦ (c :: w, b)).or ((k s).map fun b ↦ ([c], b)) := by
  rw [greedy, if_pos hc]

theorem greedy_of_head? (h : ∀ c ∈ s.head?, p c = false) : greedy p k s = none := by
  cases s with
  | nil => rfl
  | cons c s => rw [greedy, h c rfl]; rfl

theorem exists_rest_of_greedy (h : greedy p k s = some (w, b)) :
    ∃ rest, s = w ++ rest ∧ IsRun p w ∧ k rest = some b := by
  induction s generalizing w with
  | nil => cases h
  | cons c s ih =>
    by_cases hc : p c
    · rw [greedy_cons_of_pos hc, Option.or_eq_some_iff] at h
      simp only [Option.map_eq_some_iff, Prod.mk.injEq, Prod.exists] at h
      rcases h with ⟨w, b, hw, rfl, rfl⟩ | ⟨-, b, hb, rfl, rfl⟩
      · obtain ⟨rest, rfl, hrun, hrest⟩ := ih hw
        exact ⟨rest, rfl, ⟨List.cons_ne_nil c w, List.forall_mem_cons.mpr ⟨hc, hrun.forall_mem⟩⟩,
          hrest⟩
      · exact ⟨s, rfl, ⟨List.cons_ne_nil c [], by simpa using hc⟩, hb⟩
    · rw [greedy, if_neg hc] at h
      cases h

theorem exists_greedy_append (hw : IsRun p w) (hb : k rest = some b) :
    ∃ w' b', greedy p k (w ++ rest) = some (w', b') ∧ w.length ≤ w'.length := by
  obtain ⟨hne, hmem⟩ := hw
  induction w with
  | nil => exact absurd rfl hne
  | cons c w ih =>
    obtain ⟨hc, hmem⟩ := List.forall_mem_cons.mp hmem
    rw [List.cons_append, greedy_cons_of_pos hc]
    by_cases hw : w = []
    · subst hw
      rw [List.nil_append, hb]
      cases greedy p k rest with
      | none => exact ⟨[c], b, rfl, Nat.le_refl _⟩
      | some found => exact ⟨c :: found.1, found.2, rfl, by simp⟩
    · obtain ⟨w', b', hgreedy, hle⟩ := ih hw hmem
      rw [hgreedy]
      exact ⟨c :: w', b', rfl, by simpa using hle⟩

theorem length_le_of_greedy {w' : List Char} {b' : β} (h : greedy p k (w ++ rest) = some (w', b'))
    (hw : IsRun p w) (hb : k rest = some b) : w.length ≤ w'.length := by
  obtain ⟨w'', b'', h', hle⟩ := exists_greedy_append hw hb
  obtain ⟨rfl, rfl⟩ := Prod.mk.inj (Option.some.inj (h'.symm.trans h))
  exact hle

theorem greedy_append_of_forall {u : List Char} (hu : ∀ c ∈ u, p c)
    (h : greedy p k s = some (w, b)) : greedy p k (u ++ s) = some (u ++ w, b) := by
  induction u with
  | nil => exact h
  | cons c u ih =>
    obtain ⟨hc, hu⟩ := List.forall_mem_cons.mp hu
    rw [List.cons_append, greedy_cons_of_pos hc, ih hu]
    rfl

end Greedy

def text? : List Char → Option (List Char)
  | '\t' :: t => if '\n' ∈ t then none else some t
  | _ => none

def padText? (s : List Char) : Option (List Char × List Char) :=
  greedy isWhite text? s

def bytesText? (s : List Char) : Option (List Char × List Char × List Char) :=
  greedy isByteChar padText? s

def operation? (s : List Char) : Option (List Char × List Char × List Char × List Char) :=
  greedy isWhite bytesText? s

theorem text?_tab {t : List Char} (h : '\n' ∉ t) : text? ('\t' :: t) = some t := if_neg h

theorem text?_of_ne_tab {c : Char} {t : List Char} (h : c ≠ '\t') : text? (c :: t) = none := by
  rw [text?]
  rintro t' ⟨⟩
  exact h rfl

theorem text?_eq_some {s t : List Char} (h : text? s = some t) : s = '\t' :: t ∧ '\n' ∉ t := by
  unfold text? at h
  split at h
  · obtain ⟨hn, h⟩ := Option.ite_none_left_eq_some.mp h
    exact ⟨congrArg _ (Option.some.inj h), Option.some.inj h ▸ hn⟩
  · cases h

/-- Reading a text once from its end gives in all four places what reading it part by part does. -/
theorem reading_of_eq (s : List Char) : Reading.of s =
    ⟨((padText? s).map (·.2)).or (text? s), (padText? s).map (·.2),
      (bytesText? s).map fun x ↦ (x.1, x.2.2), (operation? s).map fun x ↦ (x.2.1, x.2.2.2)⟩ := by
  induction s with
  | nil => rfl
  | cons c s ih =>
    rw [Reading.of, ih, Reading.push]
    dsimp only
    -- one goal for each of the four places, with the innermost part first
    congr 1
    · by_cases hc : isWhite c
      · have htext : (if c = '\t' ∧ '\n' ∉ s then some s else none) = text? (c :: s) := by
          by_cases htab : c = '\t'
          · subst htab
            by_cases hn : '\n' ∈ s <;> simp [text?, hn]
          · rw [text?_of_ne_tab htab, if_neg fun h ↦ htab h.1]
        rw [if_pos hc, htext, show padText? (c :: s) = _ from greedy_cons_of_pos hc, ← padText?]
        cases padText? s <;> cases text? s <;> rfl
      · have htab : c ≠ '\t' := fun he ↦ hc (he ▸ rfl)
        simp [padText?, greedy, hc, text?_of_ne_tab htab]
    · by_cases hc : isWhite c
      · rw [if_pos hc, show padText? (c :: s) = _ from greedy_cons_of_pos hc, ← padText?]
        cases padText? s <;> cases text? s <;> rfl
      · simp [padText?, greedy, hc]
    · by_cases hc : isByteChar c
      · rw [if_pos hc, show bytesText? (c :: s) = _ from greedy_cons_of_pos hc, ← bytesText?]
        cases bytesText? s <;> cases padText? s <;> rfl
      · simp [bytesText?, greedy, hc]
    · by_cases hc : isWhite c
      · rw [if_pos hc, show operation? (c :: s) = _ from greedy_cons_of_pos hc, ← operation?]
        cases operation? s <;> cases bytesText? s <;> rfl
      · simp [operation?, greedy, hc]

section Front

variable {indent address rest : List Char}

theorem dropWhile_isWhite_line (hindent : IsRun isWhite indent) (haddress : IsRun isHex address) :
    (indent ++ (address ++ ':' :: rest)).dropWhile isWhite = address ++ ':' :: rest := by
  refine dropWhile_append_eq hindent.forall_mem ?_
  obtain ⟨c, digits, rfl⟩ := List.exists_cons_of_ne_nil haddress.ne_nil
  rintro _ ⟨⟩
  exact isWhite_eq_false_of_isHex (haddress.forall_mem c List.mem_cons_self)

theorem isHex_colon : ∀ c ∈ (':' :: rest).head?, isHex c = false := by
  rintro _ ⟨⟩
  decide

end Front

structure Parts where
  indent : List Char
  address : List Char
  gap : List Char
  bytes : List Char
  pad : List Char
  text : List Char

namespace Parts

variable {x y : Parts} {s : List Char}

def operation (x : Parts) : List Char :=
  x.gap ++ (x.bytes ++ (x.pad ++ '\t' :: x.text))

def line (x : Parts) : List Char :=
  x.indent ++ (x.address ++ ':' :: x.operation)

structure Fits (x : Parts) : Prop where
  indent : IsRun isWhite x.indent
  address : IsRun isHex x.address
  gap : IsRun isWhite x.gap
  bytes : IsRun isByteChar x.bytes
  pad : IsRun isWhite x.pad
  text : '\n' ∉ x.text

/-- A longer gap comes first, then longer bytes, then a longer pad. -/
def Precedes (x y : Parts) : Prop :=
  y.gap.length < x.gap.length ∨ y.gap.length = x.gap.length ∧
    (y.bytes.length < x.bytes.length ∨ y.bytes.length = x.bytes.length ∧
      y.pad.length ≤ x.pad.length)

/-- The parts of a line that come first among all that fit. -/
structure FirstOf (x : Parts) (s : List Char) : Prop where
  line : x.line = s
  fits : x.Fits
  precedes : ∀ y : Parts, y.Fits → y.line = s → x.Precedes y

/-- The white space, the digits and the colon in front leave no choice. -/
theorem Fits.eq_of_line_eq (hx : x.Fits) (hy : y.Fits) (h : x.line = y.line) :
    x.indent = y.indent ∧ x.address = y.address ∧ x.operation = y.operation := by
  have hrest : x.address ++ ':' :: x.operation = y.address ++ ':' :: y.operation := by
    rw [← dropWhile_isWhite_line hx.indent hx.address, ← line, h, line,
      dropWhile_isWhite_line hy.indent hy.address]
  have hindent : x.indent = y.indent := by
    rw [line, line, hrest] at h
    exact List.append_cancel_right h
  have haddress : x.address = y.address := by
    rw [← takeWhile_append_eq hx.address.forall_mem isHex_colon, hrest,
      takeWhile_append_eq hy.address.forall_mem isHex_colon]
  rw [haddress] at hrest
  exact ⟨hindent, haddress, (List.cons.inj (List.append_cancel_left hrest)).2⟩

theorem Precedes.antisymm (hx : x.Precedes y) (hy : y.Precedes x) :
    x.gap.length = y.gap.length ∧ x.bytes.length = y.bytes.length ∧ x.pad.length = y.pad.length := by
  unfold Precedes at hx hy
  omega

theorem FirstOf.unique (hx : x.FirstOf s) (hy : y.FirstOf s) : x = y := by
  obtain ⟨hindent, haddress, hoperation⟩ :=
    hx.fits.eq_of_line_eq hy.fits (hx.line.trans hy.line.symm)
  obtain ⟨hgap, hbytes, hpad⟩ :=
    (hx.precedes y hy.fits hy.line).antisymm (hy.precedes x hx.fits hx.line)
  obtain ⟨hgap, hoperation⟩ := List.append_inj hoperation hgap
  obtain ⟨hbytes, hoperation⟩ := List.append_inj hoperation hbytes
  obtain ⟨hpad, hoperation⟩ := List.append_inj hoperation hpad
  cases x
  cases y
  simp_all

end Parts

section Operation

variable {s gap bytes pad text : List Char} {x y : Parts} {l : Line}

theorem padText?_eq_some (h : padText? s = some (pad, text)) :
    s = pad ++ '\t' :: text ∧ IsRun isWhite pad ∧ '\n' ∉ text := by
  obtain ⟨rest, rfl, hpad, hrest⟩ := exists_rest_of_greedy h
  obtain ⟨rfl, htext⟩ := text?_eq_some hrest
  exact ⟨rfl, hpad, htext⟩

theorem bytesText?_eq_some (h : bytesText? s = some (bytes, pad, text)) :
    s = bytes ++ (pad ++ '\t' :: text) ∧ IsRun isByteChar bytes ∧
      padText? (pad ++ '\t' :: text) = some (pad, text) := by
  obtain ⟨rest, rfl, hbytes, hrest⟩ := exists_rest_of_greedy h
  obtain ⟨rfl, -⟩ := padText?_eq_some hrest
  exact ⟨rfl, hbytes, hrest⟩

theorem operation?_eq_some (h : operation? s = some (gap, bytes, pad, text)) :
    s = gap ++ (bytes ++ (pad ++ '\t' :: text)) ∧ IsRun isWhite gap ∧
      bytesText? (bytes ++ (pad ++ '\t' :: text)) = some (bytes, pad, text) := by
  obtain ⟨rest, rfl, hgap, hrest⟩ := exists_rest_of_greedy h
  obtain ⟨rfl, -⟩ := bytesText?_eq_some hrest
  exact ⟨rfl, hgap, hrest⟩

theorem Parts.Fits.exists_padText? (hx : x.Fits) :
    ∃ found, padText? (x.pad ++ '\t' :: x.text) = some found := by
  obtain ⟨pad, text, h, -⟩ := exists_greedy_append hx.pad (text?_tab hx.text)
  exact ⟨(pad, text), h⟩

theorem Parts.Fits.exists_bytesText? (hx : x.Fits) :
    ∃ found, bytesText? (x.bytes ++ (x.pad ++ '\t' :: x.text)) = some found := by
  obtain ⟨_, hpad⟩ := hx.exists_padText?
  obtain ⟨bytes, found, h, -⟩ := exists_greedy_append hx.bytes hpad
  exact ⟨(bytes, found), h⟩

theorem Parts.Fits.exists_operation? (hx : x.Fits) :
    ∃ gap bytes pad text, operation? x.operation = some (gap, bytes, pad, text) := by
  obtain ⟨_, hbytes⟩ := hx.exists_bytesText?
  obtain ⟨gap, ⟨bytes, pad, text⟩, h, -⟩ := exists_greedy_append hx.gap hbytes
  exact ⟨gap, bytes, pad, text, h⟩

/-- What is read part by part comes first: a part is never shorter than in another form with the
same parts in front of it. -/
theorem precedes_of_operation?
    (h : operation? y.operation = some (x.gap, x.bytes, x.pad, x.text)) (hy : y.Fits) :
    x.Precedes y := by
  obtain ⟨hline, -, hbytesText⟩ := operation?_eq_some h
  obtain ⟨-, -, hpadText⟩ := bytesText?_eq_some hbytesText
  obtain ⟨_, hyBytes⟩ := hy.exists_bytesText?
  obtain ⟨_, hyPad⟩ := hy.exists_padText?
  have hgap : y.gap.length ≤ x.gap.length := length_le_of_greedy h hy.gap hyBytes
  rcases Nat.lt_or_eq_of_le hgap with hgap | hgap
  · exact .inl hgap
  obtain ⟨-, hline⟩ := List.append_inj hline hgap
  rw [← hline] at hbytesText
  have hbytes : y.bytes.length ≤ x.bytes.length := length_le_of_greedy hbytesText hy.bytes hyPad
  rcases Nat.lt_or_eq_of_le hbytes with hbytes | hbytes
  · exact .inr ⟨hgap, .inl hbytes⟩
  obtain ⟨-, hline⟩ := List.append_inj hline hbytes
  rw [← hline] at hpadText
  have hpad : y.pad.length ≤ x.pad.length :=
    length_le_of_greedy hpadText hy.pad (text?_tab hy.text)
  exact .inr ⟨hgap, .inr ⟨hbytes, hpad⟩⟩

theorem instruction?_eq_some_iff : instruction? s = some l ↔ ∃ x : Parts, x.line = s ∧
    IsRun isWhite x.indent ∧ IsRun isHex x.address ∧
    operation? x.operation = some (x.gap, x.bytes, x.pad, x.text) ∧
    l = .instruction x.address (trim x.bytes) x.text := by
  simp only [instruction?, Option.bind_eq_bind, Option.bind_eq_some_iff, Option.guard_eq_some',
    after?_eq_some_iff, exists_const, reading_of_eq, Option.map_eq_some_iff]
  constructor
  · rintro ⟨hindent, haddress, rest, hrest, _, ⟨⟨gap, bytes, pad, text⟩, hfound, rfl⟩, ⟨⟩⟩
    let x : Parts := ⟨s.takeWhile isWhite, (s.dropWhile isWhite).takeWhile isHex, gap, bytes, pad,
      text⟩
    have hoperation : x.operation = rest := (operation?_eq_some hfound).1.symm
    refine ⟨x, ?_, ⟨fun hnil ↦ ?_, fun c hc ↦ List.mem_takeWhile_imp hc⟩,
      ⟨haddress, fun c hc ↦ List.mem_takeWhile_imp hc⟩, hoperation ▸ hfound, rfl⟩
    · rw [Parts.line, hoperation]
      change s.takeWhile isWhite ++ ((s.dropWhile isWhite).takeWhile isHex ++ ([':'] ++ rest)) = s
      rw [← hrest, List.takeWhile_append_dropWhile, List.takeWhile_append_dropWhile]
    · have hs := List.takeWhile_append_dropWhile (p := isWhite) (l := s)
      rw [show s.takeWhile isWhite = [] from hnil, List.nil_append] at hs
      rw [hs] at hindent
      exact Nat.lt_irrefl _ hindent
  · rintro ⟨x, rfl, hindent, haddress, hfound, rfl⟩
    have hdrop : x.line.dropWhile isWhite = x.address ++ ':' :: x.operation :=
      dropWhile_isWhite_line hindent haddress
    rw [hdrop, takeWhile_append_eq haddress.forall_mem isHex_colon,
      dropWhile_append_eq haddress.forall_mem isHex_colon]
    refine ⟨?_, haddress.ne_nil, x.operation, rfl, _, ⟨_, hfound, rfl⟩, rfl⟩
    have hpos := List.length_pos_iff.mpr hindent.ne_nil
    simp only [Parts.line, List.length_append]
    omega

theorem exists_firstOf_of_instruction? (h : instruction? s = some l) :
    ∃ x : Parts, x.FirstOf s ∧ l = .instruction x.address (trim x.bytes) x.text := by
  obtain ⟨x, rfl, hindent, haddress, hfound, rfl⟩ := instruction?_eq_some_iff.mp h
  obtain ⟨-, hgap, hbytesText⟩ := operation?_eq_some hfound
  obtain ⟨-, hbytes, hpadText⟩ := bytesText?_eq_some hbytesText
  obtain ⟨-, hpad, htext⟩ := padText?_eq_some hpadText
  have hfits : x.Fits := ⟨hindent, haddress, hgap, hbytes, hpad, htext⟩
  refine ⟨x, ⟨rfl, hfits, fun y hy hline ↦ ?_⟩, rfl⟩
  obtain ⟨-, -, hoperation⟩ := hy.eq_of_line_eq hfits hline
  exact precedes_of_operation? (hoperation ▸ hfound) hy

theorem exists_instruction?_of_fits (hy : y.Fits) : ∃ l, instruction? y.line = some l := by
  obtain ⟨gap, bytes, pad, text, hfound⟩ := hy.exists_operation?
  have hoperation := (operation?_eq_some hfound).1
  refine ⟨_, instruction?_eq_some_iff.mpr ⟨⟨y.indent, y.address, gap, bytes, pad, text⟩, ?_,
    hy.indent, hy.address, ?_, rfl⟩⟩
  · rw [Parts.line, Parts.line, hoperation]
    rfl
  · rw [hoperation] at hfound
    exact hfound

end Operation

theorem header?_eq_none_of_fits {x : Parts} (hx : x.Fits) : header? x.line = none := by
  refine Option.eq_none_iff_forall_ne_some.mpr fun l hl ↦ ?_
  obtain ⟨address, name, hheader, -⟩ := header?_eq_some_iff.mp hl
  obtain ⟨white, indent, hindent⟩ := List.exists_cons_of_ne_nil hx.indent.ne_nil
  obtain ⟨digit, digits, rfl⟩ :=
    List.exists_cons_of_ne_nil (List.ne_nil_of_length_pos (by rw [hheader.length]; decide))
  have hline := hheader.line
  rw [Parts.line, hindent] at hline
  obtain rfl : white = digit := (List.cons.inj hline).1
  have hwhite := hx.indent.forall_mem white (by simp [hindent])
  rw [isWhite_eq_false_of_isHex (hheader.digits white List.mem_cons_self)] at hwhite
  cases hwhite

/-- The address, the bytes and the text of a line by the parts of it that come first. -/
def IsInstruction (s address bytes text : List Char) : Prop :=
  ∃ x : Parts, x.FirstOf s ∧ x.address = address ∧ trim x.bytes = bytes ∧ x.text = text

theorem ofText_eq_header_iff {s address name : List Char} :
    ofText s = .header address name ↔ IsHeader s address name := by
  constructor
  · intro h
    cases hheader : header? s with
    | some l =>
      obtain ⟨address', name', hs, rfl⟩ := header?_eq_some_iff.mp hheader
      simp only [ofText, hheader, Option.some_or, Option.getD_some, header.injEq] at h
      exact h.1 ▸ h.2 ▸ hs
    | none =>
      cases hinstruction : instruction? s with
      | some l =>
        obtain ⟨x, -, rfl⟩ := exists_firstOf_of_instruction? hinstruction
        simp [ofText, hheader, hinstruction] at h
      | none => simp [ofText, hheader, hinstruction] at h
  · intro h
    rw [ofText, header?_eq_some_iff.mpr ⟨address, name, h, rfl⟩]
    rfl

theorem ofText_eq_instruction_iff {s address bytes text : List Char} :
    ofText s = .instruction address bytes text ↔ IsInstruction s address bytes text := by
  constructor
  · intro h
    cases hheader : header? s with
    | some l =>
      obtain ⟨address', name', hs, rfl⟩ := header?_eq_some_iff.mp hheader
      simp [ofText, hheader] at h
    | none =>
      cases hinstruction : instruction? s with
      | some l =>
        obtain ⟨x, hx, rfl⟩ := exists_firstOf_of_instruction? hinstruction
        simp only [ofText, hheader, hinstruction, Option.none_or, Option.getD_some,
          instruction.injEq] at h
        exact ⟨x, hx, h⟩
      | none => simp [ofText, hheader, hinstruction] at h
  · rintro ⟨x, hx, rfl, rfl, rfl⟩
    obtain ⟨l, hl⟩ := exists_instruction?_of_fits hx.fits
    rw [hx.line] at hl
    obtain ⟨y, hy, rfl⟩ := exists_firstOf_of_instruction? hl
    have hheader : header? s = none := hx.line ▸ header?_eq_none_of_fits hx.fits
    rw [ofText, hheader, hl, hx.unique hy]
    rfl

end StackDepth.Listing.Line
