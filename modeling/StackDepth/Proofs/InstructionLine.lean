import StackDepth.Proofs.LineByLine

namespace StackDepth.Listing

open Text

namespace Line

variable {s : List Char} {x : Parts}

theorem Parts.Fits.exists_firstOf (hx : x.Fits) : ∃ y : Parts, y.FirstOf x.line := by
  obtain ⟨l, hl⟩ := exists_instruction?_of_fits hx
  obtain ⟨y, hy, -⟩ := exists_firstOf_of_instruction? hl
  exact ⟨y, hy⟩

theorem Parts.FirstOf.isInstruction (hx : x.FirstOf s) :
    IsInstruction s x.address (trim x.bytes) x.text :=
  ⟨x, hx, rfl, rfl, rfl⟩

theorem ofText_eq_noise (hheader : ∀ address name, ¬IsHeader s address name)
    (hparts : ¬∃ x : Parts, x.Fits ∧ x.line = s) : ofText s = .noise := by
  cases h : ofText s with
  | header address name => exact absurd (ofText_eq_header_iff.mp h) (hheader address name)
  | instruction address bytes text =>
    obtain ⟨x, hx, -⟩ := ofText_eq_instruction_iff.mp h
    exact absurd ⟨x, hx.fits, hx.line⟩ hparts
  | noise => rfl

end Line

namespace Scan

variable {scan : Scan} {s : List Char} {x : Line.Parts}

def skip (scan : Scan) : Scan × Except Error Unit :=
  (⟨scan.line + 1, scan.recent⟩, .ok ())

def take (scan : Scan) (x : Line.Parts) : Scan × Except Error Unit :=
  let line := scan.line + 1
  if UInt64.size ≤ valueOf 16 x.address then
    (⟨line, scan.recent⟩, .error (.address line (String.ofList x.address)))
  else match scan.recent with
    | [] => (⟨line, []⟩, .error (.orphan line (String.ofList x.line)))
    | r :: older =>
      let i := Instruction.ofText (UInt64.ofNat (valueOf 16 x.address))
        (String.ofList (trim x.bytes)) (String.ofList x.text)
      (⟨line, { r with body := i :: r.body } :: older⟩, .ok ())

theorem take_ne_skip (scan : Scan) (x : Line.Parts) : scan.take x ≠ scan.skip := by
  intro h
  rw [take, skip] at h
  split at h
  · simp at h
  · cases hrecent : scan.recent with
    | nil => simp [hrecent] at h
    | cons r older =>
      have hbody := congrArg (fun y ↦ y.1.recent.map fun r ↦ r.body.length) h
      simp [hrecent] at hbody

theorem feed_of_firstOf (scan : Scan) (hx : x.FirstOf (chomp s)) :
    scan.feed s = scan.take x := by
  have hs := hx.isInstruction
  rw [feed, ← chomp, extend, Line.ofText_eq_instruction_iff.mpr hs]
  simp only [word?_of_isInstruction hs, take]
  by_cases hlt : valueOf 16 x.address < UInt64.size
  · cases scan.recent <;> simp [hlt, hx.line]
  · simp [hlt, Nat.le_of_not_lt hlt]

theorem feed_of_noise (scan : Scan) (h : Line.ofText (chomp s) = .noise) :
    scan.feed s = scan.skip := by
  rw [feed, ← chomp, extend, h]
  rfl

theorem exists_recent_take {r : Routine} {older : List Routine} (hrecent : scan.recent = r :: older)
    (hlt : valueOf 16 x.address < UInt64.size) : ∃ i,
      (scan.take x).1.recent = { r with body := i :: r.body } :: older ∧
      i.address.toNat = valueOf 16 x.address ∧ i.rawBytes = String.ofList (trim x.bytes) ∧
      i = .ofText i.address i.rawBytes (String.ofList x.text) := by
  refine ⟨.ofText (UInt64.ofNat (valueOf 16 x.address)) (String.ofList (trim x.bytes))
    (String.ofList x.text), ?_, UInt64.toNat_ofNat_of_lt' hlt, rfl, rfl⟩
  rw [take, if_neg (Nat.not_le.mpr hlt), hrecent]

/-- A line that is no header is taken for an instruction if and only if it can be written as white
space, digits, a colon, white space, bytes, white space, a TAB and a text without a line feed. Of
all ways to do so one comes first, and its address, bytes and text are the ones that are kept: the
routine that is open gets an instruction with this address and these bytes, read from this text. -/
theorem feed_instruction_iff_parts (s : List Char)
    (hheader : ∀ address name, ¬Line.IsHeader (chomp s) address name) (scan : Scan) :
    (scan.feed s ≠ scan.skip ↔ ∃ x : Line.Parts, x.Fits ∧ x.line = chomp s) ∧
    ((∃ x : Line.Parts, x.Fits ∧ x.line = chomp s) → ∃! x : Line.Parts, x.FirstOf (chomp s)) ∧
    ∀ x : Line.Parts, x.FirstOf (chomp s) →
      Line.ofText (chomp s) = .instruction x.address (trim x.bytes) x.text ∧
      scan.feed s = scan.take x ∧
      ∀ r older, scan.recent = r :: older → valueOf 16 x.address < UInt64.size → ∃ i,
        (scan.feed s).1.recent = { r with body := i :: r.body } :: older ∧
        i.address.toNat = valueOf 16 x.address ∧ i.rawBytes = String.ofList (trim x.bytes) ∧
        i = .ofText i.address i.rawBytes (String.ofList x.text) := by
  refine ⟨⟨fun hfeed ↦ ?_, ?_⟩, ?_, fun x hx ↦ ?_⟩
  · by_contra hparts
    exact hfeed (feed_of_noise scan (Line.ofText_eq_noise hheader hparts))
  · rintro ⟨x, hx, hline⟩
    obtain ⟨y, hy⟩ := hx.exists_firstOf
    rw [feed_of_firstOf scan (hline ▸ hy)]
    exact take_ne_skip scan y
  · rintro ⟨x, hx, hline⟩
    obtain ⟨y, hy⟩ := hx.exists_firstOf
    rw [hline] at hy
    exact ⟨y, hy, fun z hz ↦ hz.unique hy⟩
  · have hfeed := feed_of_firstOf scan hx
    refine ⟨Line.ofText_eq_instruction_iff.mpr hx.isInstruction, hfeed, ?_⟩
    intro r older hrecent hlt
    rw [hfeed]
    exact exists_recent_take hrecent hlt

/-- Either `ab` are the bytes and `nop` is the text, or the bytes are blank and the text begins with
`ab`. -/
def twofoldLine : List Char := " 80:\n  \tab \tnop\r\n".toList

def blankBytes : Line.Parts :=
  ⟨[' '], ['8', '0'], ['\n'], [' '], [' '], "ab \tnop".toList⟩

theorem twofoldLine_instruction :
    (∀ address name, ¬Line.IsHeader (chomp twofoldLine) address name) ∧
    (blankBytes.Fits ∧ blankBytes.line = chomp twofoldLine) ∧
    start.feed twofoldLine ≠ start.skip ∧ (∃! x : Line.Parts, x.FirstOf (chomp twofoldLine)) ∧
    ¬blankBytes.FirstOf (chomp twofoldLine) ∧
    Line.ofText (chomp twofoldLine) = .instruction "80".toList "ab".toList "nop".toList ∧
    (Scan.feed ⟨1, [.ofHeader "f" 0]⟩ twofoldLine).1.recent =
      [⟨"f", 0, [⟨0x80, "ab", "nop", "", "", .other⟩], 0, []⟩] := by
  have hline : Line.ofText (chomp twofoldLine) =
      .instruction "80".toList "ab".toList "nop".toList := by decide +kernel
  have hheader (address name : List Char) : ¬Line.IsHeader (chomp twofoldLine) address name := by
    rw [← Line.ofText_eq_header_iff, hline]
    exact nofun
  have hfits : blankBytes.Fits ∧ blankBytes.line = chomp twofoldLine := by
    refine ⟨⟨?_, ?_, ?_, ?_, ?_, by decide⟩, by decide⟩
    all_goals exact Line.isRun_of_all (by decide) (by decide)
  obtain ⟨htaken, hfirst, hparts⟩ := feed_instruction_iff_parts twofoldLine hheader start
  refine ⟨hheader, hfits, htaken.mpr ⟨_, hfits⟩, hfirst ⟨_, hfits⟩, ?_, hline, by decide +kernel⟩
  intro hblank
  obtain ⟨hblankLine, -⟩ := hparts _ hblank
  have hbytes : trim blankBytes.bytes = "ab".toList :=
    (Line.instruction.inj (hblankLine.symm.trans hline)).2.1
  revert hbytes
  decide

end Scan

end StackDepth.Listing
