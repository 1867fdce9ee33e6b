import StackDepth.Instruction
import StackDepth.Proofs.TextCut

namespace StackDepth.Instruction

open Text

variable {address : UInt64} {rawBytes decoded : String}
variable {s opcode rest operands comment : List Char} {c : Char}

section Split

theorem splitOpcode_tab (h : '\t' ∉ opcode) (rest : List Char) :
    splitOpcode (opcode ++ '\t' :: rest) = (opcode, rest) := by
  rw [splitOpcode, cut?_beq_append h]
  rfl

theorem splitOpcode_white (htab : '\t' ∉ opcode ++ c :: rest) (hc : isWhite c)
    (hopcode : ∀ d ∈ opcode, isWhite d = false) :
    splitOpcode (opcode ++ c :: rest) = (opcode, rest) := by
  rw [splitOpcode, cut?_beq_eq_none htab, cut?_append_cons hopcode hc]
  rfl

theorem splitOpcode_solid (h : ∀ c ∈ s, isWhite c = false) : splitOpcode s = (s, []) := by
  have htab : '\t' ∉ s := fun hmem ↦ absurd (h _ hmem) (by decide)
  rw [splitOpcode, cut?_beq_eq_none htab, cut?_eq_none h]
  rfl

theorem splitOpcode_cases (s : List Char) :
    (∃ opcode rest, s = opcode ++ '\t' :: rest ∧ '\t' ∉ opcode) ∨
    ('\t' ∉ s ∧ ∃ opcode c rest, s = opcode ++ c :: rest ∧ isWhite c ∧
      ∀ d ∈ opcode, isWhite d = false) ∨
    ∀ c ∈ s, isWhite c = false := by
  by_cases htab : '\t' ∈ s
  · exact .inl (List.eq_append_cons_of_mem htab)
  · refine .inr ?_
    cases h : cut? isWhite s with
    | none => exact .inr (cut?_eq_none_iff.mp h)
    | some r =>
      obtain ⟨c, hs, hc, hopcode⟩ := cut?_eq_some_iff.mp h
      exact .inl ⟨htab, r.1, c, r.2, hs, hc, hopcode⟩

theorem splitComment_semicolon (h : ';' ∉ operands) (comment : List Char) :
    splitComment (operands ++ ';' :: comment) = (operands, comment) := by
  rw [splitComment, cut?_beq_append h]
  rfl

theorem splitComment_of_not_mem (h : ';' ∉ rest) : splitComment rest = (rest, []) := by
  rw [splitComment, cut?_beq_eq_none h]
  rfl

theorem exists_splitComment (rest : List Char) :
    ∃ operands comment, splitComment rest = (operands, comment) ∧ ';' ∉ operands := by
  by_cases h : ';' ∈ rest
  · obtain ⟨operands, comment, rfl, hoperands⟩ := List.eq_append_cons_of_mem h
    exact ⟨operands, comment, splitComment_semicolon hoperands comment, hoperands⟩
  · exact ⟨rest, [], splitComment_of_not_mem h, h⟩

theorem trim_opcode_ne_nil (hs : Trimmed (opcode ++ c :: rest)) (hc : isWhite c) :
    trim opcode ≠ [] := by
  cases opcode with
  | nil =>
    -- a trimmed text does not begin with white space
    have hhead := hs.head c rfl
    simp [hc] at hhead
  | cons d opcode => exact trim_ne_nil_of_head? hs.head (List.cons_ne_nil d opcode)

theorem exists_splitOpcode (hs : Trimmed s) (hne : s ≠ []) : ∃ opcode rest,
    splitOpcode s = (opcode, rest) ∧ '\t' ∉ opcode ∧ trim opcode ≠ [] := by
  rcases splitOpcode_cases s with ⟨opcode, rest, rfl, htab⟩ |
    ⟨htab, opcode, c, rest, rfl, hc, hopcode⟩ | hsolid
  · exact ⟨opcode, rest, splitOpcode_tab htab rest, htab, trim_opcode_ne_nil hs (by decide)⟩
  · refine ⟨opcode, rest, splitOpcode_white htab hc hopcode, ?_, trim_opcode_ne_nil hs hc⟩
    exact fun hmem ↦ htab (List.mem_append_left _ hmem)
  · refine ⟨s, [], splitOpcode_solid hsolid, ?_, trim_ne_nil_of_head? hs.head hne⟩
    exact fun hmem ↦ absurd (hsolid _ hmem) (by decide)

end Split

def ofParts (address : UInt64) (rawBytes : String) (opcode operands comment : List Char) :
    Instruction where
  address := address
  rawBytes := rawBytes
  opcode := String.ofList (trim opcode)
  operands := String.ofList (trim operands)
  comment := String.ofList (trim comment)
  kind := .classify (String.ofList (trim opcode)) (String.ofList (trim operands))

theorem ofText_eq_ofParts (hopcode : splitOpcode (trim decoded.toList) = (opcode, rest))
    (hcomment : splitComment rest = (operands, comment)) :
    ofText address rawBytes decoded = ofParts address rawBytes opcode operands comment := by
  simp only [ofText, hopcode, hcomment]
  rfl

theorem kind_ofText_eq (address : UInt64) (rawBytes decoded : String) :
    (ofText address rawBytes decoded).kind =
      .classify (ofText address rawBytes decoded).opcode
        (ofText address rawBytes decoded).operands := by
  simp only [ofText]

section Rejoin

theorem trimmed_rejoined (hopcode : Trimmed opcode) (hne : opcode ≠ [])
    (hcomment : Trimmed comment) (operands : List Char) :
    Trimmed (opcode ++ '\t' :: (operands ++ ';' :: comment)) := by
  constructor
  · rw [List.head?_append_of_ne_nil _ hne]
    exact hopcode.head
  · rw [← List.cons_append, ← List.append_assoc, List.getLast?_append,
      Option.or_of_isSome (by simp)]
    cases comment with
    | nil => simp; decide
    | cons d comment =>
      rw [List.getLast?_cons_cons]
      exact hcomment.last

theorem ofText_rejoined (hne : trim opcode ≠ []) (htab : '\t' ∉ opcode) (hsemi : ';' ∉ operands)
    (hdecoded : decoded.toList =
      trim opcode ++ '\t' :: (trim operands ++ ';' :: trim comment)) :
    ofText address rawBytes decoded = ofParts address rawBytes opcode operands comment := by
  have htrim : trim decoded.toList =
      trim opcode ++ '\t' :: (trim operands ++ ';' :: trim comment) := by
    rw [hdecoded]
    exact (trimmed_rejoined (trimmed_trim _) hne (trimmed_trim _) _).trim_eq
  have hopcode := splitOpcode_tab (fun hmem ↦ htab (mem_of_mem_trim hmem))
    (trim operands ++ ';' :: trim comment)
  have hcomment := splitComment_semicolon (fun hmem ↦ hsemi (mem_of_mem_trim hmem)) (trim comment)
  rw [← htrim] at hopcode
  rw [ofText_eq_ofParts hopcode hcomment]
  simp only [ofParts, (trimmed_trim _).trim_eq]

/-- The texts of an instruction are a normal form of the text that it was read from: none has white
space at its ends, TAB and semicolon can be told from what they separate, and reading them again in
this order gives the same instruction. -/
theorem ofText_fields_rejoined (address : UInt64) (rawBytes decoded : String)
    (htext : ∃ c ∈ decoded.toList, isWhite c = false) :
    let i := ofText address rawBytes decoded
    i.opcode ≠ "" ∧ '\t' ∉ i.opcode.toList ∧ ';' ∉ i.operands.toList ∧
    Trimmed i.opcode.toList ∧ Trimmed i.operands.toList ∧ Trimmed i.comment.toList ∧
    ofText address rawBytes (i.opcode ++ "\t" ++ i.operands ++ ";" ++ i.comment) = i := by
  have hne : trim decoded.toList ≠ [] := trim_ne_nil_of_mem htext
  obtain ⟨opcode, rest, hopcode, htab, hopcode'⟩ := exists_splitOpcode (trimmed_trim _) hne
  obtain ⟨operands, comment, hcomment, hsemi⟩ := exists_splitComment rest
  intro i
  have hi : i = ofParts address rawBytes opcode operands comment :=
    ofText_eq_ofParts hopcode hcomment
  rw [hi]
  simp only [ofParts, String.toList_ofList]
  refine ⟨?_, fun hmem ↦ htab (mem_of_mem_trim hmem), fun hmem ↦ hsemi (mem_of_mem_trim hmem),
    trimmed_trim _, trimmed_trim _, trimmed_trim _, ?_⟩
  · intro hempty
    exact hopcode' (by simpa using congrArg String.toList hempty)
  · exact ofText_rejoined hopcode' htab hsemi (by simp)

def crowdedText : String := "  it eq;x\t r0 ; a\t; b "

theorem crowdedText_rejoined :
    let i : Instruction := ⟨0x8000, "bf08", "it eq;x", "r0", "a\t; b", .other⟩
    (∃ c ∈ crowdedText.toList, isWhite c = false) ∧
    ofText 0x8000 "bf08" crowdedText = i ∧
    ofText 0x8000 "bf08" "it eq;x\tr0;a\t; b" = i := by
  intro i
  have htext : ∃ c ∈ crowdedText.toList, isWhite c = false := ⟨'i', by decide, by decide⟩
  have hfields : ofText 0x8000 "bf08" crowdedText = i := by decide +kernel
  obtain ⟨-, -, -, -, -, -, hrejoined⟩ :=
    ofText_fields_rejoined 0x8000 "bf08" crowdedText htext
  rw [hfields] at hrejoined
  exact ⟨htext, hfields, hrejoined⟩

end Rejoin

section Comment

/-- A text with a comment behind it, trimmed: what is left of the text, white space with a TAB in it,
and the comment behind a semicolon. -/
theorem exists_trim_commented (hne : trim s ≠ []) (comment : List Char) :
    ∃ gap comment', trim (s ++ '\t' :: ';' :: comment) = trim s ++ (gap ++ ';' :: comment') ∧
      (∀ c ∈ gap, isWhite c) ∧ '\t' ∈ gap := by
  obtain ⟨lead, trail, hs, hlead, htrail⟩ := exists_eq_append_trim s
  have hgap : ∀ c ∈ trail ++ ['\t'], isWhite c := by
    simpa [or_imp, forall_and] using ⟨htrail, by decide⟩
  refine ⟨trail ++ ['\t'], dropEndWhile isWhite comment, ?_, hgap, by simp⟩
  have htext : s ++ '\t' :: ';' :: comment =
      lead ++ (trim s ++ (trail ++ ['\t']) ++ ';' :: comment) := by
    nth_rewrite 1 [hs]
    simp
  have hhead : ∀ c ∈ (trim s ++ (trail ++ ['\t']) ++ [';']).head?, isWhite c = false := by
    rw [List.append_assoc, List.head?_append_of_ne_nil _ hne]
    exact (trimmed_trim s).head
  rw [htext, trim_white_append hlead, trim_append_cons hhead (by decide), List.append_assoc]

theorem toList_commented (d c : String) :
    (d ++ "\t; " ++ c).toList = d.toList ++ '\t' :: ';' :: ' ' :: c.toList := by
  simp

variable {d : String}

theorem ofText_commented_of_tab (address : UInt64) (rawBytes : String)
    (htab : '\t' ∈ trim d.toList) (hsemi : ';' ∉ d.toList) (c : String) :
    (ofText address rawBytes (d ++ "\t; " ++ c)).opcode = (ofText address rawBytes d).opcode ∧
    (ofText address rawBytes (d ++ "\t; " ++ c)).operands =
      (ofText address rawBytes d).operands := by
  obtain ⟨gap, comment, htrim, hgap, -⟩ :=
    exists_trim_commented (List.ne_nil_of_mem htab) (' ' :: c.toList)
  obtain ⟨opcode, rest, hrest, hopcode⟩ := List.eq_append_cons_of_mem htab
  have hsemi' : ';' ∉ rest := by
    intro hmem
    exact hsemi (mem_of_mem_trim (hrest ▸ List.mem_append_right _ (List.mem_cons_of_mem _ hmem)))
  have hgap' : ';' ∉ gap := fun hmem ↦ absurd (hgap _ hmem) (by decide)
  have hplain : ofText address rawBytes d = ofParts address rawBytes opcode rest [] := by
    refine ofText_eq_ofParts ?_ (splitComment_of_not_mem hsemi')
    rw [hrest, splitOpcode_tab hopcode]
  have hcommented : ofText address rawBytes (d ++ "\t; " ++ c) =
      ofParts address rawBytes opcode (rest ++ gap) comment := by
    refine ofText_eq_ofParts ?_ (splitComment_semicolon (by simp [hsemi', hgap']) comment)
    rw [toList_commented, htrim, hrest, List.append_assoc, List.cons_append,
      splitOpcode_tab hopcode, ← List.append_assoc]
  rw [hplain, hcommented]
  simp only [ofParts, trim_append_white rest hgap, and_self]

/-- Without a TAB of its own the text is all opcode as soon as a comment follows. -/
theorem ofText_commented_of_not_mem (address : UInt64) (rawBytes : String)
    (htab : '\t' ∉ trim d.toList) (hne : trim d.toList ≠ []) (c : String) :
    (ofText address rawBytes (d ++ "\t; " ++ c)).opcode = String.ofList (trim d.toList) ∧
    (ofText address rawBytes (d ++ "\t; " ++ c)).operands = "" := by
  obtain ⟨gap, comment, htrim, hgap, hmem⟩ := exists_trim_commented hne (' ' :: c.toList)
  obtain ⟨before, after, rfl, hbefore⟩ := List.eq_append_cons_of_mem hmem
  have hbeforeWhite : ∀ x ∈ before, isWhite x := fun x hx ↦ hgap x (List.mem_append_left _ hx)
  have hafterWhite : ∀ x ∈ after, isWhite x := fun x hx ↦
    hgap x (List.mem_append_right _ (List.mem_cons_of_mem _ hx))
  have hafter : ';' ∉ after := fun hmem ↦ absurd (hafterWhite _ hmem) (by decide)
  have hcommented : ofText address rawBytes (d ++ "\t; " ++ c) =
      ofParts address rawBytes (trim d.toList ++ before) after comment := by
    refine ofText_eq_ofParts ?_ (splitComment_semicolon hafter comment)
    rw [toList_commented, htrim, List.append_assoc, List.cons_append, ← List.append_assoc]
    exact splitOpcode_tab (by simp [htab, hbefore]) _
  rw [hcommented]
  simp only [ofParts, trim_append_white _ hbeforeWhite, (trimmed_trim _).trim_eq,
    trim_eq_nil_iff.mpr hafterWhite, String.ofList_nil, and_self]

theorem ofText_of_solid (address : UInt64) (rawBytes : String)
    (hsolid : ∀ x ∈ trim d.toList, isWhite x = false) :
    (ofText address rawBytes d).opcode = String.ofList (trim d.toList) ∧
    (ofText address rawBytes d).operands = "" := by
  have hplain : ofText address rawBytes d = ofParts address rawBytes (trim d.toList) [] [] :=
    ofText_eq_ofParts (splitOpcode_solid hsolid) rfl
  rw [hplain]
  exact ⟨congrArg String.ofList (trimmed_trim _).trim_eq, rfl⟩

theorem opcode_ofText_ne (htab : '\t' ∉ trim d.toList)
    (hwhite : ¬∀ x ∈ trim d.toList, isWhite x = false) :
    (ofText address rawBytes d).opcode ≠ String.ofList (trim d.toList) := by
  rcases splitOpcode_cases (trim d.toList) with ⟨opcode, rest, hrest, -⟩ |
    ⟨-, opcode, c, rest, hrest, hc, hopcode⟩ | hsolid
  · simp [hrest] at htab
  · obtain ⟨operands, comment, hcomment, -⟩ := exists_splitComment rest
    have hsplit : splitOpcode (trim d.toList) = (opcode, rest) := by
      rw [hrest] at htab ⊢
      exact splitOpcode_white htab hc hopcode
    rw [ofText_eq_ofParts hsplit hcomment]
    intro heq
    -- the white space behind the opcode would have to be in the opcode
    have hmem : c ∈ trim opcode := by
      have htrim : trim opcode = trim d.toList := by
        simpa [ofParts] using congrArg String.toList heq
      rw [htrim, hrest]
      simp
    simp [hopcode c (mem_of_mem_trim hmem)] at hc
  · exact absurd hsolid hwhite

def EndsAtTab (s : List Char) : Prop :=
  '\t' ∈ trim s ∨ ∀ x ∈ trim s, isWhite x = false

/-- A comment changes neither opcode nor operands nor kind if and only if the opcode ends at a TAB or
nothing follows it. Otherwise the text in front of the comment is all taken for the opcode. -/
theorem comment_changes_nothing_iff (address : UInt64) (rawBytes d c : String)
    (hsemi : ';' ∉ d.toList) (htext : ∃ x ∈ d.toList, isWhite x = false) :
    let plain := ofText address rawBytes d
    let commented := ofText address rawBytes (d ++ "\t; " ++ c)
    ((commented.opcode = plain.opcode ∧ commented.operands = plain.operands ∧
      commented.kind = plain.kind) ↔ EndsAtTab d.toList) ∧
    (¬EndsAtTab d.toList →
      commented.opcode = String.ofList (trim d.toList) ∧ commented.operands = "") := by
  intro plain commented
  have hne : trim d.toList ≠ [] := trim_ne_nil_of_mem htext
  have hall (htab : '\t' ∉ trim d.toList) :=
    ofText_commented_of_not_mem address rawBytes htab hne c
  refine ⟨⟨fun ⟨hopcode, _⟩ ↦ ?_, ?_⟩, fun hends ↦ hall (not_or.mp hends).1⟩
  · by_contra hends
    obtain ⟨htab, hwhite⟩ := not_or.mp hends
    exact opcode_ofText_ne htab hwhite (hopcode.symm.trans (hall htab).1)
  · intro hends
    have hsame : commented.opcode = plain.opcode ∧ commented.operands = plain.operands := by
      by_cases htab : '\t' ∈ trim d.toList
      · exact ofText_commented_of_tab address rawBytes htab hsemi c
      · have hplain := ofText_of_solid address rawBytes (hends.resolve_left htab)
        exact ⟨(hall htab).1.trans hplain.1.symm, (hall htab).2.trans hplain.2.symm⟩
    refine ⟨hsame.1, hsame.2, ?_⟩
    rw [kind_ofText_eq, kind_ofText_eq, hsame.1, hsame.2]

theorem tabbedCall_comment_changes_nothing :
    let d := "\tbl\t8000 <x> "
    let commented := ofText 0x8004 "f7ff fffc" (d ++ "\t; " ++ "x; sub\tsp, #8")
    ';' ∉ d.toList ∧ (∃ x ∈ d.toList, isWhite x = false) ∧ EndsAtTab d.toList ∧
    commented.kind = (ofText 0x8004 "f7ff fffc" d).kind ∧ commented.kind = .branch 0x8000 := by
  intro d commented
  have hsemi : ';' ∉ d.toList := by decide
  have htext : ∃ x ∈ d.toList, isWhite x = false := ⟨'b', by decide, by decide⟩
  have hends : EndsAtTab d.toList := .inl (by decide)
  have h := (comment_changes_nothing_iff 0x8004 "f7ff fffc" d "x; sub\tsp, #8" hsemi htext).1
  have hkind : commented.kind = (ofText 0x8004 "f7ff fffc" d).kind := (h.mpr hends).2.2
  refine ⟨hsemi, htext, hends, hkind, hkind.trans ?_⟩
  decide +kernel

theorem spacedCall_comment_hides_target :
    ';' ∉ "bl 8000 <x>".toList ∧ (∃ x ∈ "bl 8000 <x>".toList, isWhite x = false) ∧
    (ofText 0x8004 "f7ff fffc" "bl 8000 <x>").kind = .branch 0x8000 ∧
    ofText 0x8004 "f7ff fffc" ("bl 8000 <x>" ++ "\t; " ++ "x") =
      ⟨0x8004, "f7ff fffc", "bl 8000 <x>", "", "x", .indirectBranch⟩ := by
  refine ⟨by decide, ⟨'b', by decide, by decide⟩, ?_, ?_⟩ <;> decide +kernel

end Comment

end StackDepth.Instruction
