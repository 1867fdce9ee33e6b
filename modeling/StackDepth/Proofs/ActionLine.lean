import StackDepth.Listing.Sketch
import StackDepth.Proofs.Classification
import StackDepth.Proofs.DecodedText
import StackDepth.Proofs.LinePattern

namespace StackDepth

open Text

theorem Text.isWhite_eq_false_of_mem_toDigits {base n : Nat} {c : Char} (hbase : 1 < base)
    (hbase' : base ≤ 16) (hc : c ∈ Nat.toDigits base n) : isWhite c = false := by
  obtain ⟨d, hd⟩ := Option.isSome_iff_exists.mp (allDigits_toDigits hbase hbase' n c hc)
  exact isWhite_eq_false_of_isHex (isHex_of_digit? hbase' hd)

namespace Instruction

section OpcodeTab

variable {opcode rest : List Char}

/-- An opcode in front of a TAB is split off, also where the TAB ends the text and is trimmed. -/
theorem splitOpcode_trim_tab (hne : opcode ≠ []) (hopcode : ∀ c ∈ opcode, isWhite c = false)
    (hlast : ∀ c ∈ rest.getLast?, isWhite c = false) :
    splitOpcode (trim (opcode ++ '\t' :: rest)) = (opcode, rest) := by
  have htab : '\t' ∉ opcode := fun hmem ↦ absurd (hopcode _ hmem) (by decide)
  cases rest with
  | nil =>
    obtain ⟨init, last, rfl⟩ := (List.eq_nil_or_concat' opcode).resolve_left hne
    have htrim : trim (init ++ [last] ++ ['\t']) = init ++ [last] := by
      rw [List.append_assoc]
      exact trim_append_cons (fun c hc ↦ hopcode c (List.mem_of_mem_head? hc))
        (hopcode last (by simp)) ['\t']
    rw [htrim, splitOpcode_solid hopcode]
  | cons d rest =>
    have htrim : trim (opcode ++ '\t' :: d :: rest) = opcode ++ '\t' :: d :: rest := by
      refine trim_eq_self (fun c hc ↦ hopcode c ?_) (fun c hc ↦ hlast c ?_)
      · rw [List.head?_append_of_ne_nil _ hne] at hc
        exact List.mem_of_mem_head? hc
      · simpa [List.getLast?_append] using hc
    rw [htrim, splitOpcode_tab htab]

theorem splitComment_fst (rest : List Char) :
    (splitComment rest).1 = rest.takeWhile fun c ↦ !(c == ';') := by
  rw [splitComment, cut?]
  split
  · rename_i h
    exact (List.takeWhile_eq_self_iff.mpr (List.dropWhile_eq_nil_iff.mp h)).symm
  · rfl

theorem kind_ofText {decoded : String} (hdecoded : decoded.toList = opcode ++ '\t' :: rest)
    (hne : opcode ≠ []) (hopcode : ∀ c ∈ opcode, isWhite c = false)
    (hlast : ∀ c ∈ rest.getLast?, isWhite c = false) (address : UInt64) (rawBytes : String) :
    (ofText address rawBytes decoded).kind = .classify (String.ofList opcode)
      (String.ofList (trim (rest.takeWhile fun c ↦ !(c == ';')))) := by
  have htrim : trim opcode = opcode :=
    trim_eq_self (fun c hc ↦ hopcode c (List.mem_of_mem_head? hc))
      (fun c hc ↦ hopcode c (List.mem_of_mem_getLast? hc))
  rw [← splitComment_fst]
  simp only [ofText, hdecoded, splitOpcode_trim_tab hne hopcode hlast, htrim]

end OpcodeTab

end Instruction

namespace Kind

variable {opcode operands : String}

theorem classify_sub {n : UInt64}
    (h : operands.toList = "sp, #".toList ++ Nat.toDigits 10 n.toNat) :
    classify "sub" operands = .stackAdjust n := by
  have hnum : IsImmediate (Nat.toDigits 10 n.toNat) n.toNat :=
    .decimal (isNumeral_toDigits (by decide) (by decide) _).isSigned
  refine classify_eq_stackAdjust_iff.mpr ⟨by decide, [], _, [], ?_, by simp, hnum, by simp⟩
  rw [h]
  simp

theorem classify_of_target (hopcode : isBranch opcode) {target : UInt64} {symbol : List Char}
    (h : operands.toList = Nat.toDigits 16 target.toNat ++ (" <".toList ++ symbol)) :
    classify opcode operands = .branch target := by
  have hblank : ' ' ∉ Nat.toDigits 16 target.toNat :=
    not_mem_toDigits (by decide) (by decide) rfl _
  have hfirst : FirstMark " <".toList operands.toList (Nat.toDigits 16 target.toNat) symbol := by
    rw [← cutOn?_eq_some_iff, h]
    exact cutOn?_append hblank ['<'] symbol
  have hnum : IsSigned 16 (Nat.toDigits 16 target.toNat) target.toNat :=
    (isNumeral_toDigits (by decide) (by decide) _).isSigned
  exact classify_eq_branch_iff.mpr ⟨isBranch_iff.mp hopcode, _, symbol, hfirst, [], [], _, [],
    by simp, by simp, by simp, .inl rfl, hnum⟩

theorem classify_of_not_mem (hopcode : isBranch opcode) (h : '<' ∉ operands.toList) :
    classify opcode operands = .indirectBranch := by
  refine classify_eq_indirectBranch_iff.mpr ⟨isBranch_iff.mp hopcode, ?_⟩
  rintro ⟨target, before, after, hfirst, -⟩
  rw [hfirst.eq] at h
  simp at h

end Kind

namespace Listing

namespace Line

variable {bytes text : List Char}

/-- A blank and a TAB between bytes and text: the blank alone is the pad, and blanks in front of it
go to the bytes. -/
theorem operation?_tab (hbytes : IsRun isByteChar bytes)
    (hhead : ∀ c ∈ bytes.head?, isWhite c = false) (htext : ∀ c ∈ text.head?, isWhite c = false)
    (hline : '\n' ∉ text) : operation? ('\t' :: (bytes ++ ' ' :: '\t' :: text)) =
      some (['\t'], bytes, [' '], text) := by
  have htab : padText? ('\t' :: text) = none := by
    have hnone : text? text = none := by
      cases text with
      | nil => rfl
      | cons c text => exact text?_of_ne_tab fun he ↦ absurd (htext c rfl) (by rw [he]; decide)
    rw [padText?, greedy_cons_of_pos rfl, greedy_of_head? htext, hnone]
    rfl
  have hpad : padText? (' ' :: '\t' :: text) = some ([' '], text) := by
    rw [padText?, greedy_cons_of_pos rfl, ← padText?, htab, text?_tab hline]
    rfl
  have hblank : bytesText? (' ' :: '\t' :: text) = none := by
    rw [bytesText?, greedy_cons_of_pos rfl, greedy_of_head? (by simp; decide), htab]
    rfl
  have hbytesText : bytesText? (bytes ++ ' ' :: '\t' :: text) = some (bytes, [' '], text) := by
    -- the run could go on over the blank, but then there is no pad, so it stops at the last byte
    obtain ⟨init, last, rfl⟩ := (List.eq_nil_or_concat' bytes).resolve_left hbytes.ne_nil
    obtain ⟨hinit, hlast⟩ := List.forall_mem_append.mp hbytes.forall_mem
    rw [List.append_assoc]
    refine greedy_append_of_forall hinit ?_
    rw [List.singleton_append, greedy_cons_of_pos (hlast last List.mem_cons_self), ← bytesText?,
      hblank, hpad]
    rfl
  have hwhite : ∀ c ∈ (bytes ++ ' ' :: '\t' :: text).head?, isWhite c = false := by
    rwa [List.head?_append_of_ne_nil _ hbytes.ne_nil]
  rw [operation?, greedy_cons_of_pos rfl, greedy_of_head? hwhite, hbytesText]
  rfl

end Line

namespace Action

variable {a : Action}

/-- A symbol holds no line feed. The name of a register may be any letters and digits, and more
than these: white space and the bracket that begins a symbol are all that it must not hold. -/
def WellFormed : Action → Prop
  | .call _ symbol => '\n' ∉ symbol.toList
  | .callRegister register => register.toList.all fun c ↦ !isWhite c && c != '<'
  | _ => True

instance : DecidablePred WellFormed
  | .reserve _ | .exit => isTrue trivial
  | .call _ symbol => inferInstanceAs (Decidable ('\n' ∉ symbol.toList))
  | .callRegister register =>
    inferInstanceAs (Decidable (register.toList.all fun c ↦ !isWhite c && c != '<'))

theorem WellFormed.register {register : String} (h : (callRegister register).WellFormed) :
    ∀ c ∈ register.toList, isWhite c = false ∧ c ≠ '<' := by
  intro c hc
  simpa using List.all_eq_true.mp h c hc

def kind : Action → Kind
  | .reserve bytes => .stackAdjust bytes
  | .call target _ => .branch target
  | .callRegister _ | .exit => .indirectBranch

def opcode : Action → String
  | .reserve _ => "sub"
  | .call .. => "bl"
  | .callRegister _ => "blx"
  | .exit => "bx"

def operands : Action → List Char
  | .reserve bytes => "sp, #".toList ++ Nat.toDigits 10 bytes.toNat
  | .call target symbol =>
    Nat.toDigits 16 target.toNat ++ (" <".toList ++ (symbol.toList ++ ['>']))
  | .callRegister register => register.toList
  | .exit => "lr".toList

theorem toList_text (a : Action) : a.text.toList = a.opcode.toList ++ '\t' :: a.operands := by
  cases a <;> simp [text, opcode, operands, digits16, toString]

theorem opcode_ne_nil (a : Action) : a.opcode.toList ≠ [] := by
  cases a <;> simp only [opcode] <;> decide

theorem isWhite_opcode (a : Action) : ∀ c ∈ a.opcode.toList, isWhite c = false := by
  cases a <;> simp [opcode] <;> decide

theorem head?_text (a : Action) : ∀ c ∈ a.text.toList.head?, isWhite c = false := by
  intro c hc
  rw [toList_text, List.head?_append_of_ne_nil _ a.opcode_ne_nil] at hc
  exact a.isWhite_opcode c (List.mem_of_mem_head? hc)

theorem getLast?_operands (ha : a.WellFormed) :
    ∀ c ∈ a.operands.getLast?, isWhite c = false := by
  intro c hc
  cases a with
  | reserve bytes =>
    rw [operands, List.getLast?_append, Option.or_of_isSome (by simp [Nat.toDigits_ne_nil])] at hc
    exact isWhite_eq_false_of_mem_toDigits (by decide) (by decide) (List.mem_of_mem_getLast? hc)
  | call target symbol =>
    rw [operands, ← List.append_assoc, ← List.append_assoc, List.getLast?_concat] at hc
    cases hc
    decide
  | callRegister register => exact (ha.register c (List.mem_of_mem_getLast? hc)).1
  | exit =>
    cases hc
    decide

theorem newline_not_mem_text (ha : a.WellFormed) : '\n' ∉ a.text.toList := by
  have hdecimal (n : Nat) : '\n' ∉ Nat.toDigits 10 n :=
    not_mem_toDigits (by decide) (by decide) rfl n
  have hhexadecimal (n : Nat) : '\n' ∉ Nat.toDigits 16 n :=
    not_mem_toDigits (by decide) (by decide) rfl n
  have hopcode : '\n' ∉ a.opcode.toList := fun hmem ↦ absurd (a.isWhite_opcode _ hmem) (by decide)
  have hoperands : '\n' ∉ a.operands := by
    cases a with
    | reserve bytes => simp [operands, hdecimal]
    | call target symbol =>
      have hsymbol : '\n' ∉ symbol.toList := ha
      simp [operands, hhexadecimal, hsymbol]
    | callRegister register => exact fun hmem ↦ absurd (ha.register _ hmem).1 (by decide)
    | exit => decide
  simp [toList_text, hopcode, hoperands]

theorem classify_reserve (bytes : UInt64) : Kind.classify "sub"
    (String.ofList (trim ((reserve bytes).operands.takeWhile fun c ↦ !(c == ';')))) =
      .stackAdjust bytes := by
  have htake : (reserve bytes).operands.takeWhile (fun c ↦ !(c == ';')) =
      (reserve bytes).operands := by
    refine List.takeWhile_eq_self_iff.mpr (List.forall_mem_append.mpr ⟨by simp, fun c hc ↦ ?_⟩)
    have hne : c ≠ ';' :=
      ne_of_mem_of_not_mem hc (not_mem_toDigits (by decide) (by decide) rfl _)
    simp [hne]
  have hhead : ∀ c ∈ (reserve bytes).operands.head?, isWhite c = false := by
    rintro c ⟨⟩
    decide
  rw [htake, trim_eq_self hhead (getLast?_operands trivial)]
  exact Kind.classify_sub String.toList_ofList

/-- A semicolon in the symbol cuts it off, but not the bracket in front of it. -/
theorem classify_call (target : UInt64) (symbol : String) : Kind.classify "bl"
    (String.ofList (trim ((call target symbol).operands.takeWhile fun c ↦ !(c == ';')))) =
      .branch target := by
  have htake : (call target symbol).operands.takeWhile (fun c ↦ !(c == ';')) =
      (Nat.toDigits 16 target.toNat ++ [' ']) ++
        '<' :: (symbol.toList ++ ['>']).takeWhile fun c ↦ !(c == ';') := by
    rw [operands, List.takeWhile_append_of_pos]
    · simp
    · intro c hc
      have hne : c ≠ ';' :=
        ne_of_mem_of_not_mem hc (not_mem_toDigits (by decide) (by decide) rfl _)
      simp [hne]
  have hhead : ∀ c ∈ (Nat.toDigits 16 target.toNat ++ [' '] ++ ['<']).head?, isWhite c = false := by
    intro c hc
    rw [List.append_assoc, List.head?_append_of_ne_nil _ Nat.toDigits_ne_nil] at hc
    exact isWhite_eq_false_of_mem_toDigits (by decide) (by decide) (List.mem_of_mem_head? hc)
  rw [htake, trim_append_cons hhead (by decide)]
  apply Kind.classify_of_target (by decide)
  rw [String.toList_ofList, List.append_assoc]
  rfl

theorem classify_callRegister {register : String} (ha : (callRegister register).WellFormed) :
    Kind.classify "blx" (String.ofList
      (trim ((callRegister register).operands.takeWhile fun c ↦ !(c == ';')))) =
        .indirectBranch := by
  refine Kind.classify_of_not_mem (by decide) ?_
  rw [String.toList_ofList]
  intro hmem
  exact (ha.register '<' ((List.takeWhile_prefix _).subset (mem_of_mem_trim hmem))).2 rfl

theorem kind_text (ha : a.WellFormed) (address : UInt64) (rawBytes : String) :
    (Instruction.ofText address rawBytes a.text).kind = a.kind := by
  rw [Instruction.kind_ofText a.toList_text a.opcode_ne_nil a.isWhite_opcode (getLast?_operands ha),
    String.ofList_toList]
  cases a with
  | reserve bytes => exact classify_reserve bytes
  | call target symbol => exact classify_call target symbol
  | callRegister register => exact classify_callRegister ha
  | exit => rfl

def bytesColumn (a : Action) : List Char :=
  a.rawBytes.toList ++ List.replicate (9 - a.rawBytes.length) ' '

theorem isRun_bytesColumn (a : Action) : Line.IsRun Line.isByteChar a.bytesColumn := by
  constructor
  · cases a <;> simp [bytesColumn, rawBytes]
  · cases a <;> simp [bytesColumn, rawBytes] <;> decide

theorem head?_bytesColumn (a : Action) : ∀ c ∈ a.bytesColumn.head?, isWhite c = false := by
  cases a <;> simp [bytesColumn, rawBytes] <;> decide

theorem trim_bytesColumn (a : Action) : trim a.bytesColumn = a.rawBytes.toList := by
  cases a <;> simp only [bytesColumn, rawBytes] <;> decide

def parts (address : Nat) (a : Action) : Line.Parts where
  indent := "    ".toList
  address := Nat.toDigits 16 address
  gap := ['\t']
  bytes := a.bytesColumn
  pad := [' ']
  text := a.text.toList

theorem line_parts (address : Nat) (a : Action) :
    (a.parts address).line = (a.line address).toList := by
  have hpadding : List.replicate (10 - a.rawBytes.length) ' ' =
      List.replicate (9 - a.rawBytes.length) ' ' ++ [' '] := by
    have hlength : a.rawBytes.length ≤ 9 := by
      cases a <;> simp only [rawBytes] <;> decide
    rw [Nat.succ_sub hlength, List.replicate_succ']
  simp [parts, bytesColumn, Line.Parts.line, Line.Parts.operation, line, digits16, toString,
    hpadding]

theorem fits_parts (ha : a.WellFormed) (address : Nat) : (a.parts address).Fits := by
  have hindent : Line.IsRun isWhite "    ".toList := Line.isRun_of_all (by decide) (by decide)
  have hgap : Line.IsRun isWhite ['\t'] := Line.isRun_of_all (by decide) (by decide)
  have hpad : Line.IsRun isWhite [' '] := Line.isRun_of_all (by decide) (by decide)
  have haddress : Line.IsRun isHex (Nat.toDigits 16 address) :=
    ⟨Nat.toDigits_ne_nil, allDigits_toDigits (by decide) (by decide) address⟩
  exact ⟨hindent, haddress, hgap, isRun_bytesColumn a, hpad, newline_not_mem_text ha⟩

theorem ofText_line (ha : a.WellFormed) (address : Nat) : Line.ofText (a.line address).toList =
    .instruction (Nat.toDigits 16 address) a.rawBytes.toList a.text.toList := by
  have hfits := fits_parts ha address
  have hinstruction : Line.instruction? (a.parts address).line =
      some (.instruction (Nat.toDigits 16 address) (trim a.bytesColumn) a.text.toList) :=
    Line.instruction?_eq_some_iff.mpr ⟨_, rfl, hfits.indent, hfits.address,
      Line.operation?_tab hfits.bytes (head?_bytesColumn a) (head?_text a) hfits.text, rfl⟩
  rw [← line_parts, Line.ofText, Line.header?_eq_none_of_fits hfits, hinstruction,
    trim_bytesColumn]
  rfl

end Action

end Listing

end StackDepth
