import StackDepth.Program
import StackDepth.Proofs.ActionLine
import StackDepth.Proofs.CallGraph
import StackDepth.Proofs.LineByLine
import Mathlib.Tactic.MkIffOfInductiveProp

namespace StackDepth.Listing

open Text

namespace Scan

variable {s : List Char}

theorem next_of_noise (h : Line.ofText (chomp s) = .noise) (n : Nat) (recent : List Routine) :
    (Scan.mk n recent).next s = .ok ⟨n + 1, recent⟩ := by
  rw [next, feed, ← chomp, extend, h]

theorem next_of_header {address name : List Char} {entry : UInt64}
    (h : Line.ofText (chomp s) = .header address name) (hentry : word? 16 address = some entry)
    (n : Nat) (recent : List Routine) :
    (Scan.mk n recent).next s = .ok ⟨n + 1, .ofHeader (String.ofList name) entry :: recent⟩ := by
  rw [next, feed, ← chomp, extend, h]
  simp only [hentry]

theorem next_of_instruction {address bytes text : List Char} {w : UInt64}
    (h : Line.ofText (chomp s) = .instruction address bytes text)
    (hw : word? 16 address = some w) (n : Nat) (r : Routine) (older : List Routine) :
    (Scan.mk n (r :: older)).next s = .ok ⟨n + 1, { r with
      body := .ofText w (String.ofList bytes) (String.ofList text) :: r.body } :: older⟩ := by
  rw [next, feed, ← chomp, extend, h]
  simp only [hw]

theorem foldlM_next_cons_of_ok {scan scan' : Scan} (h : scan.next s = .ok scan')
    (fed : List (List Char)) : (s :: fed).foldlM next scan = fed.foldlM next scan' := by
  rw [List.foldlM_cons, h]
  rfl

end Scan

namespace Action

variable {a : Action} {address : Nat}

def instruction (address : Nat) (a : Action) : Instruction :=
  .ofText (UInt64.ofNat address) a.rawBytes a.text

theorem chomp_line (ha : a.WellFormed) (address : Nat) :
    chomp (a.line address).toList = (a.line address).toList := by
  have hoperands : chomp a.operands = a.operands := by
    refine dropEndWhile_eq_self fun c hc ↦ ?_
    have hwhite := getLast?_operands ha c hc
    have hreturn : c ≠ '\r' := fun he ↦ absurd hwhite (by rw [he]; decide)
    have hfeed : c ≠ '\n' := fun he ↦ absurd hwhite (by rw [he]; decide)
    simp [hreturn, hfeed]
  obtain ⟨w, hline⟩ : ∃ w, (a.line address).toList = w ++ '\t' :: a.operands := by
    rw [← line_parts, Line.Parts.line, Line.Parts.operation]
    simp only [parts, toList_text]
    exact ⟨"    ".toList ++ (Nat.toDigits 16 address ++ ':' :: (['\t'] ++ (a.bytesColumn ++
      ([' '] ++ '\t' :: a.opcode.toList)))), by simp⟩
  rw [hline, chomp, dropEndWhile_append_cons (by decide), ← chomp, hoperands]

theorem next_line (ha : a.WellFormed) (haddress : address < UInt64.size) (n : Nat) (r : Routine)
    (older : List Routine) : (Scan.mk n (r :: older)).next (a.line address).toList =
      .ok ⟨n + 1, { r with body := a.instruction address :: r.body } :: older⟩ := by
  have hline : Line.ofText (chomp (a.line address).toList) =
      .instruction (Nat.toDigits 16 address) a.rawBytes.toList a.text.toList := by
    rw [chomp_line ha, ofText_line ha]
  have hword : word? 16 (Nat.toDigits 16 address) = some (UInt64.ofNat address) := by
    have h := word?_toDigits (by decide) (by decide : 16 ≤ 16) (UInt64.ofNat address)
    rwa [UInt64.toNat_ofNat_of_lt' haddress] at h
  rw [Scan.next_of_instruction hline hword, String.ofList_toList, String.ofList_toList]
  rfl

theorem newline_not_mem_line (ha : a.WellFormed) (address : Nat) :
    '\n' ∉ (a.line address).toList := by
  have hfits := fits_parts ha address
  have haddress : '\n' ∉ Nat.toDigits 16 address := fun hmem ↦
    absurd (hfits.address.forall_mem _ hmem) (by decide)
  have hbytes : '\n' ∉ a.bytesColumn := fun hmem ↦
    absurd (hfits.bytes.forall_mem _ hmem) (by decide)
  rw [← line_parts, Line.Parts.line, Line.Parts.operation]
  simp [parts, haddress, hbytes, newline_not_mem_text ha]

end Action

namespace Sketch

variable {s : Sketch} {sketches : List Sketch}

/-- The addresses at which actions stand one after another. -/
def addresses : Nat → List Action → List Nat
  | _, [] => []
  | address, a :: actions => address :: addresses (address + a.size) actions

/-- A sketch that can be printed: a name as headers have it, an entry address of eight digits, and
instructions at addresses that fit into a word. -/
@[mk_iff]
structure WellFormed (s : Sketch) : Prop where
  name_ne : s.name ≠ ""
  nameChars : s.name.toList.all Line.isNameChar
  entry_lt : s.entry < 2 ^ 32
  actions : ∀ a ∈ s.actions, a.WellFormed
  addresses : ∀ address ∈ addresses s.entry s.actions, address < UInt64.size

instance (s : Sketch) : Decidable s.WellFormed :=
  decidable_of_iff' _ (wellFormed_iff s)

def reservations (s : Sketch) : List UInt64 :=
  s.actions.filterMap fun
    | .reserve bytes => some bytes
    | _ => none

def targets (s : Sketch) : List UInt64 :=
  s.actions.filterMap fun
    | .call target _ => some target
    | _ => none

/-- The position of the first sketch with an entry address. -/
def indexAt? (sketches : List Sketch) (address : UInt64) : Option Nat :=
  sketches.findIdx? fun s ↦ s.entry == address.toNat

/-- The routine is what `s`, which is one of the sketches, describes. -/
structure Describes (sketches : List Sketch) (s : Sketch) (r : Routine) : Prop where
  name : r.name = s.name
  entry : r.entry.toNat = s.entry
  length : r.body.length = s.actions.length
  addresses : r.body.map (·.address.toNat) = addresses s.entry s.actions
  kinds : r.body.map (·.kind) = s.actions.map Action.kind
  frame : r.frame = s.reservations.getLast?.getD 0
  callees : r.callees = s.targets.eraseDups.filterMap (indexAt? sketches)
  nodup : r.callees.Nodup

def instructions : Nat → List Action → List Instruction
  | _, [] => []
  | address, a :: actions => a.instruction address :: instructions (address + a.size) actions

def routine (s : Sketch) : Routine :=
  { Routine.ofHeader s.name (UInt64.ofNat s.entry) with
    body := instructions s.entry s.actions }

section Header

def entryDigits (s : Sketch) : List Char :=
  List.replicate (8 - (Nat.toDigits 16 s.entry).length) '0' ++ Nat.toDigits 16 s.entry

@[simp]
theorem length_entryDigits (h : s.entry < 2 ^ 32) : s.entryDigits.length = 8 := by
  have hlength : (Nat.toDigits 16 s.entry).length ≤ 8 :=
    (Nat.length_toDigits_le_iff (by decide) (by decide)).mpr h
  rw [entryDigits, List.length_append, List.length_replicate]
  omega

theorem allDigits_entryDigits (s : Sketch) : AllDigits 16 s.entryDigits := by
  refine List.forall_mem_append.mpr ⟨fun c hc ↦ ?_, allDigits_toDigits (by decide) (by decide) _⟩
  rw [List.eq_of_mem_replicate hc]
  rfl

@[simp]
theorem valueOf_entryDigits (s : Sketch) : valueOf 16 s.entryDigits = s.entry := by
  have hzeros (n : Nat) : valueOf 16 (List.replicate n '0') = 0 := by
    induction n with
    | zero => rfl
    | succ n ih =>
      rw [List.replicate_succ', valueOf_append, ih]
      rfl
  rw [entryDigits, valueOf_append, hzeros]
  exact valueOf_toDigits (by decide) (by decide) s.entry

theorem isHeader_header (hs : s.WellFormed) :
    Line.IsHeader s.header.toList s.entryDigits s.name.toList where
  line := by simp [header, entryDigits, toString]
  length := length_entryDigits hs.entry_lt
  digits := allDigits_entryDigits s
  name_ne := by simpa using hs.name_ne
  nameChars := List.all_eq_true.mp hs.nameChars

theorem chomp_header (s : Sketch) : chomp s.header.toList = s.header.toList := by
  refine dropEndWhile_eq_self fun c hc ↦ ?_
  have hlast : s.header.toList.getLast? = some ':' := by
    simp [header, toString, List.getLast?_cons]
  rw [hlast] at hc
  cases hc
  rfl

theorem newline_not_mem_header (hs : s.WellFormed) : '\n' ∉ s.header.toList := by
  have hheader := isHeader_header hs
  have hdigits : '\n' ∉ s.entryDigits := fun hmem ↦ absurd (hheader.digits _ hmem) (by decide)
  have hname : '\n' ∉ s.name.toList := fun hmem ↦ absurd (hheader.nameChars _ hmem) (by decide)
  rw [hheader.line]
  simp [hdigits, hname]

theorem next_header (hs : s.WellFormed) (n : Nat) (recent : List Routine) :
    (Scan.mk n recent).next s.header.toList =
      .ok ⟨n + 1, .ofHeader s.name (UInt64.ofNat s.entry) :: recent⟩ := by
  have hheader := isHeader_header hs
  have hword : word? 16 s.entryDigits = some (UInt64.ofNat s.entry) := by
    rw [word?_of_isHeader hheader, valueOf_entryDigits]
  rw [← chomp_header] at hheader
  rw [Scan.next_of_header (Line.ofText_eq_header_iff.mpr hheader) hword, String.ofList_toList]

end Header

section Run

theorem foldlM_next_actionLines {actions : List Action} {address : Nat}
    (hactions : ∀ a ∈ actions, a.WellFormed)
    (haddresses : ∀ x ∈ addresses address actions, x < UInt64.size) (n : Nat) (r : Routine)
    (older : List Routine) :
    ((actionLines address actions).map String.toList).foldlM Scan.next ⟨n, r :: older⟩ =
      .ok ⟨n + actions.length,
        { r with body := (instructions address actions).reverse ++ r.body } :: older⟩ := by
  induction actions generalizing address n r with
  | nil => rfl
  | cons a actions ih =>
    obtain ⟨ha, hactions⟩ := List.forall_mem_cons.mp hactions
    obtain ⟨haddress, haddresses⟩ := List.forall_mem_cons.mp haddresses
    rw [actionLines, List.map_cons,
      Scan.foldlM_next_cons_of_ok (Action.next_line ha haddress n r older), ih hactions haddresses]
    simp only [instructions, List.reverse_cons, List.append_assoc, List.singleton_append,
      List.length_cons, Nat.add_assoc, Nat.add_comm 1]

theorem foldlM_next_lines (hs : s.WellFormed) (n : Nat) (recent : List Routine) :
    (s.lines.map String.toList).foldlM Scan.next ⟨n, recent⟩ =
      .ok ⟨n + 2 + s.actions.length,
        { s.routine with body := s.routine.body.reverse } :: recent⟩ := by
  have hblank : (Scan.mk n recent).next "".toList = .ok ⟨n + 1, recent⟩ :=
    Scan.next_of_noise (by decide) n recent
  rw [lines, List.map_cons, List.map_cons, Scan.foldlM_next_cons_of_ok hblank,
    Scan.foldlM_next_cons_of_ok (next_header hs (n + 1) recent),
    foldlM_next_actionLines hs.actions hs.addresses]
  simp [routine, Routine.ofHeader]

theorem foldlM_next_flatMap_lines (hs : ∀ s ∈ sketches, s.WellFormed) (n : Nat)
    (recent : List Routine) :
    ∃ m, ((sketches.flatMap lines).map String.toList).foldlM Scan.next ⟨n, recent⟩ =
      .ok ⟨m, (sketches.map fun s ↦ { s.routine with body := s.routine.body.reverse }).reverse ++
        recent⟩ := by
  induction sketches generalizing n recent with
  | nil => exact ⟨n, rfl⟩
  | cons s sketches ih =>
    obtain ⟨hs, hsketches⟩ := List.forall_mem_cons.mp hs
    obtain ⟨m, hm⟩ := ih hsketches (n + 2 + s.actions.length)
      ({ s.routine with body := s.routine.body.reverse } :: recent)
    refine ⟨m, ?_⟩
    rw [List.flatMap_cons, List.map_append, List.foldlM_append, foldlM_next_lines hs]
    refine hm.trans ?_
    rw [List.map_cons, List.reverse_cons, List.append_assoc, List.singleton_append]

end Run

section Listing

theorem newline_not_mem_actionLines {actions : List Action}
    (hactions : ∀ a ∈ actions, a.WellFormed) (address : Nat) :
    ∀ l ∈ actionLines address actions, '\n' ∉ l.toList := by
  induction actions generalizing address with
  | nil => simp [actionLines]
  | cons a actions ih =>
    obtain ⟨ha, hactions⟩ := List.forall_mem_cons.mp hactions
    exact List.forall_mem_cons.mpr ⟨Action.newline_not_mem_line ha address, ih hactions _⟩

theorem newline_not_mem_lines (hs : s.WellFormed) : ∀ l ∈ s.lines, '\n' ∉ l.toList :=
  List.forall_mem_cons.mpr ⟨by decide, List.forall_mem_cons.mpr ⟨newline_not_mem_header hs,
    newline_not_mem_actionLines hs.actions s.entry⟩⟩

theorem lines_listing (hs : ∀ s ∈ sketches, s.WellFormed) : Text.lines (listing sketches).toList =
    (preamble ++ sketches.flatMap lines).map String.toList := by
  have htext : (listing sketches).toList =
      ((preamble ++ sketches.flatMap lines).map String.toList).flatMap (· ++ ['\n']) := by
    simp [listing, List.flatMap_map]
  rw [htext]
  refine lines_flatMap ?_
  rw [List.forall_mem_map, List.forall_mem_append]
  refine ⟨by decide, fun l hl ↦ ?_⟩
  obtain ⟨s, hmem, hl⟩ := List.mem_flatMap.mp hl
  exact newline_not_mem_lines (hs s hmem) l hl

theorem ofText_listing (hs : ∀ s ∈ sketches, s.WellFormed) :
    ofText (listing sketches) = .ok (sketches.map routine) := by
  have hpreamble : (preamble.map String.toList).foldlM Scan.next Scan.start = .ok ⟨5, []⟩ := by
    decide
  obtain ⟨m, hm⟩ := foldlM_next_flatMap_lines hs 5 []
  have hread : ((preamble ++ sketches.flatMap lines).map String.toList).foldlM Scan.next Scan.start =
      .ok ⟨m, (sketches.map fun s ↦ { s.routine with body := s.routine.body.reverse }).reverse⟩ := by
    rw [List.map_append, List.foldlM_append, hpreamble]
    refine hm.trans ?_
    rw [List.append_nil]
  rw [ofText, lines_listing hs, hread]
  simp [Except.map, Scan.routines]

end Listing

section Analysis

theorem map_address_instructions {actions : List Action} {address : Nat}
    (h : ∀ x ∈ addresses address actions, x < UInt64.size) :
    (instructions address actions).map (·.address.toNat) = addresses address actions := by
  induction actions generalizing address with
  | nil => rfl
  | cons a actions ih =>
    obtain ⟨haddress, h⟩ := List.forall_mem_cons.mp h
    rw [instructions, addresses, List.map_cons, ih h]
    exact congrArg (· :: _) (UInt64.toNat_ofNat_of_lt' haddress)

theorem map_kind_instructions {actions : List Action} (h : ∀ a ∈ actions, a.WellFormed)
    (address : Nat) : (instructions address actions).map (·.kind) = actions.map Action.kind := by
  induction actions generalizing address with
  | nil => rfl
  | cons a actions ih =>
    obtain ⟨ha, h⟩ := List.forall_mem_cons.mp h
    rw [instructions, List.map_cons, List.map_cons, ih h, Action.instruction, Action.kind_text ha]

theorem filterMap_kind_routine {α : Type} (hs : s.WellFormed) (f : Kind → Option α) :
    s.routine.body.filterMap (fun i ↦ f i.kind) = s.actions.filterMap fun a ↦ f a.kind := by
  have hkinds : s.routine.body.map Instruction.kind = s.actions.map Action.kind :=
    map_kind_instructions hs.actions s.entry
  calc s.routine.body.filterMap (fun i ↦ f i.kind)
    _ = (s.routine.body.map Instruction.kind).filterMap f := List.filterMap_map.symm
    _ = (s.actions.map Action.kind).filterMap f := by rw [hkinds]
    _ = s.actions.filterMap fun a ↦ f a.kind := List.filterMap_map

theorem reserved_routine (hs : s.WellFormed) :
    s.routine.reserved = s.reservations.getLast?.getD 0 := by
  have hbody : s.routine.body.filterMap (·.kind.reserved?) = s.reservations := by
    rw [filterMap_kind_routine hs, reservations]
    congr
    funext a
    cases a <;> rfl
  rw [Routine.reserved, hbody]

theorem targets_routine (hs : s.WellFormed) : s.routine.targets = s.targets := by
  rw [Routine.targets, filterMap_kind_routine hs, targets]
  congr
  funext a
  cases a <;> rfl

theorem entry_routine (hs : s.WellFormed) : s.routine.entry.toNat = s.entry :=
  UInt64.toNat_ofNat_of_lt' (hs.entry_lt.trans (by decide))

theorem indexAt?_map_routine (hs : ∀ s ∈ sketches, s.WellFormed) (address : UInt64) :
    Routine.indexAt? (sketches.map routine) address = indexAt? sketches address := by
  rw [Routine.indexAt?, indexAt?, List.findIdx?_map]
  induction sketches with
  | nil => rfl
  | cons s sketches ih =>
    obtain ⟨hs, hsketches⟩ := List.forall_mem_cons.mp hs
    have hentry : (s.routine.entry == address) = (s.entry == address.toNat) := by
      rw [← entry_routine hs]
      simp [← UInt64.toNat_inj]
    rw [List.findIdx?_cons, List.findIdx?_cons, ih hsketches, Function.comp_apply, hentry]

theorem describes_analyze (hs : s.WellFormed) (hsketches : ∀ t ∈ sketches, t.WellFormed) :
    Describes sketches s (s.routine.analyzedIn (sketches.map routine)) where
  name := rfl
  entry := entry_routine hs
  length := by
    have hkinds := congrArg List.length (map_kind_instructions hs.actions s.entry)
    simpa [routine] using hkinds
  addresses := map_address_instructions hs.addresses
  kinds := map_kind_instructions hs.actions s.entry
  frame := reserved_routine hs
  callees := by
    rw [Routine.analyzedIn, Routine.directCallees_indexAt?, targets_routine hs,
      funext (indexAt?_map_routine hsketches)]
  nodup := nodup_eraseDups _

end Analysis

/-- A listing that is written from sketches is read without a fault, and its program has one routine
for each sketch, in order: with its name and its entry address, an instruction for each action, the
frame of the last reservation, and for callees the first routines at the addresses that it calls,
each once and in the order of the first calls. -/
theorem analyze_listing_describes (sketches : List Sketch)
    (hs : ∀ s ∈ sketches, s.WellFormed) :
    ∃ rs, ofText (listing sketches) = .ok rs ∧
      List.Forall₂ (Describes sketches) sketches (Program.analyze rs).routines := by
  refine ⟨sketches.map routine, ofText_listing hs, ?_⟩
  rw [Program.routines_analyze, List.map_map, List.forall₂_map_right_iff, List.forall₂_same]
  exact fun s hmem ↦ describes_analyze (hs s hmem) hs

/-- Two routines at one address, and one that calls it twice, calls nowhere and reserves twice. -/
def aliasedSketches : List Sketch :=
  [⟨"leaf", 0x8000, [.reserve 8, .exit]⟩, ⟨"leaf.alias", 0x8000, [.exit]⟩,
    ⟨"main", 0x8010, [.reserve 4, .reserve 24, .call 0x8000 "leaf", .callRegister "r3",
      .call 0x9000 "gone;<0>", .call 0x8000 "leaf", .exit]⟩]

theorem aliasedSketches_describes :
    (∀ s ∈ aliasedSketches, s.WellFormed) ∧ ∃ rs, ofText (listing aliasedSketches) = .ok rs ∧
      (Program.analyze rs).routines.map (fun r ↦ (r.name, r.body.length, r.frame, r.callees)) =
        [("leaf", 2, 8, []), ("leaf.alias", 1, 0, []), ("main", 7, 24, [0])] := by
  have hs : ∀ s ∈ aliasedSketches, s.WellFormed := by decide
  obtain ⟨rs, hread, hdescribes⟩ := analyze_listing_describes aliasedSketches hs
  refine ⟨hs, rs, hread, ?_⟩
  generalize (Program.analyze rs).routines = routines at hdescribes ⊢
  rcases hdescribes with _ | ⟨hleaf, _ | ⟨halias, _ | ⟨hmain, ⟨⟩⟩⟩⟩
  simp only [List.map_cons, List.map_nil, hleaf.name, hleaf.length, hleaf.frame, hleaf.callees,
    halias.name, halias.length, halias.frame, halias.callees, hmain.name, hmain.length, hmain.frame,
    hmain.callees]
  decide

end Sketch

end StackDepth.Listing
