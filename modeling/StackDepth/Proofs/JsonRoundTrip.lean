import StackDepth.Measurement.Codec
import StackDepth.Plan
import StackDepth.Proofs.JsonShape
import StackDepth.Routine.Codec

namespace StackDepth

open Json

namespace Json.Codec

variable {α : Type} {c item : Codec α} {a : α} {xs : List α}

theorem takes_list_map {write : α → Value} (h : ∀ a ∈ xs, item.Takes a (write a)) :
    (list item).Takes xs (.list (xs.map write)) :=
  takes_list (List.forall₂_map_right_iff.mpr (List.forall₂_same.mpr h))

/-- Writing gives one of the values that stand for `a`, and all of them are read as `a`. -/
structure ReadsBack (c : Codec α) (spelled : α → Value → Prop) (a : α) : Prop where
  written : spelled a (c.write a)
  decode_encode : c.decode (c.encode a) = .ok a
  decode_spelled : ∀ v, spelled a v → c.decode (String.ofList v.render) = .ok a

theorem readsBack_of_takes {spelled : α → Value → Prop} (hwritten : spelled a (c.write a))
    (htakes : ∀ v, spelled a v → c.Takes a v) : ReadsBack c spelled a where
  written := hwritten
  decode_encode := (htakes _ hwritten).decode_eq
  decode_spelled v hv := (htakes v hv).decode_eq

end Json.Codec

open Codec

namespace Kind

inductive Spelled : Kind → Value → Prop
  | stackAdjust {bytes : UInt64} {v : Value} (h : v.Structured ["bytes"] [.number bytes.toNat]) :
      Spelled (.stackAdjust bytes) (.object [("stack_adjust", v)])
  | branch {target : UInt64} {v : Value} (h : v.Structured ["target"] [.number target.toNat]) :
      Spelled (.branch target) (.object [("branch", v)])
  | indirectBranch : Spelled .indirectBranch (.text "indirect_branch")
  | other : Spelled .other (.text "other")

theorem spelled_write (k : Kind) : k.Spelled (codec.write k) := by
  cases k with
  | stackAdjust bytes => exact .stackAdjust (.members (.refl _))
  | branch target => exact .branch (.members (.refl _))
  | indirectBranch => exact .indirectBranch
  | other => exact .other

theorem takes_of_spelled {k : Kind} {v : Value} (h : k.Spelled v) : codec.Takes k v := by
  cases h with
  | @stackAdjust bytes v h =>
    have hfields : Record.Takes adjustFields (bytes, ()) [.number bytes.toNat] :=
      ⟨takes_word bytes, trivial⟩
    have hname : Variant.find? variants "stack_adjust" = some (.holding "stack_adjust"
        ((fun r : Record adjustFields ↦ .stackAdjust r.1) <$> readRecord _)) := rfl
    exact Variant.reads_holding_record hname (by decide) hfields h
  | @branch target v h =>
    have hfields : Record.Takes branchFields (target, ()) [.number target.toNat] :=
      ⟨takes_word target, trivial⟩
    have hname : Variant.find? variants "branch" = some (.holding "branch"
        ((fun r : Record branchFields ↦ .branch r.1) <$> readRecord _)) := rfl
    exact Variant.reads_holding_record hname (by decide) hfields h
  | indirectBranch => exact Variant.reads_bare rfl
  | other => exact Variant.reads_bare rfl

end Kind

namespace Instruction

def Spelled (i : Instruction) (v : Value) : Prop :=
  ∃ kind, i.kind.Spelled kind ∧
    v.Structured ["address", "raw_bytes", "opcode", "operands", "comment", "kind"]
      [.number i.address.toNat, .text i.rawBytes, .text i.opcode, .text i.operands,
        .text i.comment, kind]

theorem spelled_write (i : Instruction) : i.Spelled (codec.write i) :=
  ⟨_, i.kind.spelled_write, .members (.refl _)⟩

theorem takes_of_spelled {i : Instruction} {v : Value} (h : i.Spelled v) : codec.Takes i v := by
  obtain ⟨kind, hkind, hv⟩ := h
  refine takes_record (by decide) rfl ?_ hv
  exact ⟨takes_word _, takes_text _, takes_text _, takes_text _, takes_text _,
    Kind.takes_of_spelled hkind, trivial⟩

end Instruction

namespace Routine

def Spelled (r : Routine) (v : Value) : Prop :=
  ∃ body, List.Forall₂ Instruction.Spelled r.body body ∧
    v.Structured ["name", "entry_address", "instructions", "frame_size", "callees"]
      [.text r.name, .number r.entry.toNat, .list body, .number r.frame.toNat,
        .list (r.callees.map .number)]

theorem spelled_write (r : Routine) : r.Spelled (codec.write r) := by
  refine ⟨r.body.map Instruction.codec.write, ?_, .members (.refl _)⟩
  apply List.forall₂_map_right_iff.mpr
  exact List.forall₂_same.mpr fun i _ ↦ i.spelled_write

theorem takes_of_spelled {r : Routine} {v : Value} (hcallees : ∀ id ∈ r.callees, id < UInt64.size)
    (h : r.Spelled v) : codec.Takes r v := by
  obtain ⟨body, hbody, hv⟩ := h
  refine takes_record (by decide) rfl ?_ hv
  refine ⟨takes_text _, takes_word _, takes_list ?_, takes_word _, takes_list_map ?_, trivial⟩
  · exact hbody.imp fun _ _ ↦ Instruction.takes_of_spelled
  · exact fun id hid ↦ takes_count (hcallees id hid)

end Routine

namespace TraceStep

def Spelled (s : TraceStep) (v : Value) : Prop :=
  v.Structured ["depth", "name", "frame_size"]
    [.number s.depth, .text s.name, .number s.frame.toNat]

theorem spelled_write (s : TraceStep) : s.Spelled (codec.write s) :=
  .members (.refl _)

theorem takes_of_spelled {s : TraceStep} {v : Value} (hdepth : s.depth < UInt64.size)
    (h : s.Spelled v) : codec.Takes s v := by
  refine takes_record (by decide) rfl ?_ h
  exact ⟨takes_count hdepth, takes_text _, takes_word _, trivial⟩

end TraceStep

namespace Measurement

def Spelled (m : Measurement) (v : Value) : Prop :=
  ∃ trace, List.Forall₂ TraceStep.Spelled m.trace trace ∧
    v.Structured ["entry", "bytes", "trace"] [.text m.entry, .number m.bytes.toNat, .list trace]

theorem spelled_write (m : Measurement) : m.Spelled (codec.write m) := by
  refine ⟨m.trace.map TraceStep.codec.write, ?_, .members (.refl _)⟩
  apply List.forall₂_map_right_iff.mpr
  exact List.forall₂_same.mpr fun s _ ↦ s.spelled_write

theorem takes_of_spelled {m : Measurement} {v : Value}
    (hdepth : ∀ s ∈ m.trace, s.depth < UInt64.size) (h : m.Spelled v) : codec.Takes m v := by
  obtain ⟨trace, htrace, hv⟩ := h
  have hsteps : List.Forall₂ TraceStep.codec.Takes m.trace trace := by
    refine ((List.forall₂_and_left _ _).mpr ⟨hdepth, htrace⟩).imp ?_
    exact fun _ _ h ↦ TraceStep.takes_of_spelled h.1 h.2
  refine takes_record (by decide) rfl ?_ hv
  exact ⟨takes_text _, takes_word _, takes_list hsteps, trivial⟩

end Measurement

namespace Chain

def Spelled (c : Chain) (v : Value) : Prop :=
  v = .list (c.map .text)

theorem takes_of_spelled {c : Chain} {v : Value} (h : c.Spelled v) : codec.Takes c v := by
  subst h
  exact takes_list_map fun name _ ↦ takes_text name

end Chain

namespace Plan

def Spelled (p : Plan) (v : Value) : Prop :=
  v.Structured ["call_hints", "queries"]
    [.list (p.hints.map fun c ↦ .list (c.map .text)), .list (p.queries.map .text)]

theorem spelled_write (p : Plan) : p.Spelled (codec.write p) :=
  .members (.refl _)

theorem takes_of_spelled {p : Plan} {v : Value} (h : p.Spelled v) : codec.Takes p v := by
  refine takes_record (by decide) rfl ?_ h
  refine ⟨takes_list_map ?_, takes_list_map ?_, trivial⟩
  · exact fun c _ ↦ Chain.takes_of_spelled rfl
  · exact fun name _ ↦ takes_text name

end Plan

/-- Each type is read back from what is written for it, and from every other way to write it down:
structures may have their members in any order or be lists, at any depth. Positions and depths are
kept in words. -/
theorem codecs_read_back :
    (∀ p : Plan, Plan.codec.ReadsBack Plan.Spelled p) ∧
    (∀ id < UInt64.size, count.ReadsBack (fun id v ↦ v = .number id) id) ∧
    (∀ k : Kind, Kind.codec.ReadsBack Kind.Spelled k) ∧
    (∀ i : Instruction, Instruction.codec.ReadsBack Instruction.Spelled i) ∧
    (∀ r : Routine, (∀ id ∈ r.callees, id < UInt64.size) →
      Routine.codec.ReadsBack Routine.Spelled r) ∧
    (∀ c : Chain, Chain.codec.ReadsBack Chain.Spelled c) ∧
    (∀ s : TraceStep, s.depth < UInt64.size → TraceStep.codec.ReadsBack TraceStep.Spelled s) ∧
    (∀ m : Measurement, (∀ s ∈ m.trace, s.depth < UInt64.size) →
      Measurement.codec.ReadsBack Measurement.Spelled m) := by
  refine ⟨?_, ?_, ?_, ?_, ?_, ?_, ?_, ?_⟩
  · intro p
    exact readsBack_of_takes p.spelled_write fun _ ↦ Plan.takes_of_spelled
  · intro id hid
    exact readsBack_of_takes rfl fun v hv ↦ hv ▸ takes_count hid
  · intro k
    exact readsBack_of_takes k.spelled_write fun _ ↦ Kind.takes_of_spelled
  · intro i
    exact readsBack_of_takes i.spelled_write fun _ ↦ Instruction.takes_of_spelled
  · intro r hcallees
    exact readsBack_of_takes r.spelled_write fun _ ↦ Routine.takes_of_spelled hcallees
  · intro c
    exact readsBack_of_takes rfl fun _ ↦ Chain.takes_of_spelled
  · intro s hdepth
    exact readsBack_of_takes s.spelled_write fun _ ↦ TraceStep.takes_of_spelled hdepth
  · intro m hdepth
    exact readsBack_of_takes m.spelled_write fun _ ↦ Measurement.takes_of_spelled hdepth

def greatMeasurement : Measurement :=
  ⟨"main", 18446744073709551615, [⟨1, "a\"b", 40⟩]⟩

/-- `greatMeasurement` as a list, with the members of its step out of their order. -/
def turnedMeasurement : Value :=
  .list [.text "main", .number 18446744073709551615, .list [
    .object ([("name", .text "a\"b"), ("frame_size", .number 40)] ++ [("depth", .number 1)])]]

def turnedText : String :=
  "[\"main\",18446744073709551615,[\x7b\"name\":\"a\\\"b\",\"frame_size\":40,\"depth\":1\x7d]]"

theorem turnedMeasurement_reads_back :
    (∀ s ∈ greatMeasurement.trace, s.depth < UInt64.size) ∧
    Measurement.codec.decode turnedText = .ok greatMeasurement := by
  have hdepth : ∀ s ∈ greatMeasurement.trace, s.depth < UInt64.size := by decide
  have hspelled : greatMeasurement.Spelled turnedMeasurement :=
    ⟨_, .cons (.members List.perm_append_comm) .nil, .items⟩
  have htext : String.ofList turnedMeasurement.render = turnedText := by rfl
  obtain ⟨-, -, -, -, -, -, -, hmeasurement⟩ := codecs_read_back
  rw [← htext]
  exact ⟨hdepth, (hmeasurement greatMeasurement hdepth).decode_spelled _ hspelled⟩

end StackDepth
