import StackDepth.Hint

namespace StackDepth

structure TraceStep where
  depth : Nat
  name : String
  frame : UInt64
  deriving DecidableEq, Repr

structure Visit extends TraceStep where
  id : Nat
  context : HintContext
  deriving DecidableEq, Repr

/-- The sum of two sizes, or the last word where the sum is larger. -/
def clampedAdd (a b : UInt64) : UInt64 :=
  UInt64.ofNat (min (a.toNat + b.toNat) (UInt64.size - 1))

@[simp]
theorem toNat_clampedAdd (a b : UInt64) :
    (clampedAdd a b).toNat = min (a.toNat + b.toNat) (UInt64.size - 1) := by
  rw [clampedAdd, UInt64.toNat_ofNat']
  exact Nat.mod_eq_of_lt (Nat.lt_of_le_of_lt (Nat.min_le_right _ _) (by decide))

/-- The visits made, and the bytes of the deepest path; or the cycle that was met, from a routine
to the same one. -/
structure Walk where
  visits : List Visit
  outcome : Except (List Nat) UInt64

namespace Walk

def all (walk : Nat → Walk) : List Nat → Walk
  | [] => ⟨[], .ok 0⟩
  | id :: ids =>
    match walk id with
    | ⟨visits, .error cycle⟩ => ⟨visits, .error cycle⟩
    | ⟨visits, .ok bytes⟩ =>
      let rest := all walk ids
      ⟨visits ++ rest.visits, rest.outcome.map (max bytes)⟩

def enter (visit : Visit) (below : Walk) : Walk :=
  ⟨visit :: below.visits, below.outcome.map (clampedAdd visit.frame)⟩

def notices (p : Program) (w : Walk) : List Notice :=
  w.visits.flatMap fun v ↦ (v.context.resolve p v.name).notices

def trace (w : Walk) : List TraceStep :=
  w.visits.map (·.toTraceStep)

end Walk

namespace Program

def offPath (p : Program) (path : List Nat) : Nat :=
  ((List.range p.routines.length).filter fun id ↦ id ∉ path).length

theorem offPath_append_lt (p : Program) {path : List Nat} {id : Nat}
    (hid : id < p.routines.length) (hpath : id ∉ path) :
    p.offPath (path ++ [id]) < p.offPath path := by
  have h : (List.range p.routines.length).filter (fun i ↦ i ∉ path ++ [id]) =
      ((List.range p.routines.length).filter fun i ↦ i ∉ path).filter fun i ↦ i ≠ id := by
    rw [List.filter_filter]
    congr 1
    funext i
    by_cases hi : i = id <;> simp [hi]
  rw [offPath, offPath, h]
  exact List.length_filter_lt_length_iff_exists.mpr ⟨id, by simp [hid, hpath], by simp⟩

/-- The walk from a routine that is called along a path. It ends because each routine entered goes
onto the path, and none is entered twice. -/
def walk (p : Program) (path : List Nat) (context : HintContext) (id : Nat) : Walk :=
  if hpath : id ∈ path then ⟨[], .error (path.dropWhile (· != id) ++ [id])⟩
  else match hr : p.routines[id]? with
    | none => ⟨[], .ok 0⟩
    | some r =>
      have := p.offPath_append_lt (List.getElem?_eq_some_iff.mp hr).1 hpath
      let hinted := context.resolve p r.name
      Walk.enter ⟨⟨path.length, r.name, r.frame⟩, id, context⟩
        (Walk.all (p.walk (path ++ [id]) hinted.context) (r.callees ++ hinted.callees))
termination_by p.offPath path

end Program

end StackDepth
