import StackDepth.Disassembly
import StackDepth.Host.FileTree
import StackDepth.Proofs.ListingBytes

namespace StackDepth

open Text

namespace Utf8

variable {state : State} {b : UInt8} {bytes : List UInt8}

/-- Only characters from U+0010 on are under way. -/
def State.Advanced : State → Prop
  | .between => True
  | .inside _ low _ bits => 0x10 ≤ bits * 64 + (low.toNat - 0x80)

theorem advanced_start (b : UInt8) : (start b).1.Advanced := by
  rw [start]
  split
  · trivial
  · split
    · rename_i l hl
      cases isLead_of_lead? hl with
      | two bits hle =>
        change 0x10 ≤ bits * 64 + _
        omega
      | three bits | four bits =>
        change 0x10 ≤ bits * 64 + (UInt8.toNat (ite _ _ _) - 0x80)
        split
        · simp
        · omega
    · trivial

theorem ofNat_ne_newline {n : Nat} (hn : 0x10 ≤ n) : Char.ofNat n ≠ '\n' := by
  intro h
  by_cases hvalid : n.isValidChar
  · rw [Char.ofNat, dif_pos hvalid] at h
    have hval : n = 10 := congrArg Char.toNat h
    omega
  · rw [Char.ofNat, dif_neg hvalid] at h
    revert h
    decide

theorem newline_not_mem_start (hb : b ≠ 10) : some '\n' ∉ (start b).2 := by
  rw [start]
  split
  · intro h
    have hchar : '\n' = Char.ofNat b.toNat := by simpa using h
    by_cases hlt : b.toNat < 0x10
    · generalize hn : b.toNat = n at hchar hlt
      obtain rfl : n = 10 := by
        revert hchar
        interval_cases n <;> decide
      exact hb (UInt8.toNat_inj.mp hn)
    · exact ofNat_ne_newline (Nat.le_of_not_lt hlt) hchar.symm
  · split <;> simp

theorem State.Advanced.step (h : state.Advanced) (b : UInt8) : (step state b).1.Advanced := by
  cases state with
  | between => exact advanced_start b
  | inside following low high bits =>
    rw [Utf8.step]
    split
    · rename_i hb
      split
      · trivial
      · have hlow := UInt8.le_iff_toNat_le.mp hb.1
        change 0x10 ≤ bits * 64 + (low.toNat - 0x80) at h
        change 0x10 ≤ (bits * 64 + (b.toNat - 0x80)) * 64 + _
        omega
    · exact advanced_start b

theorem State.Advanced.newline_not_mem_step (h : state.Advanced) (hb : b ≠ 10) :
    some '\n' ∉ (Utf8.step state b).2 := by
  cases state with
  | between => exact newline_not_mem_start hb
  | inside following low high bits =>
    rw [Utf8.step]
    split
    · rename_i hle
      split
      · have hlow := UInt8.le_iff_toNat_le.mp hle.1
        change 0x10 ≤ bits * 64 + (low.toNat - 0x80) at h
        have hne : Char.ofNat (bits * 64 + (b.toNat - 0x80)) ≠ '\n' := ofNat_ne_newline (by omega)
        simpa using hne.symm
      · simp
    · simpa using newline_not_mem_start hb

theorem State.Advanced.newline_not_mem_itemsFrom (h : state.Advanced) (hbytes : 10 ∉ bytes) :
    some '\n' ∉ itemsFrom state bytes := by
  induction bytes generalizing state with
  | nil => cases state <;> simp [itemsFrom, State.finish]
  | cons b bytes ih =>
    obtain ⟨hb, hbytes⟩ : 10 ≠ b ∧ 10 ∉ bytes := by simpa using hbytes
    rw [itemsFrom, List.mem_append, not_or]
    exact ⟨h.newline_not_mem_step hb.symm, ih (h.step b) hbytes⟩

theorem newline_not_mem_decodeLossy (hbytes : 10 ∉ bytes) : '\n' ∉ decodeLossy bytes := by
  have hbetween : State.Advanced .between := trivial
  intro h
  rw [decodeLossy, items_eq_itemsFrom] at h
  obtain ⟨item, hitem, hchar⟩ := List.mem_map.mp h
  cases item with
  | none =>
    revert hchar
    decide
  | some c =>
    obtain rfl : c = '\n' := hchar
    exact hbetween.newline_not_mem_itemsFrom hbytes hitem

/-- Decoding goes on from a byte below 0x80 as from the beginning. -/
theorem decodeLossy_append_ascii (hb : b < 0x80) (xs ys : List UInt8) :
    decodeLossy (xs ++ b :: ys) = decodeLossy xs ++ Char.ofNat b.toNat :: decodeLossy ys := by
  rw [decodeLossy, items_append_ascii hb, List.map_append, List.map_cons]
  rfl

theorem decodeLossy_encode (s : List Char) : decodeLossy (encode s) = s := by
  rw [decodeLossy, items_eq_itemsFrom, itemsFrom_encode, List.map_map]
  exact List.map_id s

theorem splitOn_decodeLossy (bytes : List UInt8) :
    (decodeLossy bytes).splitOn '\n' = (bytes.splitOn 10).map decodeLossy := by
  -- Both sides are cut at the first line feed, and what is behind it is shorter.
  by_cases h : 10 ∈ bytes
  · obtain ⟨xs, ys, hsplit, hxs⟩ := List.eq_append_cons_of_mem h
    have hfeed : Char.ofNat (10 : UInt8).toNat = '\n' := rfl
    rw [hsplit, decodeLossy_append_ascii (by decide), hfeed,
      List.splitOn_append_cons_self_of_not_mem (newline_not_mem_decodeLossy hxs),
      List.splitOn_append_cons_self_of_not_mem hxs, splitOn_decodeLossy ys, List.map_cons]
  · rw [List.splitOn_eq_singleton h, List.splitOn_eq_singleton (newline_not_mem_decodeLossy h)]
    rfl
termination_by bytes.length
decreasing_by
  rw [hsplit, List.length_append, List.length_cons]
  omega

end Utf8

namespace Listing

def ofLines (ls : List (List Char)) : Except Error (List Routine) :=
  (ls.foldlM Scan.next Scan.start).map Scan.routines

theorem ofText_eq_ofLines (listing : String) : ofText listing = ofLines (lines listing.toList) :=
  rfl

theorem ofLines_concat_nil (ls : List (List Char)) : ofLines (ls ++ [[]]) = ofLines ls := by
  rw [ofLines, ofLines, List.foldlM_append]
  cases ls.foldlM Scan.next Scan.start with
  | error e => rfl
  | ok scan => rfl

/-- It does not matter whether an empty line is read behind the last line feed. -/
theorem ofLines_splitOn (s : List Char) : ofLines (s.splitOn '\n') = ofLines (lines s) := by
  rw [lines, pieces]
  split
  · rename_i hlast
    have hne := List.splitOn_ne_nil '\n' s
    rw [List.getLast?_eq_some_getLast hne, Option.all_some, List.isEmpty_iff] at hlast
    conv_lhs => rw [← List.dropLast_concat_getLast hne, hlast]
    exact ofLines_concat_nil _
  · rfl

theorem ofText_decodeLossy (bytes : List UInt8) :
    ofText (String.ofList (Utf8.decodeLossy bytes)) =
      ofLines ((bytes.splitOn 10).map Utf8.decodeLossy) := by
  rw [ofText_eq_ofLines, String.toList_ofList, ← ofLines_splitOn, Utf8.splitOn_decodeLossy]

end Listing

def Loaded.ofRead (source : Source) (binary : String) :
    Except Listing.Error (List Routine) → Loaded
  | .error e => ⟨source.notices binary, .error (.listing e)⟩
  | .ok routines =>
    ⟨source.notices binary ++ .listingRead source.name routines.length binary ::
      (Program.analyze routines).branchNotices, .ok (Program.analyze routines)⟩

namespace FileTree

variable {entries : List (String × Node)} {path name : String} {contents : List UInt8}
variable {run : Option ToolRun}

def Names (path name : String) : Prop :=
  (names path = [name] ∨ names path = ["", name]) ∧ name ∉ ["", ".", ".."] ∧
    name.utf8ByteSize ≤ nameLimit ∧ path ≠ "" ∧ '\x00' ∉ path.toList ∧
    path.utf8ByteSize ≤ pathLimit

instance (path name : String) : Decidable (Names path name) :=
  inferInstanceAs (Decidable (_ ∧ _))

theorem node_of_names (h : Names path name)
    (hlookup : entries.lookup name = some (.file contents run)) (searchPath : List String) :
    node ⟨.directory entries, [], searchPath⟩ path = .ok (.file contents run) := by
  obtain ⟨hnames, hname, hlimit, hpath, hnul, hsize⟩ := h
  obtain ⟨hempty, hdot, hdots⟩ : name ≠ "" ∧ name ≠ "." ∧ name ≠ ".." := by simpa using hname
  have hfollow : follow (.directory entries) linkLimit [] [name] = .ok [name] := by
    simp [follow, Node.get?, hempty, hdot, hdots, Nat.not_lt.mpr hlimit, hlookup]
  have hnamed : follow (.directory entries) linkLimit [] (names path) = .ok [name] := by
    rcases hnames with hnames | hnames
    · rw [hnames, hfollow]
    · rw [hnames, follow]
      simpa [Node.get?] using hfollow
  have hlocate : locate ⟨.directory entries, [], searchPath⟩ path = .ok [name] := by
    rw [locate, if_neg hnul, if_neg hpath, ite_self, hnamed]
  have hget : Node.get? (.directory entries) [name] = some (.file contents run) := by
    simp [Node.get?, hlookup]
  have hlong : ¬(pathLimit < path.utf8ByteSize ∧ '\x00' ∉ path.toList) := by omega
  rw [node, if_neg hlong, hlocate]
  simp only [bind, Except.bind, pure, Except.pure, hget]

@[simp]
theorem host_isFile {tree : FileTree} (h : tree.node path = .ok (.file contents run)) :
    tree.host.isFile path = pure true := by
  change pure (tree.isFile path) = _
  rw [isFile, h]

@[simp]
theorem host_readFile {tree : FileTree} (h : tree.node path = .ok (.file contents run)) :
    tree.host.readFile path = pure (.ok contents) := by
  change pure (tree.readFile path) = _
  rw [readFile, h]
  rfl

@[simp]
theorem host_runTool {tree : FileTree} {result : ToolRun} (hslash : '/' ∈ path.toList)
    (hnul : '\x00' ∉ path.toList) (h : tree.node path = .ok (.file contents (some result)))
    (arguments : List String) :
    tree.host.runTool path arguments = do set (some arguments); return .ok result := by
  have hpath : path ≠ "" := by
    rintro rfl
    simp at hslash
  have hrun : tree.runTool path = .ok result := by
    rw [runTool, if_neg hnul, if_neg hpath, if_pos hslash, runAt, h]
    rfl
  simp only [host, hrun]

end FileTree

namespace Host

variable {m : Type → Type} [Monad m] [LawfulMonad m] {host : Host m}
variable {source : Source} {tool binary path : String} {look work : m Unit}

theorem load_of_listing {listing : String} (hbinary : host.isFile binary = do look; return true)
    (hlisting : host.listing binary source = do work; return .ok listing) :
    host.load source binary = do
      look
      work
      return .ofRead source binary (Listing.ofText listing) := by
  simp only [load, hbinary, hlisting, bind_assoc, pure_bind, if_true]
  cases Listing.ofText listing <;> rfl

theorem listing_disassembler {bytes stderr : List UInt8}
    (hrun : host.runTool tool ["-d", binary] = do work; return .ok ⟨bytes, stderr, .code 0⟩) :
    host.listing binary (.disassembler tool) = do
      work
      return .ok (String.ofList (Utf8.decodeLossy bytes)) := by
  simp only [listing, disassemble, hrun, bind_assoc, pure_bind, if_true]

theorem listing_listingFile {s : List Char}
    (hfile : host.readFile path = do work; return .ok (Utf8.encode s)) :
    host.listing binary (.listingFile path) = do
      work
      return .ok (String.ofList s) := by
  simp only [listing, readListing, hfile, bind_assoc, pure_bind, Utf8.decode?_encode]

theorem outcome_ofRead (source source' : Source) (binary : String)
    (read : Except Listing.Error (List Routine)) :
    (Loaded.ofRead source binary read).outcome = (Loaded.ofRead source' binary read).outcome := by
  cases read <;> rfl

/-- The output of a disassembler is read as if each of its lines had been decoded on its own. A line
depends on its own bytes only, whatever stands in the others. Where the output is UTF-8, the outcome
is that of a listing file with the same bytes. -/
theorem load_disassembler_by_lines (host : Host m) (tool binary : String)
    (bytes stderr : List UInt8) (look work : m Unit)
    (hbinary : host.isFile binary = do look; return true)
    (hrun : host.runTool tool ["-d", binary] = do work; return .ok ⟨bytes, stderr, .code 0⟩) :
    let loaded := Loaded.ofRead (.disassembler tool) binary
      (Listing.ofLines ((bytes.splitOn 10).map Utf8.decodeLossy))
    (host.load (.disassembler tool) binary = do look; work; return loaded) ∧
    (∀ (bytes' : List UInt8) (i : Nat), (bytes'.splitOn 10)[i]? = (bytes.splitOn 10)[i]? →
      ((Utf8.decodeLossy bytes').splitOn '\n')[i]? =
        ((Utf8.decodeLossy bytes).splitOn '\n')[i]?) ∧
    ∀ (s : String) (path : String) (fetch : m Unit), bytes = Utf8.encode s.toList →
      (host.readFile path = do fetch; return .ok bytes) →
      ∃ loaded', (host.load (.listingFile path) binary = do look; fetch; return loaded') ∧
        loaded'.outcome = loaded.outcome := by
  intro loaded
  refine ⟨?_, ?_, ?_⟩
  · rw [load_of_listing hbinary (listing_disassembler hrun), Listing.ofText_decodeLossy]
  · intro bytes' i hrow
    rw [Utf8.splitOn_decodeLossy, Utf8.splitOn_decodeLossy, List.getElem?_map, List.getElem?_map,
      hrow]
  · rintro s path fetch rfl hfile
    refine ⟨.ofRead (.listingFile path) binary (Listing.ofText s), ?_, ?_⟩
    · have hload := load_of_listing hbinary (listing_listingFile hfile)
      rwa [String.ofList_toList] at hload
    · have hread := Listing.ofText_decodeLossy (Utf8.encode s.toList)
      rw [Utf8.decodeLossy_encode, String.ofList_toList] at hread
      rw [hread]
      exact outcome_ofRead _ _ _ _

def accentListing : String := "é\n00008000 <f>:"

/-- A binary, a disassembler that cuts off a character in its output, and another one whose output
is also at hand in a file. -/
def toolTree : FileTree where
  root := .directory [("fixture.elf", .file [] none),
    ("cut", .file [] (some ⟨Listing.cutCharacter, [], .code 0⟩)),
    ("whole", .file [] (some ⟨Utf8.encode accentListing.toList, [], .code 0⟩)),
    ("listing.lst", .file (Utf8.encode accentListing.toList) none)]
  current := []
  searchPath := []

theorem toolTree_load :
    (∃ p, ((toolTree.host.load (.disassembler "/cut") "fixture.elf").run none).1.outcome = .ok p ∧
      p.routines.map (fun r ↦ (r.name, r.body.length)) = [("f", 1)]) ∧
    ((toolTree.host.load (.listingFile "listing.lst") "fixture.elf").run none).1.outcome =
      ((toolTree.host.load (.disassembler "/whole") "fixture.elf").run none).1.outcome := by
  have hbinary : toolTree.host.isFile "fixture.elf" = _ := FileTree.host_isFile
    (FileTree.node_of_names (by decide +kernel : FileTree.Names _ "fixture.elf") rfl [])
  have hcut : toolTree.host.runTool "/cut" ["-d", "fixture.elf"] = _ :=
    FileTree.host_runTool (by decide +kernel) (by decide +kernel)
      (FileTree.node_of_names (by decide +kernel : FileTree.Names _ "cut") rfl []) _
  have hwhole : toolTree.host.runTool "/whole" ["-d", "fixture.elf"] = _ :=
    FileTree.host_runTool (by decide +kernel) (by decide +kernel)
      (FileTree.node_of_names (by decide +kernel : FileTree.Names _ "whole") rfl []) _
  have hfile : toolTree.host.readFile "listing.lst" = _ := FileTree.host_readFile
    (FileTree.node_of_names (by decide +kernel : FileTree.Names _ "listing.lst") rfl [])
  constructor
  · rw [(load_disassembler_by_lines toolTree.host _ _ _ _ (pure ()) _ hbinary hcut).1]
    refine ⟨_, rfl, ?_⟩
    decide +kernel
  · obtain ⟨hload, -, hagree⟩ :=
      load_disassembler_by_lines toolTree.host _ _ _ _ (pure ()) _ hbinary hwhole
    obtain ⟨loaded, hloaded, houtcome⟩ := hagree accentListing "listing.lst" (pure ()) rfl hfile
    rw [hload, hloaded]
    exact houtcome

end Host

end StackDepth
