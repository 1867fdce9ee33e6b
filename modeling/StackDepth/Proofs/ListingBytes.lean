import StackDepth.Proofs.LineByLine
import StackDepth.Proofs.Utf8

namespace StackDepth

open Text

namespace Utf8

variable {b : UInt8} {c : Char} {bytes : List UInt8} {s : List Char}

theorem eq_of_mem_utf8EncodeChar (hb : b < 0x80) (h : b ∈ String.utf8EncodeChar c) :
    c = Char.ofNat b.toNat := by
  obtain ⟨xs, ys, hsplit⟩ := List.append_of_mem h
  have hitems : itemsFrom .between (String.utf8EncodeChar c ++ []) = [some c] :=
    itemsFrom_utf8EncodeChar c []
  rw [List.append_nil, hsplit, ← items_eq_itemsFrom, items_append_ascii hb] at hitems
  cases hxs : items xs with
  | nil =>
    rw [hxs] at hitems
    exact (Option.some.inj (List.cons.inj hitems).1).symm
  | cons x items => simp [hxs] at hitems

theorem splitOn_encode (s : List Char) : (encode s).splitOn 10 = (s.splitOn '\n').map encode := by
  induction s with
  | nil => rfl
  | cons c s ih =>
    rw [encode_cons, List.splitOn_cons_eq_if_modifyHead]
    by_cases hc : c = '\n'
    · subst hc
      have hfeed : String.utf8EncodeChar '\n' = [10] := rfl
      rw [hfeed, List.singleton_append, List.splitOn_cons_eq_if_modifyHead, ih]
      rfl
    · have hmem : (10 : UInt8) ∉ String.utf8EncodeChar c := fun h ↦
        hc (eq_of_mem_utf8EncodeChar (by decide) h)
      have hne : (c == '\n') = false := beq_eq_false_iff_ne.mpr hc
      rw [splitOn_append_of_not_mem hmem, ih, hne]
      cases s.splitOn '\n' <;> rfl

theorem pieces_encode (s : List Char) : pieces 10 (encode s) = (lines s).map encode := by
  have hempty (l : List Char) : (encode l).isEmpty = l.isEmpty := by
    rw [Bool.eq_iff_iff, List.isEmpty_iff, List.isEmpty_iff, encode_eq_nil_iff]
  rw [lines, pieces, pieces, splitOn_encode]
  simp only [List.getLast?_map, Option.all_map, hempty]
  split <;> simp

theorem eq_nil_or_mem_pieces {l : List UInt8} (h : l ∈ bytes.splitOn 10) :
    l = [] ∨ l ∈ pieces 10 bytes := by
  rw [pieces]
  split
  · rename_i hempty
    rw [← List.dropLast_concat_getLast (List.splitOn_ne_nil 10 bytes), List.mem_append,
      List.mem_singleton] at h
    rcases h with h | rfl
    · exact .inr h
    · rw [List.getLast?_eq_some_getLast (List.splitOn_ne_nil 10 bytes), Option.all_some,
        List.isEmpty_iff] at hempty
      exact .inl hempty
  · exact .inr h

theorem exists_encode_intercalate {ls : List (List UInt8)} (h : ∀ l ∈ ls, ∃ s, l = encode s) :
    ∃ s, [10].intercalate ls = encode s := by
  induction ls with
  | nil => exact ⟨[], rfl⟩
  | cons l ls ih =>
    obtain ⟨⟨s, rfl⟩, hls⟩ := List.forall_mem_cons.mp h
    obtain ⟨t, ht⟩ := ih hls
    cases ls with
    | nil => exact ⟨s, List.intercalate_singleton⟩
    | cons l ls =>
      refine ⟨s ++ '\n' :: t, ?_⟩
      rw [List.intercalate_cons_cons, ht, encode_append, encode_cons, List.append_assoc]
      rfl

theorem exists_encode_of_pieces (h : ∀ l ∈ pieces 10 bytes, ∃ s, l = encode s) :
    ∃ s, bytes = encode s := by
  have hsplit : ∀ l ∈ bytes.splitOn 10, ∃ s, l = encode s := by
    intro l hl
    rcases eq_nil_or_mem_pieces hl with rfl | hl
    · exact ⟨[], rfl⟩
    · exact h l hl
  have hbytes := exists_encode_intercalate hsplit
  rwa [List.intercalate_splitOn] at hbytes

end Utf8

namespace Listing

variable {bytes bad : List UInt8} {fed : List (List Char)}

/-- The text of a line that comes as bytes, without its end; none where it is not UTF-8. -/
def chomped? (row : List UInt8) : Option (List Char) :=
  (Utf8.decode? row).map chomp

@[simp]
theorem chomped?_concat_return (row : List UInt8) : chomped? (row ++ [13]) = chomped? row := by
  rw [chomped?, chomped?, Utf8.decode?_append_ascii (by decide)]
  cases Utf8.decode? row with
  | none => rfl
  | some s => exact congrArg some (chomp_concat_return s)

theorem chomped?_eq_none_iff : chomped? bytes = none ↔ ∀ s, bytes ≠ Utf8.encode s := by
  rw [chomped?, Option.map_eq_none_iff, Utf8.decode?_eq_none_iff]

theorem map_chomped?_rows (bytes : List UInt8) :
    (rowsBy 13 10 bytes).map chomped? = (pieces 10 bytes).map chomped? :=
  map_rowsBy_eq_map_pieces chomped?_concat_return bytes

theorem exists_row_of_not_encode (h : ∀ s, bytes ≠ Utf8.encode s) :
    ∃ row ∈ rowsBy 13 10 bytes, chomped? row = none := by
  have hpiece : ∃ l ∈ pieces 10 bytes, chomped? l = none := by
    by_contra hall
    have hpieces : ∀ l ∈ pieces 10 bytes, ∃ s, l = Utf8.encode s := by
      intro l hl
      by_contra hne
      exact hall ⟨l, hl, chomped?_eq_none_iff.mpr fun s hs ↦ hne ⟨s, hs⟩⟩
    obtain ⟨s, hs⟩ := Utf8.exists_encode_of_pieces hpieces
    exact h s hs
  obtain ⟨l, hl, hnone⟩ := hpiece
  have hmem : none ∈ (rowsBy 13 10 bytes).map chomped? := by
    rw [map_chomped?_rows]
    exact List.mem_map.mpr ⟨l, hl, hnone⟩
  exact List.mem_map.mp hmem

theorem exists_first_row {rows : List (List UInt8)} (h : ∃ row ∈ rows, chomped? row = none) :
    ∃ (before : List (List Char)) (bad : List UInt8) (rest : List (List UInt8)),
      rows = before.map Utf8.encode ++ bad :: rest ∧ chomped? bad = none := by
  induction rows with
  | nil => simp at h
  | cons row rows ih =>
    cases hrow : chomped? row with
    | none => exact ⟨[], row, rows, rfl, hrow⟩
    | some t =>
      obtain ⟨s, hs, -⟩ := Option.map_eq_some_iff.mp hrow
      have hlater : ∃ row ∈ rows, chomped? row = none := by
        obtain ⟨bad, hbad, hnone⟩ := h
        rcases List.mem_cons.mp hbad with rfl | hbad
        · rw [hrow] at hnone
          cases hnone
        · exact ⟨bad, hbad, hnone⟩
      obtain ⟨before, bad, rest, rfl, hnone⟩ := ih hlater
      refine ⟨s :: before, bad, rest, ?_, hnone⟩
      rw [List.map_cons, ← Utf8.decode?_eq_some_iff.mp hs]
      rfl

namespace Scan

def nextText (scan : Scan) : Option (List Char) → Except Error Scan
  | some s => scan.next s
  | none => .error (.unreadable Utf8.invalidReason)

theorem nextBytes_eq_nextText (scan : Scan) (row : List UInt8) :
    scan.nextBytes row = scan.nextText (chomped? row) := by
  rw [nextBytes, chomped?]
  cases Utf8.decode? row with
  | none => rfl
  | some s =>
    change scan.next s = scan.next (chomp s)
    rw [next, next, feed_eq_feed_chomp]

@[simp]
theorem nextBytes_encode (scan : Scan) (s : List Char) :
    scan.nextBytes (Utf8.encode s) = scan.next s := by
  rw [nextBytes, Utf8.decode?_encode]

theorem foldlM_nextBytes_map_encode (scan : Scan) (fed : List (List Char)) :
    (fed.map Utf8.encode).foldlM nextBytes scan = fed.foldlM next scan := by
  rw [List.foldlM_map]
  simp only [nextBytes_encode]

/-- A carriage return in front of a line feed does not count. -/
theorem foldlM_nextBytes_rows (scan : Scan) (bytes : List UInt8) :
    (rowsBy 13 10 bytes).foldlM nextBytes scan = (pieces 10 bytes).foldlM nextBytes scan := by
  have hnext : nextBytes = fun scan row ↦ nextText scan (chomped? row) := by
    funext scan row
    exact nextBytes_eq_nextText scan row
  rw [hnext, ← List.foldlM_map, map_chomped?_rows, List.foldlM_map]

theorem foldlM_nextBytes_of_bad (hbad : chomped? bad = none) (fed : List (List Char))
    (rest : List (List UInt8)) (scan : Scan) :
    (fed.map Utf8.encode ++ bad :: rest).foldlM nextBytes scan =
      (fed.foldlM next scan).bind fun _ ↦ .error (.unreadable Utf8.invalidReason) := by
  rw [List.foldlM_append, foldlM_nextBytes_map_encode]
  cases fed.foldlM next scan with
  | error e => rfl
  | ok scan =>
    change (bad :: rest).foldlM nextBytes scan = _
    rw [List.foldlM_cons, nextBytes_eq_nextText, hbad]
    rfl

end Scan

theorem ofStream_encode (s : String) : ofStream ⟨Utf8.encode s.toList, none⟩ = ofText s := by
  change ((pieces 10 (Utf8.encode s.toList)).foldlM Scan.nextBytes Scan.start).map _ = _
  rw [Utf8.pieces_encode, Scan.foldlM_nextBytes_map_encode, ofText]

theorem ofStream_eq_rows (bytes : List UInt8) : ofStream ⟨bytes, none⟩ =
    ((rowsBy 13 10 bytes).foldlM Scan.nextBytes Scan.start).map Scan.routines := by
  rw [Scan.foldlM_nextBytes_rows]
  rfl

theorem exists_error_of_bad (hbad : chomped? bad = none) {rest : List (List UInt8)}
    (hrows : rowsBy 13 10 bytes = fed.map Utf8.encode ++ bad :: rest) :
    ∃ e, ofStream ⟨bytes, none⟩ = .error e := by
  rw [ofStream_eq_rows, hrows, Scan.foldlM_nextBytes_of_bad hbad]
  cases fed.foldlM Scan.next Scan.start with
  | error e => exact ⟨e, rfl⟩
  | ok scan => exact ⟨_, rfl⟩

theorem ofStream_eq_error_iff_of_bad (hbad : chomped? bad = none) {rest : List (List UInt8)}
    (hrows : rowsBy 13 10 bytes = fed.map Utf8.encode ++ bad :: rest) {e : Error} :
    ofStream ⟨bytes, none⟩ = .error e ↔
      (∃ earlier s later, fed = earlier ++ s :: later ∧ Faultless earlier ∧ Fault earlier s e) ∨
        Faultless fed ∧ e = .unreadable Utf8.invalidReason := by
  rw [ofStream_eq_rows, hrows, Scan.foldlM_nextBytes_of_bad hbad]
  simp only [← Scan.accepts_start_iff, ← Scan.feed_after_start_eq_error_iff,
    ← Scan.foldlM_next_eq_error_iff]
  -- a fault in front of the bad line is met first
  cases hfed : fed.foldlM Scan.next Scan.start with
  | error e' =>
    have hnot : ¬Scan.start.Accepts fed := by
      intro haccepts
      rw [Scan.foldlM_next_eq_ok_iff.mpr ⟨haccepts, rfl⟩] at hfed
      cases hfed
    simp [Except.bind, Except.map, hnot]
  | ok scan =>
    obtain ⟨haccepts, -⟩ := Scan.foldlM_next_eq_ok_iff.mp hfed
    simp [Except.bind, Except.map, haccepts, eq_comm]

/-- Bytes that encode a text are read as the text is: with the same routines or the same fault.
Other bytes have a first line that is not UTF-8; reading them ends with the first fault of the lines
in front of it, and without one the bytes are unreadable. -/
theorem ofStream_reads_utf8 :
    (∀ s : String, ofStream ⟨Utf8.encode s.toList, none⟩ = ofText s) ∧
    ∀ bytes : List UInt8, (∀ s : String, bytes ≠ Utf8.encode s.toList) →
      ∃ (before : List (List Char)) (bad : List UInt8) (rest : List (List UInt8)),
        rowsBy 13 10 bytes = before.map Utf8.encode ++ bad :: rest ∧
        (∀ s : String, bad ≠ Utf8.encode s.toList) ∧
        (∃ e, ofStream ⟨bytes, none⟩ = .error e) ∧
        ∀ e, ofStream ⟨bytes, none⟩ = .error e ↔
          (∃ earlier s later, before = earlier ++ s :: later ∧ Faultless earlier ∧
            Fault earlier s e) ∨
          Faultless before ∧ e = .unreadable Utf8.invalidReason := by
  refine ⟨ofStream_encode, fun bytes hbytes ↦ ?_⟩
  have hbytes' (s : List Char) : bytes ≠ Utf8.encode s := by
    have h := hbytes (String.ofList s)
    rwa [String.toList_ofList] at h
  obtain ⟨before, bad, rest, hrows, hbad⟩ := exists_first_row (exists_row_of_not_encode hbytes')
  exact ⟨before, bad, rest, hrows, fun s ↦ chomped?_eq_none_iff.mp hbad s.toList,
    exists_error_of_bad hbad hrows, fun e ↦ ofStream_eq_error_iff_of_bad hbad hrows⟩

/-- A header, a character that the end of its line cuts off, and an instruction. -/
def cutCharacter : List UInt8 :=
  Utf8.encode "00008000 <f>:\r\n".toList ++ 0xC3 :: 10 :: Utf8.encode " 8000: 00 \tnop".toList

theorem cutCharacter_reads : (∀ s : String, cutCharacter ≠ Utf8.encode s.toList) ∧
    ∃ e, ofStream ⟨cutCharacter, none⟩ = .error e := by
  have hbytes (s : String) : cutCharacter ≠ Utf8.encode s.toList := by
    apply Utf8.decode?_eq_none_iff.mp
    decide +kernel
  obtain ⟨before, bad, rest, -, -, herror, -⟩ := ofStream_reads_utf8.2 cutCharacter hbytes
  exact ⟨hbytes, herror⟩

end Listing

end StackDepth
