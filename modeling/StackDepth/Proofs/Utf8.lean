import StackDepth.Text.Utf8
import Mathlib.Tactic.IntervalCases

namespace StackDepth.Utf8

def itemsFrom : State → List UInt8 → List Item
  | state, [] => state.finish
  | state, b :: bytes => (step state b).2 ++ itemsFrom (step state b).1 bytes

theorem finish_foldl_push (bytes : List UInt8) (state : State) (done : List Item) :
    (bytes.foldl Decoding.push ⟨state, done⟩).finish = done.reverse ++ itemsFrom state bytes := by
  induction bytes generalizing state done with
  | nil => rfl
  | cons b bytes ih =>
    have hpush : Decoding.push ⟨state, done⟩ b =
        ⟨(step state b).1, (step state b).2.reverse ++ done⟩ := rfl
    rw [List.foldl_cons, hpush, ih, itemsFrom]
    simp

theorem items_eq_itemsFrom (bytes : List UInt8) : items bytes = itemsFrom .between bytes :=
  finish_foldl_push bytes .between []

/-- The lead bytes by the bits that they hold. -/
inductive IsLead : UInt8 → Lead → Prop
  | two (bits : Nat) : 2 ≤ bits → bits < 32 →
      IsLead (UInt8.ofNat (bits + 0xC0)) ⟨1, 0x80, 0xBF, bits⟩
  | three (bits : Nat) : bits < 16 →
      IsLead (UInt8.ofNat (bits + 0xE0))
        ⟨2, if bits = 0 then 0xA0 else 0x80, if bits = 13 then 0x9F else 0xBF, bits⟩
  | four (bits : Nat) : bits < 5 →
      IsLead (UInt8.ofNat (bits + 0xF0))
        ⟨3, if bits = 0 then 0x90 else 0x80, if bits = 4 then 0x8F else 0xBF, bits⟩

theorem isLead_of_lead? {b : UInt8} {l : Lead} (h : lead? b = some l) : IsLead b l := by
  obtain ⟨n, hn, rfl⟩ : ∃ n < 256, b = UInt8.ofNat n := ⟨b.toNat, b.toNat_lt, by simp⟩
  have hb : (UInt8.ofNat n).toNat = n := UInt8.toNat_ofNat_of_lt' hn
  simp only [lead?, UInt8.le_iff_toNat_le, ← UInt8.toNat_inj, hb, UInt8.reduceToNat] at h
  split_ifs at h with h1 h2 h3 h4 h5 h6 h7 <;> cases h
  · have htwo := IsLead.two (n - 0xC0) (by omega) (by omega)
    rwa [show n - 0xC0 + 0xC0 = n by omega] at htwo
  · subst h2
    exact .three 0 (by omega)
  · subst h3
    exact .three 13 (by omega)
  · have hthree := IsLead.three (n - 0xE0) (by omega)
    rwa [show n - 0xE0 + 0xE0 = n by omega, if_neg (by omega), if_neg (by omega)] at hthree
  · subst h5
    exact .four 0 (by omega)
  · have hfour := IsLead.four (n - 0xF0) (by omega)
    rwa [show n - 0xF0 + 0xF0 = n by omega, if_neg (by omega), if_neg (by omega)] at hfour
  · subst h7
    exact .four 4 (by omega)

theorem IsLead.not_lt {b : UInt8} {l : Lead} (h : IsLead b l) : ¬b < 0x80 := by
  rw [UInt8.not_lt, UInt8.le_iff_toNat_le]
  cases h with
  | two bits | three bits | four bits =>
    rw [UInt8.toNat_ofNat_of_lt' (show _ < 256 by omega)]
    simp

theorem lead?_eq_some_iff {b : UInt8} {l : Lead} : lead? b = some l ↔ IsLead b l := by
  refine ⟨isLead_of_lead?, fun h ↦ ?_⟩
  cases h with
  | two bits hle hlt => interval_cases bits <;> rfl
  | three bits hlt => interval_cases bits <;> rfl
  | four bits hlt => interval_cases bits <;> rfl

section Boundary

variable {state : State} {b : UInt8}

/-- No byte below 0x80 goes on with a character. -/
def State.Guarded : State → Prop
  | .between => True
  | .inside _ low _ _ => 0x80 ≤ low

theorem guarded_start (b : UInt8) : (start b).1.Guarded := by
  rw [start]
  split
  · trivial
  · split
    · rename_i l hl
      cases isLead_of_lead? hl with
      | two => exact UInt8.le_refl 0x80
      | three bits | four bits =>
        change 0x80 ≤ ite _ _ _
        split <;> decide
    · trivial

theorem State.Guarded.step (h : state.Guarded) (b : UInt8) : (step state b).1.Guarded := by
  cases state with
  | between => exact guarded_start b
  | inside following low high bits =>
    rw [Utf8.step]
    split
    · split
      · trivial
      · exact UInt8.le_refl 0x80
    · exact guarded_start b

theorem itemsFrom_ascii (h : state.Guarded) (hb : b < 0x80) (bytes : List UInt8) :
    itemsFrom state (b :: bytes) =
      state.finish ++ some (Char.ofNat b.toNat) :: itemsFrom .between bytes := by
  have hstart : start b = (.between, [some (Char.ofNat b.toNat)]) := by rw [start, if_pos hb]
  cases state with
  | between =>
    rw [itemsFrom, step, hstart]
    rfl
  | inside following low high bits =>
    have hlow : ¬(low ≤ b ∧ b ≤ high) := by
      intro hle
      exact absurd (UInt8.le_trans h hle.1) (UInt8.not_le.mpr hb)
    rw [itemsFrom, step, if_neg hlow, hstart]
    rfl

theorem itemsFrom_append_ascii (h : state.Guarded) (hb : b < 0x80) (xs ys : List UInt8) :
    itemsFrom state (xs ++ b :: ys) =
      itemsFrom state xs ++ some (Char.ofNat b.toNat) :: itemsFrom .between ys := by
  induction xs generalizing state with
  | nil => exact itemsFrom_ascii h hb ys
  | cons x xs ih => rw [List.cons_append, itemsFrom, itemsFrom, ih (h.step x), List.append_assoc]

theorem items_append_ascii (hb : b < 0x80) (xs ys : List UInt8) :
    items (xs ++ b :: ys) = items xs ++ some (Char.ofNat b.toNat) :: items ys := by
  have hguarded : State.Guarded .between := trivial
  simp only [items_eq_itemsFrom]
  exact itemsFrom_append_ascii hguarded hb xs ys

end Boundary

/-- The bytes `w` are the rest of the character that is under way, and its number is `n`. -/
inductive Completes : State → List UInt8 → Nat → Prop
  | last {low high : UInt8} {bits : Nat} (b : UInt8) : low ≤ b → b ≤ high →
      Completes (.inside 1 low high bits) [b] (bits * 64 + (b.toNat - 0x80))
  | more {low high : UInt8} {k bits n : Nat} {w : List UInt8} (b : UInt8) : low ≤ b → b ≤ high →
      Completes (.inside (k + 1) 0x80 0xBF (bits * 64 + (b.toNat - 0x80))) w n →
      Completes (.inside (k + 2) low high bits) (b :: w) n

section Character

variable {state : State} {b : UInt8} {w bytes : List UInt8} {n k : Nat}

theorem Completes.itemsFrom_append (h : Completes state w n) (rest : List UInt8) :
    itemsFrom state (w ++ rest) = some (Char.ofNat n) :: itemsFrom .between rest := by
  induction h with
  | last b hlow hhigh => simp [itemsFrom, step, hlow, hhigh]
  | more b hlow hhigh _ ih => simpa [itemsFrom, step, hlow, hhigh] using ih

theorem exists_completes {low high : UInt8} {bits : Nat}
    (h : none ∉ itemsFrom (.inside (k + 1) low high bits) bytes) :
    ∃ w rest n, bytes = w ++ rest ∧ Completes (.inside (k + 1) low high bits) w n := by
  induction bytes generalizing k low high bits with
  | nil => simp [itemsFrom, State.finish] at h
  | cons b bytes ih =>
    by_cases hb : low ≤ b ∧ b ≤ high
    · cases k with
      | zero => exact ⟨[b], bytes, _, rfl, .last b hb.1 hb.2⟩
      | succ k =>
        have hrest : none ∉ itemsFrom
            (.inside (k + 1) 0x80 0xBF (bits * 64 + (b.toNat - 0x80))) bytes := by
          simpa [itemsFrom, step, hb] using h
        obtain ⟨w, rest, n, rfl, hw⟩ := ih hrest
        exact ⟨b :: w, rest, n, rfl, .more b hb.1 hb.2 hw⟩
    · simp [itemsFrom, step, hb] at h

theorem utf8EncodeChar_ofNat (hn : n.isValidChar) : String.utf8EncodeChar (Char.ofNat n) =
    if n ≤ 0x7F then [UInt8.ofNat n]
    else if n ≤ 0x7FF then [UInt8.ofNat (n / 64 % 32 + 0xC0), UInt8.ofNat (n % 64 + 0x80)]
    else if n ≤ 0xFFFF then
      [UInt8.ofNat (n / 4096 % 16 + 0xE0), UInt8.ofNat (n / 64 % 64 + 0x80),
        UInt8.ofNat (n % 64 + 0x80)]
    else
      [UInt8.ofNat (n / 262144 % 8 + 0xF0), UInt8.ofNat (n / 4096 % 64 + 0x80),
        UInt8.ofNat (n / 64 % 64 + 0x80), UInt8.ofNat (n % 64 + 0x80)] := by
  have hval : (Char.ofNat n).val.toNat = n := by
    rw [Char.ofNat, dif_pos hn]
    rfl
  rw [String.utf8EncodeChar, hval]

/-- A lead byte and what completes the character are the encoding of the character. -/
theorem utf8EncodeChar_of_completes {l : Lead} (hl : IsLead b l)
    (h : Completes (.inside l.following l.low l.high l.bits) w n) :
    String.utf8EncodeChar (Char.ofNat n) = b :: w := by
  cases hl with
  | two bits hle hlt =>
    dsimp only at h
    cases h with
    | last c hc hc' =>
      simp only [UInt8.le_iff_toNat_le, UInt8.reduceToNat] at hc hc'
      have hvalid : (bits * 64 + (c.toNat - 0x80)).isValidChar := .inl (by omega)
      rw [utf8EncodeChar_ofNat hvalid, if_neg (by omega), if_pos (by omega)]
      simp [← UInt8.toNat_inj]
      omega
  | three bits hlt =>
    dsimp only at h
    cases h with
    | more c hc hc' h =>
      cases h with
      | last d hd hd' =>
        simp only [UInt8.le_iff_toNat_le, UInt8.reduceToNat, apply_ite UInt8.toNat] at hc hc' hd hd'
        generalize hn : (bits * 64 + (c.toNat - 0x80)) * 64 + (d.toNat - 0x80) = n
        have hrange : 0x80 ≤ c.toNat ∧ c.toNat ≤ 0xBF := by split_ifs at hc hc' <;> omega
        -- the range of the second byte leaves out the overlong forms and the surrogates
        have hlow : 0x800 ≤ n := by split_ifs at hc <;> omega
        have hvalid : n.isValidChar := by
          unfold Nat.isValidChar
          split_ifs at hc' <;> omega
        rw [utf8EncodeChar_ofNat hvalid, if_neg (by omega), if_neg (by omega), if_pos (by omega)]
        simp [← UInt8.toNat_inj]
        omega
  | four bits hlt =>
    dsimp only at h
    cases h with
    | more c hc hc' h =>
      cases h with
      | more d hd hd' h =>
        cases h with
        | last e he he' =>
          simp only [UInt8.le_iff_toNat_le, UInt8.reduceToNat, apply_ite UInt8.toNat]
            at hc hc' hd hd' he he'
          generalize hn :
            ((bits * 64 + (c.toNat - 0x80)) * 64 + (d.toNat - 0x80)) * 64 + (e.toNat - 0x80) = n
          have hrange : 0x80 ≤ c.toNat ∧ c.toNat ≤ 0xBF := by split_ifs at hc hc' <;> omega
          have hlow : 0x10000 ≤ n := by split_ifs at hc <;> omega
          have hvalid : n.isValidChar := by
            unfold Nat.isValidChar
            split_ifs at hc' <;> omega
          rw [utf8EncodeChar_ofNat hvalid, if_neg (by omega), if_neg (by omega), if_neg (by omega)]
          simp [← UInt8.toNat_inj]
          omega

theorem toNat_following {m : Nat} (hm : m < 64) : (UInt8.ofNat (m + 0x80)).toNat = m + 0x80 :=
  UInt8.toNat_ofNat_of_lt' (show m + 0x80 < 256 by omega)

theorem Completes.of_last {low high : UInt8} (bits : Nat) {m : Nat} (hm : m < 64)
    (hlow : low.toNat ≤ m + 0x80) (hhigh : m + 0x80 ≤ high.toNat) :
    Completes (.inside 1 low high bits) [UInt8.ofNat (m + 0x80)] (bits * 64 + m) := by
  rw [← toNat_following hm, ← UInt8.le_iff_toNat_le] at hlow hhigh
  have hlast : Completes (.inside 1 low high bits) _ _ := .last _ hlow hhigh
  rwa [toNat_following hm, Nat.add_sub_cancel] at hlast

theorem Completes.of_more {low high : UInt8} (bits : Nat) {m : Nat} (hm : m < 64)
    (hlow : low.toNat ≤ m + 0x80) (hhigh : m + 0x80 ≤ high.toNat)
    (h : Completes (.inside (k + 1) 0x80 0xBF (bits * 64 + m)) w n) :
    Completes (.inside (k + 2) low high bits) (UInt8.ofNat (m + 0x80) :: w) n := by
  rw [← toNat_following hm, ← UInt8.le_iff_toNat_le] at hlow hhigh
  apply Completes.more _ hlow hhigh
  rwa [toNat_following hm, Nat.add_sub_cancel]

/-- A character beyond 0x7F is encoded as a lead byte and what completes it. -/
theorem exists_lead_completes {c : Char} (hc : 0x80 ≤ c.toNat) : ∃ b w l,
    String.utf8EncodeChar c = b :: w ∧ IsLead b l ∧
      Completes (.inside l.following l.low l.high l.bits) w c.toNat := by
  have hvalid : c.toNat.isValidChar := c.valid
  have hencode := utf8EncodeChar_ofNat hvalid
  rw [Char.ofNat_toNat] at hencode
  generalize c.toNat = n at hc hvalid hencode ⊢
  unfold Nat.isValidChar at hvalid
  rw [if_neg (by omega)] at hencode
  by_cases htwo : n ≤ 0x7FF
  · rw [if_pos htwo, Nat.mod_eq_of_lt (show n / 64 < 32 by omega)] at hencode
    refine ⟨_, _, _, hencode, .two (n / 64) (by omega) (by omega), ?_⟩
    have hlast : Completes (.inside 1 0x80 0xBF (n / 64)) _ _ :=
      .of_last (n / 64) (show n % 64 < 64 by omega) (by simp) (by simp; omega)
    rwa [show n / 64 * 64 + n % 64 = n by omega] at hlast
  by_cases hthree : n ≤ 0xFFFF
  · rw [if_neg htwo, if_pos hthree, Nat.mod_eq_of_lt (show n / 4096 < 16 by omega)] at hencode
    refine ⟨_, _, _, hencode, .three (n / 4096) (by omega), ?_⟩
    have hlast : Completes (.inside 1 0x80 0xBF (n / 4096 * 64 + n / 64 % 64)) _ _ :=
      .of_last _ (show n % 64 < 64 by omega) (by simp) (by simp; omega)
    rw [show (n / 4096 * 64 + n / 64 % 64) * 64 + n % 64 = n by omega] at hlast
    refine .of_more (n / 4096) (show n / 64 % 64 < 64 by omega) ?_ ?_ hlast
    · simp only [apply_ite UInt8.toNat, UInt8.reduceToNat]
      split_ifs <;> omega
    · simp only [apply_ite UInt8.toNat, UInt8.reduceToNat]
      split_ifs <;> omega
  · rw [if_neg htwo, if_neg hthree, Nat.mod_eq_of_lt (show n / 262144 < 8 by omega)] at hencode
    refine ⟨_, _, _, hencode, .four (n / 262144) (by omega), ?_⟩
    have hlast : Completes
        (.inside 1 0x80 0xBF ((n / 262144 * 64 + n / 4096 % 64) * 64 + n / 64 % 64)) _ _ :=
      .of_last _ (show n % 64 < 64 by omega) (by simp) (by simp; omega)
    rw [show ((n / 262144 * 64 + n / 4096 % 64) * 64 + n / 64 % 64) * 64 + n % 64 = n by omega]
      at hlast
    have hmore := hlast.of_more (n / 262144 * 64 + n / 4096 % 64) (show n / 64 % 64 < 64 by omega)
      (show (0x80 : UInt8).toNat ≤ _ by simp) (show _ ≤ (0xBF : UInt8).toNat by simp; omega)
    refine .of_more (n / 262144) (show n / 4096 % 64 < 64 by omega) ?_ ?_ hmore
    · simp only [apply_ite UInt8.toNat, UInt8.reduceToNat]
      split_ifs <;> omega
    · simp only [apply_ite UInt8.toNat, UInt8.reduceToNat]
      split_ifs <;> omega

theorem utf8EncodeChar_of_lt {c : Char} (hc : c.toNat < 0x80) :
    String.utf8EncodeChar c = [UInt8.ofNat c.toNat] :=
  if_pos (show c.toNat ≤ 0x7F by omega)

@[simp]
theorem itemsFrom_utf8EncodeChar (c : Char) (rest : List UInt8) :
    itemsFrom .between (String.utf8EncodeChar c ++ rest) = some c :: itemsFrom .between rest := by
  by_cases hc : c.toNat < 0x80
  · have hbyte : (UInt8.ofNat c.toNat).toNat = c.toNat :=
      UInt8.toNat_ofNat_of_lt' (show c.toNat < 256 by omega)
    have hlt : UInt8.ofNat c.toNat < 0x80 := by rwa [UInt8.lt_iff_toNat_lt, hbyte]
    rw [utf8EncodeChar_of_lt hc, List.singleton_append, itemsFrom, step, start, if_pos hlt, hbyte,
      Char.ofNat_toNat]
    rfl
  · obtain ⟨b, w, l, hencode, hlead, hw⟩ := exists_lead_completes (Nat.le_of_not_lt hc)
    rw [hencode, List.cons_append, itemsFrom, step, start, if_neg hlead.not_lt,
      lead?_eq_some_iff.mpr hlead]
    have hitems := hw.itemsFrom_append rest
    rw [Char.ofNat_toNat] at hitems
    exact hitems

theorem exists_utf8EncodeChar (h : none ∉ itemsFrom .between (b :: bytes)) :
    ∃ c rest, b :: bytes = String.utf8EncodeChar c ++ rest := by
  by_cases hb : b < 0x80
  · have hb' : b.toNat < 0x80 := UInt8.lt_iff_toNat_lt.mp hb
    have hvalid : b.toNat.isValidChar := .inl (by omega)
    refine ⟨Char.ofNat b.toNat, bytes, ?_⟩
    rw [utf8EncodeChar_ofNat hvalid, if_pos (by omega), UInt8.ofNat_toNat]
    rfl
  · cases hl : lead? b with
    | none => simp [itemsFrom, step, start, hb, hl] at h
    | some l =>
      have hlead := isLead_of_lead? hl
      have hinside : none ∉ itemsFrom (.inside l.following l.low l.high l.bits) bytes := by
        simpa [itemsFrom, step, start, hb, hl] using h
      obtain ⟨k, hk⟩ : ∃ k, l.following = k + 1 := by
        cases hlead <;> exact ⟨_, rfl⟩
      rw [hk] at hinside
      obtain ⟨w, rest, n, rfl, hw⟩ := exists_completes hinside
      rw [← hk] at hw
      exact ⟨Char.ofNat n, rest, by rw [utf8EncodeChar_of_completes hlead hw, List.cons_append]⟩

end Character

section Text

variable {bytes : List UInt8} {s : List Char}

@[simp]
theorem encode_cons (c : Char) (s : List Char) :
    encode (c :: s) = String.utf8EncodeChar c ++ encode s := rfl

@[simp]
theorem encode_append (s t : List Char) : encode (s ++ t) = encode s ++ encode t :=
  List.flatMap_append

@[simp]
theorem encode_eq_nil_iff : encode s = [] ↔ s = [] := by
  cases s with
  | nil => simp [encode]
  | cons c s => simp [String.utf8EncodeChar_ne_nil]

@[simp]
theorem itemsFrom_encode (s : List Char) : itemsFrom .between (encode s) = s.map some := by
  induction s with
  | nil => rfl
  | cons c s ih => simp [ih]

theorem eq_encode_of_itemsFrom (h : itemsFrom .between bytes = s.map some) : bytes = encode s := by
  induction s generalizing bytes with
  | nil =>
    cases bytes with
    | nil => rfl
    | cons b bytes =>
      have hnone : none ∉ itemsFrom .between (b :: bytes) := by simp [h]
      obtain ⟨c, rest, hbytes⟩ := exists_utf8EncodeChar hnone
      rw [hbytes, itemsFrom_utf8EncodeChar] at h
      cases h
  | cons d s ih =>
    cases bytes with
    | nil => cases h
    | cons b bytes =>
      have hnone : none ∉ itemsFrom .between (b :: bytes) := by simp [h]
      obtain ⟨c, rest, hbytes⟩ := exists_utf8EncodeChar hnone
      rw [hbytes, itemsFrom_utf8EncodeChar, List.map_cons] at h
      obtain ⟨hc, hrest⟩ := List.cons.inj h
      rw [hbytes, Option.some.inj hc, ih hrest, encode_cons]

theorem mapM_id_eq_some_iff {items : List Item} : items.mapM id = some s ↔ items = s.map some := by
  induction items generalizing s with
  | nil => cases s <;> simp
  | cons item items ih =>
    cases item with
    | none => cases s <;> simp
    | some c => cases s <;> simp [Option.bind_eq_some_iff, ih, and_comm]

theorem decode?_eq_some_iff : decode? bytes = some s ↔ bytes = encode s := by
  rw [decode?, mapM_id_eq_some_iff, items_eq_itemsFrom]
  constructor
  · exact eq_encode_of_itemsFrom
  · rintro rfl
    exact itemsFrom_encode s

@[simp]
theorem decode?_encode (s : List Char) : decode? (encode s) = some s :=
  decode?_eq_some_iff.mpr rfl

theorem decode?_eq_none_iff : decode? bytes = none ↔ ∀ s, bytes ≠ encode s := by
  simp only [Option.eq_none_iff_forall_ne_some, ne_eq, decode?_eq_some_iff]

/-- A byte below 0x80 can be decoded apart from what stands before and after it. -/
theorem decode?_append_ascii {b : UInt8} (hb : b < 0x80) (xs ys : List UInt8) :
    decode? (xs ++ b :: ys) = (decode? xs).bind fun s ↦ (decode? ys).map fun t ↦
      s ++ Char.ofNat b.toNat :: t := by
  rw [decode?, items_append_ascii hb, List.mapM_append, List.mapM_cons, decode?, decode?]
  cases (items xs).mapM id <;> cases (items ys).mapM id <;> rfl

end Text

end StackDepth.Utf8
