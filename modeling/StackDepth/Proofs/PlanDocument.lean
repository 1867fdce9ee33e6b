import StackDepth.Plan
import StackDepth.Proofs.JsonMembers

namespace StackDepth

open Json

namespace Plan

variable {ms ms' : List (String × Content)} {text : String}

def pickHints? (ms : List (String × Content)) : Option (List Chain) :=
  hintsField.pick? (Content.list? (Content.list? Content.text?)) ms

def pickQueries? (ms : List (String × Content)) : Option (List String) :=
  queriesField.pick? (Content.list? Content.text?) ms

theorem toOption_decode (h : Spells (.element (.object ms)) text.toList) :
    (codec.decode text).toOption =
      (pickHints? ms).bind fun hints ↦ (pickQueries? ms).map fun queries ↦ ⟨hints, queries⟩ := by
  have hviews : Views.Read fields
      (Content.list? (Content.list? Content.text?), Content.list? Content.text?, ()) :=
    ⟨Codec.readsAs_list (Codec.readsAs_list Codec.readsAs_text),
      Codec.readsAs_list Codec.readsAs_text, trivial⟩
  refine (Codec.toOption_decode_record hviews (by decide) h).trans ?_
  change ((pickHints? ms).bind fun hints ↦ ((pickQueries? ms).bind fun queries ↦
    some (queries, ())).map fun rest ↦ (hints, rest)).map _ = _
  cases pickHints? ms <;> cases pickQueries? ms <;> rfl

theorem pickHints?_eq_some_iff {hints : List Chain} : pickHints? ms = some hints ↔
    valuesOf "call_hints" ms = [.list (hints.map fun chain ↦ .list (chain.map .text))] ∨
      valuesOf "call_hints" ms = [] ∧ hints = [] := by
  have hview : ∀ {v hints}, Content.list? (Content.list? Content.text?) v = some hints ↔
      v = .list (hints.map fun chain : Chain ↦ .list (chain.map .text)) :=
    Content.list?_eq_some_iff (Content.list?_eq_some_iff Content.text?_eq_some_iff)
  refine (Field.pick?_eq_some_iff hview).trans (or_congr_right (and_congr_right fun _ ↦ ?_))
  exact Option.some_inj.trans eq_comm

theorem pickQueries?_eq_some_iff {queries : List String} : pickQueries? ms = some queries ↔
    valuesOf "queries" ms = [.list (queries.map .text)] := by
  have hview : ∀ {v queries}, Content.list? Content.text? v = some queries ↔
      v = .list (queries.map .text) :=
    Content.list?_eq_some_iff Content.text?_eq_some_iff
  refine (Field.pick?_eq_some_iff hview).trans (or_iff_left ?_)
  exact fun h ↦ nomatch h.2

def isKnown (m : String × Content) : Bool :=
  m.1 == "queries" || m.1 == "call_hints"

theorem perm_valuesOf {key : String} (hkey : key ∈ ["queries", "call_hints"])
    (h : (ms.filter isKnown).Perm (ms'.filter isKnown)) :
    (valuesOf key ms).Perm (valuesOf key ms') := by
  have hknown : ∀ ms, valuesOf key (ms.filter isKnown) = valuesOf key ms := by
    intro ms
    rw [valuesOf, List.filter_filter, valuesOf]
    congr 1
    apply List.filter_congr
    intro m _
    simp only [List.mem_cons, List.not_mem_nil, or_false] at hkey
    by_cases hm : m.1 = key
    · simp [hm, isKnown, hkey]
    · simp [hm]
  rw [← hknown ms, ← hknown ms']
  exact (h.filter _).map _

/-- A text of an object is read as a plan exactly by the values under the two keys, and texts that
agree in their members with these keys, in whatever order, are read alike. -/
theorem decode_by_members (ms : List (String × Content)) (text : String)
    (h : Spells (.element (.object ms)) text.toList) :
    (∀ plan, codec.decode text = .ok plan ↔
      valuesOf "queries" ms = [.list (plan.queries.map .text)] ∧
      (valuesOf "call_hints" ms =
          [.list (plan.hints.map fun chain ↦ .list (chain.map .text))] ∨
        valuesOf "call_hints" ms = [] ∧ plan.hints = [])) ∧
    ∀ ms' text', Spells (.element (.object ms')) text'.toList →
      (ms.filter isKnown).Perm (ms'.filter isKnown) →
      (codec.decode text).toOption = (codec.decode text').toOption := by
  constructor
  · intro ⟨hints, queries⟩
    have hpick : codec.decode text = .ok ⟨hints, queries⟩ ↔
        pickHints? ms = some hints ∧ pickQueries? ms = some queries := by
      rw [← Reader.toOption_eq_some_iff, toOption_decode h]
      cases pickHints? ms <;> cases pickQueries? ms <;> simp
    rw [hpick, pickHints?_eq_some_iff, pickQueries?_eq_some_iff, and_comm]
  · intro ms' text' h' hperm
    have hhints : pickHints? ms = pickHints? ms' :=
      Field.pick?_congr (perm_valuesOf (by decide) hperm)
    have hqueries : pickQueries? ms = pickQueries? ms' :=
      Field.pick?_congr (perm_valuesOf (by decide) hperm)
    rw [toOption_decode h, toOption_decode h', hhints, hqueries]

/-- Queries under a key with an escape in it, behind a member of another key. -/
def notedText : String :=
  "\n\x7b \"note\" : [-1.5e3, \x7b\"queries\":null\x7d]," ++
    "\"\\u0071ueries\":[\"\\ud83D\\ude00\" ]\x7d"

def notedMembers : List (String × Content) :=
  [("note", .list [.number "-1.5e3".toList, .object [("queries", .literal "null")]]),
    ("queries", .list [.text "😀"])]

def plainText : String := "\x7b\"queries\":[\"😀\"]\x7d"

def plainMembers : List (String × Content) := [("queries", .list [.text "😀"])]

theorem blank_space : Blank [' '] := by decide

theorem spells_noted : Spells (.member ("note", .list [.number "-1.5e3".toList,
    .object [("queries", .literal "null")]]))
    " \"note\" : [-1.5e3, \x7b\"queries\":null\x7d]".toList := by
  have hnumber : Spells (.element (.number "-1.5e3".toList)) "-1.5e3".toList :=
    .element blank_nil blank_nil (.number ⟨['-'], ['1'], ['.', '5'], ['e', '3'], by decide,
      by decide, by decide, .inr ⟨['5'], by decide, rfl⟩,
      .inr ⟨'e', [], ['3'], by decide, by decide, by decide, rfl⟩, rfl⟩)
  have hnull : Spells (.element (.literal "null")) "null".toList :=
    .element blank_nil blank_nil (.literal (by decide))
  have hobject : Spells (.element (.object [("queries", .literal "null")]))
      " \x7b\"queries\":null\x7d".toList :=
    .element blank_space blank_nil (.object (.oneMember
      (.member blank_nil blank_nil (Quoted.spellsText_flatMap "queries") hnull)))
  have hlist : Spells (.element (.list [.number "-1.5e3".toList,
      .object [("queries", .literal "null")]])) " [-1.5e3, \x7b\"queries\":null\x7d]".toList :=
    .element blank_space blank_nil (.list (.moreElements hnumber (.oneElement hobject)))
  exact .member blank_space blank_space (Quoted.spellsText_flatMap "note") hlist

theorem spells_notedText : Spells (.element (.object notedMembers)) notedText.toList := by
  have hline : Blank ['\n'] := by decide
  have hq : IsUnit "0071".toList 'q'.toNat := by decide
  have hhigh : IsUnit "d83D".toList (0xD800 + 0x3D) := by decide
  have hlow : IsUnit "de00".toList (0xDC00 + 0x200) := by decide
  have hkey : SpellsText "queries" "\\u0071ueries".toList := by
    refine ⟨"\\u0071".toList :: "ueries".toList.map Quoted.escapeChar, ?_, rfl⟩
    exact .cons (.unit hq) (Quoted.forall₂_map_escapeChar _)
  have hface : SpellsText "😀" "\\ud83D\\ude00".toList := by
    refine ⟨["\\ud83D\\ude00".toList], .cons ?_ .nil, rfl⟩
    exact .pair (by decide) (by decide) hhigh hlow (by decide)
  have hlist : Spells (.element (.list [.text "😀"])) "[\"\\ud83D\\ude00\" ]".toList :=
    .element blank_nil blank_nil (.list (.oneElement
      (.element blank_nil blank_space (.text hface))))
  exact .element hline blank_nil (.object (.moreMembers spells_noted
    (.oneMember (.member blank_nil blank_nil hkey hlist))))

theorem spells_plainText : Spells (.element (.object plainMembers)) plainText.toList := by
  have hlist : Spells (.element (.list [.text "😀"])) "[\"😀\"]".toList :=
    .element blank_nil blank_nil (.list (.oneElement
      (.element blank_nil blank_nil (.text (Quoted.spellsText_flatMap "😀")))))
  exact .element blank_nil blank_nil (.object (.oneMember
    (.member blank_nil blank_nil (Quoted.spellsText_flatMap "queries") hlist)))

theorem notedText_decode :
    Spells (.element (.object notedMembers)) notedText.toList ∧
    codec.decode notedText = .ok ⟨[], ["😀"]⟩ ∧
    (codec.decode notedText).toOption = (codec.decode plainText).toOption := by
  obtain ⟨hdecode, hother⟩ := decode_by_members notedMembers notedText spells_notedText
  refine ⟨spells_notedText, ?_, ?_⟩
  · exact (hdecode ⟨[], ["😀"]⟩).mpr ⟨by rfl, .inr ⟨by rfl, by rfl⟩⟩
  · exact hother plainMembers plainText spells_plainText (.of_eq (by rfl))

end Plan

end StackDepth
