import Rollout.Proofs.Bytecode.Offsets
import Rollout.Proofs.Sequence

/-!
# Linking position by position

Linking a library first writes its address at the listed offsets in turn, where a later address may
cover a part of an earlier one, and stops at the first offset that is out of range. Then it replaces
the placeholders of the library. A placeholder has an underscore at either end and is as long as an
address, so none of them reaches into what has been written before: every position of the linked
text is told by the listed offsets, by the places of the replaced placeholders, and by the text
before.
-/

namespace Rollout

/-- The address that is written at a place covers the position. -/
def Covers (place i : ℕ) : Prop :=
  place ≤ i ∧ i < place + placeholderLength

/-- An address at one of the places does not reach into an address at the other. -/
def Apart (place other : ℕ) : Prop :=
  place + placeholderLength ≤ other ∨ other + placeholderLength ≤ place

/-- The other text is the text with `new` written at each of the places in turn: a position holds
what was written over it last, and a position that nothing was written over keeps its character. -/
structure Overwritten (new : List Char) (places : List ℕ) (text text' : List Char) : Prop where
  length_eq : text'.length = text.length
  /-- The position is covered at a place and at none of the later ones. -/
  written : ∀ before place after i, places = before ++ place :: after → Covers place i →
    (∀ later ∈ after, ¬ Covers later i) → text'[i]? = new[i - place]?
  /-- The position is not covered. -/
  kept : ∀ i, (∀ place ∈ places, ¬ Covers place i) → text'[i]? = text[i]?

variable {new pattern text text' text'' : List Char} {patterns : List (List Char)}
  {places more : List ℕ} {place start i count : ℕ} {offsets before after : List UInt64}
  {bad : UInt64}

namespace Overwritten

/-- Nothing is written at no place. -/
theorem nil (new text : List Char) : Overwritten new [] text text where
  length_eq := rfl
  written before place after i hplaces := by simp at hplaces
  kept _ _ := rfl

/-- Splicing writes at one place. -/
theorem splice (hnew : new.length = placeholderLength)
    (hplace : place + placeholderLength ≤ text.length) :
    Overwritten new [place] text (splice new text place) := by
  rw [← hnew] at hplace
  refine ⟨length_splice hplace, ?_, ?_⟩
  · intro before p after i hplaces hcovers _
    obtain rfl : p = place := by
      have hmem : p ∈ [place] := hplaces ▸ List.mem_append_right before List.mem_cons_self
      simpa using hmem
    obtain ⟨hfrom, hto⟩ := hcovers
    have hin : i - p < new.length := by omega
    have hheld := List.prefix_iff_getElem?.mp (prefix_drop_splice hplace) (i - p) hin
    rw [List.getElem?_drop, show p + (i - p) = i by omega] at hheld
    rw [hheld, List.getElem?_eq_getElem hin]
  · intro i hcovers
    have hside : ¬ Covers place i := hcovers place List.mem_cons_self
    refine getElem?_splice hplace ?_
    simp only [Covers, not_and, Nat.not_lt] at hside
    omega

/-- What is written later is written over what was written before. -/
theorem append (hfirst : Overwritten new places text text')
    (hsecond : Overwritten new more text' text'') :
    Overwritten new (places ++ more) text text'' := by
  refine ⟨hsecond.length_eq.trans hfirst.length_eq, ?_, ?_⟩
  · intro before place after i hplaces hcovers hlater
    rcases List.append_eq_append_iff.mp hplaces with ⟨front, rfl, hmore⟩ | ⟨back, hfront, hmore⟩
    · exact hsecond.written front place after i hmore hcovers hlater
    · cases back with
      | nil =>
        exact hsecond.written [] place after i (by simpa using hmore.symm) hcovers hlater
      | cons place' back =>
        obtain ⟨rfl, rfl⟩ := List.cons.inj hmore
        have hlater := List.forall_mem_append.mp hlater
        rw [hsecond.kept i hlater.2]
        exact hfirst.written before place back i hfront hcovers hlater.1
  · intro i hcovers
    rw [List.forall_mem_append] at hcovers
    rw [hsecond.kept i hcovers.2, hfirst.kept i hcovers.1]

/-- What stands in front of a text moves the places. -/
theorem append_left (hover : Overwritten new places text text') (front : List Char) :
    Overwritten new (places.map (front.length + ·)) (front ++ text) (front ++ text') := by
  refine ⟨by simp [hover.length_eq], ?_, ?_⟩
  · intro before place after i hplaces hcovers hlater
    obtain ⟨before, rest, rfl, rfl, hrest⟩ := List.map_eq_append_iff.mp hplaces
    obtain ⟨place, after, rfl, rfl, rfl⟩ := List.map_eq_cons_iff.mp hrest
    simp only [Covers, List.forall_mem_map] at hcovers hlater
    have hheld := hover.written before place after (i - front.length) rfl
      (by simp only [Covers]; omega) fun later hmem hcovered => by
        have hnot := hlater later hmem
        simp only [Covers] at hcovered
        omega
    rw [List.getElem?_append_right (by omega), hheld]
    congr 1
    omega
  · intro i hcovers
    rcases Nat.lt_or_ge i front.length with hlt | hge
    · rw [List.getElem?_append_left hlt, List.getElem?_append_left hlt]
    · rw [List.getElem?_append_right hge, List.getElem?_append_right hge]
      refine hover.kept _ fun place hmem hcovered => ?_
      have hnot := hcovers _ (List.mem_map_of_mem hmem)
      simp only [Covers] at hcovered hnot
      omega

/-- A covered position holds a character of what was written. -/
theorem exists_mem_of_covers (hover : Overwritten new places text text')
    (hnew : new.length = placeholderLength) (hplace : place ∈ places) (hcovers : Covers place i) :
    ∃ c ∈ new, text'[i]? = some c := by
  obtain ⟨before, last, after, hplaces, hlast, hlater⟩ :=
    exists_last_of_exists (P := (Covers · i)) ⟨place, hplace, hcovers⟩
  have hheld := hover.written before last after i hplaces hlast hlater
  have hin : i - last < new.length := by
    obtain ⟨hfrom, hto⟩ := hlast
    omega
  rw [List.getElem?_eq_getElem hin] at hheld
  exact ⟨_, List.getElem_mem hin, hheld⟩

end Overwritten

/-- A text of single bytes cannot be cut behind its end. -/
theorem splitAtByte?_eq_none (htext : IsSingleByte text) (hi : text.length < i) :
    splitAtByte? i text = none := by
  induction text generalizing i with
  | nil =>
    obtain ⟨i, rfl⟩ := Nat.exists_eq_succ_of_ne_zero (Nat.ne_zero_of_lt hi)
    rfl
  | cons c text ih =>
    obtain ⟨hc, htext⟩ := List.forall_mem_cons.mp htext
    obtain ⟨i, rfl⟩ := Nat.exists_eq_succ_of_ne_zero (Nat.ne_zero_of_lt hi)
    have hrest : splitAtByte? i text = none := ih htext (by simpa using hi)
    simp [splitAtByte?, hc, hrest]

/-- Nothing is written over a part that reaches behind the end of a text. -/
theorem overwrite?_eq_none (htext : IsSingleByte text)
    (hi : text.length < i + placeholderLength) : overwrite? text i new = none := by
  rcases Nat.lt_or_ge text.length i with hlt | hge
  · rw [overwrite?, splitAtByte?_eq_none htext hlt, Option.bind_none]
  · have hrest : splitAtByte? placeholderLength (text.drop i) = none := by
      refine splitAtByte?_eq_none (fun c hc => htext c (List.mem_of_mem_drop hc)) ?_
      rw [List.length_drop]
      omega
    simp only [overwrite?, splitAtByte?_eq_some htext hge, Option.bind_some, hrest,
      Option.map_none]

/-- A framed pattern has an underscore at its first and at its last position. -/
theorem IsFramed.getElem?_of_prefix (hframed : IsFramed pattern)
    (hbegins : pattern <+: text.drop start) :
    text[start]? = some '_' ∧ text[start + 39]? = some '_' := by
  have hlength : pattern.length = 40 := hframed.length_eq
  have hheld := List.prefix_iff_getElem?.mp hbegins
  have hfirst : pattern[0]? = some '_' := by
    rw [← List.head?_eq_getElem?]
    exact hframed.head?_eq
  have hlast : pattern[39]? = some '_' := by
    have hend := hframed.getLast?_eq
    rwa [List.getLast?_eq_getElem?, hlength] at hend
  constructor
  · have h := hheld 0 (by omega)
    rw [List.getElem?_drop, ← List.getElem?_eq_getElem (by omega)] at h
    rw [← hfirst, ← h, Nat.add_zero]
  · have h := hheld 39 (by omega)
    rw [List.getElem?_drop, ← List.getElem?_eq_getElem (by omega)] at h
    rw [← hlast, ← h]

section

variable (hnew : IsDigits new) (hlength : new.length = placeholderLength)

include hnew hlength

namespace Overwritten

/-- A framed pattern in the new text does not reach into what was written. -/
theorem apart_of_prefix (hover : Overwritten new places text text') (hframed : IsFramed pattern)
    (hbegins : pattern <+: text'.drop start) : ∀ place ∈ places, Apart place start := by
  intro place hplace
  have hdigit : ∀ i, Covers place i → text'[i]? ≠ some '_' := by
    intro i hcovers hunderscore
    obtain ⟨c, hc, hheld⟩ := hover.exists_mem_of_covers hlength hplace hcovers
    rw [hheld, Option.some.injEq] at hunderscore
    exact hnew.ne_underscore hc hunderscore
  obtain ⟨hfirst, hlast⟩ := hframed.getElem?_of_prefix hbegins
  by_contra hnot
  simp only [Apart, placeholderLength, not_or, Nat.not_le] at hnot
  rcases Nat.lt_or_ge start place with hlt | hge
  · exact hdigit (start + 39) (by simp only [Covers, placeholderLength]; omega) hlast
  · exact hdigit start (by simp only [Covers, placeholderLength]; omega) hfirst

/-- A framed pattern in the new text stood there before. -/
theorem prefix_of_prefix (hover : Overwritten new places text text') (hframed : IsFramed pattern)
    (hbegins : pattern <+: text'.drop start) : pattern <+: text.drop start := by
  have hapart := hover.apart_of_prefix hnew hlength hframed hbegins
  rw [List.prefix_iff_getElem?] at hbegins ⊢
  intro i hi
  rw [List.getElem?_drop, ← hover.kept (start + i), ← List.getElem?_drop]
  · exact hbegins i hi
  · intro place hplace hcovers
    have hside := hapart place hplace
    have hi : i < placeholderLength := hframed.length_eq ▸ hi
    simp only [Apart, Covers] at hside hcovers
    omega

end Overwritten

omit hnew in
/-- Writing addresses at offsets in range writes them at the positions of the offsets. -/
theorem overwritten_foldl_splice
    (hrange : ∀ offset ∈ offsets, 2 * offset.toNat + placeholderLength ≤ text.length) :
    Overwritten new (offsets.map (2 * ·.toNat)) text
      (offsets.foldl (fun text offset => splice new text (2 * offset.toNat)) text) := by
  induction offsets generalizing text with
  | nil => exact Overwritten.nil new text
  | cons offset offsets ih =>
    obtain ⟨hfirst, hrange⟩ := List.forall_mem_cons.mp hrange
    have hspliced := Overwritten.splice hlength hfirst
    exact hspliced.append (ih (by rwa [hspliced.length_eq]))

/-- The first offset that is out of range ends the writing. -/
theorem writeOffsets_eq_false (after : List UInt64) (htext : IsSingleByte text)
    (hrange : ∀ offset ∈ before, 2 * offset.toNat + placeholderLength ≤ text.length)
    (hbad : text.length < 2 * bad.toNat + placeholderLength) :
    Template.writeOffsets new (before ++ bad :: after) text =
      (before.foldl (fun text offset => splice new text (2 * offset.toNat)) text, false) := by
  induction before generalizing text with
  | nil =>
    have hover : overwrite? text (2 * bad.toNat) new = none := overwrite?_eq_none htext hbad
    simp only [List.nil_append, Template.writeOffsets, hover, List.foldl_nil]
  | cons offset before ih =>
    obtain ⟨hfirst, hrange⟩ := List.forall_mem_cons.mp hrange
    have hover := overwrite?_eq_some htext hlength hfirst
    have hspliced := Overwritten.splice hlength hfirst
    have hrest := ih (htext.splice hnew.isSingleByte (2 * offset.toNat))
      (by rwa [hspliced.length_eq]) (by rwa [hspliced.length_eq])
    simp only [List.cons_append, Template.writeOffsets, hover, hrest, List.foldl_cons]

end

/-- All occurrences of a pattern are replaced at places that lie apart, and each other occurrence
begins inside a replaced one. -/
theorem Replaces.exists_places (hreplaces : Replaces pattern new text text' count)
    (hpattern : pattern.length = placeholderLength) (hlength : new.length = placeholderLength) :
    ∃ places : List ℕ, count = places.length ∧ Overwritten new places text text' ∧
      (∀ place ∈ places, pattern <+: text.drop place) ∧
      places.Pairwise Apart ∧
      ∀ start, pattern <+: text.drop start → ∃ place ∈ places, Covers place start := by
  induction hreplaces with
  | nil =>
    refine ⟨[], rfl, Overwritten.nil _ _, by simp, List.Pairwise.nil, fun start hbegins => ?_⟩
    have hempty : pattern = [] := by simpa using hbegins
    simp [hempty, placeholderLength] at hpattern
  | @kept c text text' count hc _ ih =>
    obtain ⟨places, hcount, hover, hoccurs, hapart, hevery⟩ := ih
    refine ⟨places.map (1 + ·), by simp [hcount], hover.append_left [c], ?_, ?_, ?_⟩
    · rw [List.forall_mem_map]
      intro place hplace
      rw [Nat.add_comm]
      exact hoccurs place hplace
    · rw [List.pairwise_map]
      exact hapart.imp fun hside => by simp only [Apart] at hside ⊢; omega
    · intro start hbegins
      cases start with
      | zero => exact absurd hbegins hc
      | succ start =>
        obtain ⟨place, hplace, hcovers⟩ := hevery start hbegins
        refine ⟨1 + place, List.mem_map_of_mem hplace, ?_⟩
        simp only [Covers] at hcovers ⊢
        omega
  | @replaced text text' count _ ih =>
    obtain ⟨places, hcount, hover, hoccurs, hapart, hevery⟩ := ih
    have hspliced : splice new (pattern ++ text) 0 = new ++ text := by
      rw [splice, List.take_zero, List.nil_append, Nat.zero_add,
        List.drop_left' (hpattern.trans hlength.symm)]
    have hfirst : Overwritten new [0] (pattern ++ text) (new ++ text) := by
      rw [← hspliced]
      refine Overwritten.splice hlength ?_
      rw [List.length_append]
      omega
    have hdrop : ∀ start, (pattern ++ text).drop (new.length + start) = text.drop start := by
      intro start
      rw [← List.drop_drop, List.drop_left' (hpattern.trans hlength.symm)]
    refine ⟨0 :: places.map (new.length + ·), by simp [hcount],
      hfirst.append (hover.append_left new), ?_, ?_, ?_⟩
    · rw [List.forall_mem_cons, List.forall_mem_map]
      refine ⟨List.prefix_append pattern text, fun place hplace => ?_⟩
      rw [hdrop]
      exact hoccurs place hplace
    · rw [List.pairwise_cons, List.forall_mem_map, List.pairwise_map]
      refine ⟨fun place _ => Or.inl (by omega), hapart.imp fun hside => ?_⟩
      simp only [Apart] at hside ⊢
      omega
    · intro start hbegins
      rcases Nat.lt_or_ge start new.length with hlt | hge
      · exact ⟨0, List.mem_cons_self, by simp only [Covers]; omega⟩
      · obtain ⟨start, rfl⟩ := Nat.exists_eq_add_of_le hge
        rw [hdrop] at hbegins
        obtain ⟨place, hplace, hcovers⟩ := hevery start hbegins
        refine ⟨new.length + place, List.mem_cons_of_mem _ (List.mem_map_of_mem hplace), ?_⟩
        simp only [Covers] at hcovers ⊢
        omega

/-- Occurrences of the patterns are replaced at these places, which lie apart, and no pattern occurs
any more. -/
structure Replaced (new : List Char) (patterns : List (List Char)) (places : List ℕ)
    (text text' : List Char) : Prop where
  overwritten : Overwritten new places text text'
  occurs : ∀ place ∈ places, ∃ pattern ∈ patterns, pattern <+: text.drop place
  pairwise_apart : places.Pairwise Apart
  none_left : ∀ pattern ∈ patterns, ∀ start, ¬ pattern <+: text'.drop start

section

variable (hnew : IsDigits new) (hlength : new.length = placeholderLength)

include hnew hlength

/-- Replacing one pattern leaves no occurrence of it. -/
theorem exists_replaced_replaceAll (hframed : IsFramed pattern) (text : List Char) :
    ∃ places : List ℕ, (replaceAll pattern new text).2 = places.length ∧
      Replaced new [pattern] places text (replaceAll pattern new text).1 := by
  obtain ⟨places, hcount, hover, hoccurs, hapart, hevery⟩ :=
    (replaces_replaceAll hframed.ne_nil new text).exists_places hframed.length_eq hlength
  refine ⟨places, hcount, hover, fun place hplace => ?_, hapart, ?_⟩
  · exact ⟨pattern, List.mem_cons_self, hoccurs place hplace⟩
  · rw [List.forall_mem_singleton]
    intro start hbegins
    obtain ⟨place, hplace, hcovers⟩ :=
      hevery start (hover.prefix_of_prefix hnew hlength hframed hbegins)
    have hside := hover.apart_of_prefix hnew hlength hframed hbegins place hplace
    simp only [Covers] at hcovers
    simp only [Apart, placeholderLength] at hside hcovers
    omega

/-- Replacing the pattern and then the others is replacing all of them. -/
theorem Replaced.append (hframed : ∀ q ∈ pattern :: patterns, IsFramed q)
    (hfirst : Replaced new [pattern] places text text')
    (hsecond : Replaced new patterns more text' text'') :
    Replaced new (pattern :: patterns) (places ++ more) text text'' := by
  obtain ⟨hpattern, hpatterns⟩ := List.forall_mem_cons.mp hframed
  refine ⟨hfirst.overwritten.append hsecond.overwritten, ?_, ?_, ?_⟩
  · rw [List.forall_mem_append]
    constructor
    · intro place hplace
      obtain ⟨q, hq, hbegins⟩ := hfirst.occurs place hplace
      exact ⟨q, List.mem_cons.mpr (Or.inl (List.mem_singleton.mp hq)), hbegins⟩
    · intro place hplace
      obtain ⟨q, hq, hbegins⟩ := hsecond.occurs place hplace
      exact ⟨q, List.mem_cons_of_mem _ hq,
        hfirst.overwritten.prefix_of_prefix hnew hlength (hpatterns q hq) hbegins⟩
  · rw [List.pairwise_append]
    refine ⟨hfirst.pairwise_apart, hsecond.pairwise_apart, fun place hplace other hother => ?_⟩
    obtain ⟨q, hq, hbegins⟩ := hsecond.occurs other hother
    exact hfirst.overwritten.apart_of_prefix hnew hlength (hpatterns q hq) hbegins place hplace
  · rw [List.forall_mem_cons]
    refine ⟨fun start hbegins => ?_, hsecond.none_left⟩
    exact hfirst.none_left pattern List.mem_cons_self start
      (hsecond.overwritten.prefix_of_prefix hnew hlength hpattern hbegins)

/-- Replacing patterns one after the other leaves no occurrence of any of them. -/
theorem exists_replaced_replacePatterns (hframed : ∀ q ∈ patterns, IsFramed q)
    (text : List Char) :
    ∃ places : List ℕ, (Template.replacePatterns new patterns text).2 = places.length ∧
      Replaced new patterns places text (Template.replacePatterns new patterns text).1 := by
  induction patterns generalizing text with
  | nil => exact ⟨[], rfl, Overwritten.nil new text, by simp, List.Pairwise.nil, by simp⟩
  | cons pattern patterns ih =>
    obtain ⟨hpattern, hpatterns⟩ := List.forall_mem_cons.mp hframed
    obtain ⟨places, hcount, hfirst⟩ := exists_replaced_replaceAll hnew hlength hpattern text
    obtain ⟨more, hcounts, hsecond⟩ := ih hpatterns (replaceAll pattern new text).1
    refine ⟨places ++ more, ?_, hfirst.append hnew hlength hframed hsecond⟩
    rw [List.length_append, ← hcount, ← hcounts, Template.replacePatterns]

end

namespace Template

variable {t : Template} {library unit : String} {source : Option String} {address : Address}

/-- Linking stops at the first offset that is out of range. -/
theorem link_out_of_range (htext : IsSingleByte t.text)
    (hoffsets : t.offsetsOf library = before ++ bad :: after)
    (hrange : ∀ offset ∈ before, 2 * offset.toNat + placeholderLength ≤ t.text.length)
    (hbad : t.text.length < 2 * bad.toNat + placeholderLength) (unit : String)
    (source : Option String) (address : Address) :
    ∃ text, t.link unit library source address =
        (.error (.offsetOutOfRange unit library), { t with text }) ∧
      Overwritten address.hex (before.map (2 * ·.toNat)) t.text text := by
  have hlength : address.hex.length = placeholderLength := FixedBytes.length_hex address
  have hwritten := writeOffsets_eq_false (isDigits_hex address) hlength after htext
    hrange hbad
  refine ⟨_, ?_, overwritten_foldl_splice hlength hrange⟩
  simp only [link, hoffsets, hwritten]

/-- Linking at offsets in range writes at all of them and then replaces the placeholders. -/
theorem link_in_range (htext : IsSingleByte t.text) (hrange : t.InRange library) (unit : String)
    (source : Option String) (address : Address) :
    ∃ written text, ∃ places : List ℕ, t.link unit library source address =
        (.ok ((t.offsetsOf library).length + places.length), { t with text }) ∧
      Overwritten address.hex ((t.offsetsOf library).map (2 * ·.toNat)) t.text written ∧
      Replaced address.hex (placeholders library source) places written text := by
  have hdigits : IsDigits address.hex := isDigits_hex address
  have hlength : address.hex.length = placeholderLength := FixedBytes.length_hex address
  have hwritten := writeOffsets_eq hdigits hlength htext hrange
  have hframed : ∀ pattern ∈ placeholders library source, IsFramed pattern :=
    isFramed_of_mem_placeholders
  obtain ⟨places, hcount, hreplaced⟩ := exists_replaced_replacePatterns hdigits hlength hframed _
  refine ⟨_, _, places, ?_, overwritten_foldl_splice hlength hrange, hreplaced⟩
  simp only [link, hwritten, hcount]

/-- The first offset out of range, if there is one. -/
theorem exists_first_out_of_range {length : ℕ}
    (hbad : ∃ offset ∈ offsets, length < 2 * offset.toNat + placeholderLength) :
    ∃ before bad after, offsets = before ++ bad :: after ∧
      (∀ offset ∈ before, 2 * offset.toNat + placeholderLength ≤ length) ∧
      length < 2 * bad.toNat + placeholderLength := by
  obtain ⟨offset, hmem, hlt⟩ := hbad
  have hfound : (offsets.find? fun o => length < 2 * o.toNat + placeholderLength).isSome := by
    rw [List.find?_isSome]
    exact ⟨offset, hmem, decide_eq_true hlt⟩
  obtain ⟨bad, hbad⟩ := Option.isSome_iff_exists.mp hfound
  obtain ⟨hout, before, after, hsplit, hbefore⟩ := List.find?_eq_some_iff_append.mp hbad
  refine ⟨before, bad, after, hsplit, fun o ho => ?_, of_decide_eq_true hout⟩
  have hnot := hbefore o ho
  simpa using hnot

/-- Linking a library in a text of single bytes fails exactly when one of its offsets is out of
range. Then the address has been written at the offsets before the first such one, and nothing else
has changed. Otherwise the address is written at all offsets in turn and at the places of
placeholders of the library: these stood in the text before, lie apart from each other and from
everything that is written at the offsets, and none is left. The places of both kinds are
counted. -/
theorem link_outcome (htext : IsSingleByte t.text) (unit library : String)
    (source : Option String) (address : Address) :
    let offsets := t.offsetsOf library
    let r := t.link unit library source address
    r.2.references = t.references ∧
    (r.1 = .error (.offsetOutOfRange unit library) ↔
      ∃ offset ∈ offsets, t.text.length < 2 * offset.toNat + 40) ∧
    (∀ before bad after, offsets = before ++ bad :: after →
      (∀ offset ∈ before, 2 * offset.toNat + 40 ≤ t.text.length) →
      t.text.length < 2 * bad.toNat + 40 →
      Overwritten address.hex (before.map (2 * ·.toNat)) t.text r.2.text) ∧
    ((∀ offset ∈ offsets, 2 * offset.toNat + 40 ≤ t.text.length) →
      ∃ places : List ℕ, r.1 = .ok (offsets.length + places.length) ∧
        Overwritten address.hex (offsets.map (2 * ·.toNat) ++ places) t.text r.2.text ∧
        (∀ place ∈ places, (∃ pattern ∈ placeholders library source,
            pattern <+: t.text.drop place) ∧
          ∀ offset ∈ offsets, Apart (2 * offset.toNat) place) ∧
        places.Pairwise Apart ∧
        ∀ pattern ∈ placeholders library source, ∀ start, ¬ pattern <+: r.2.text.drop start) := by
  have hdigits : IsDigits address.hex := isDigits_hex address
  have hlength : address.hex.length = placeholderLength := FixedBytes.length_hex address
  refine ⟨?_, ⟨fun herror => ?_, fun hbad => ?_⟩, fun before bad after hoffsets hrange hbad => ?_,
    fun hrange => ?_⟩
  · simp only [link]
    split <;> rfl
  · by_contra hnone
    have hrange : t.InRange library := fun offset hoffset =>
      Nat.le_of_not_lt fun hlt => hnone ⟨offset, hoffset, hlt⟩
    obtain ⟨written, text, places, hlink, -, -⟩ := link_in_range htext hrange unit source address
    rw [hlink] at herror
    cases herror
  · obtain ⟨before, bad, after, hoffsets, hrange, hbad⟩ := exists_first_out_of_range hbad
    obtain ⟨text, hlink, -⟩ := link_out_of_range htext hoffsets hrange hbad unit source address
    rw [hlink]
  · obtain ⟨text, hlink, hover⟩ := link_out_of_range htext hoffsets hrange hbad unit source address
    rw [hlink]
    exact hover
  · obtain ⟨written, text, places, hlink, hover, hreplaced⟩ :=
      link_in_range htext hrange unit source address
    rw [hlink]
    refine ⟨places, rfl, hover.append hreplaced.overwritten, fun place hplace => ?_,
      hreplaced.pairwise_apart, hreplaced.none_left⟩
    obtain ⟨pattern, hpattern, hbegins⟩ := hreplaced.occurs place hplace
    have hframed := isFramed_of_mem_placeholders pattern hpattern
    have hapart := hover.apart_of_prefix hdigits hlength hframed hbegins
    exact ⟨⟨pattern, hpattern, hover.prefix_of_prefix hdigits hlength hframed hbegins⟩,
      fun offset hoffset => hapart _ (List.mem_map_of_mem hoffset)⟩

/-- Code with places for two addresses that overlap, and a placeholder behind them. A second
reference of the library is listed and not used. -/
def overlapping : Template where
  text := List.replicate 60 '0' ++ legacyPlaceholder "Lib".toList
  references := [⟨"Lib", [0, 5]⟩, ⟨"Lib", [1000]⟩]

/-- The same code with an offset whose double has more than 64 bits between two in range. -/
def overflowing : Template where
  text := overlapping.text
  references := [⟨"Lib", [5, 9223372036854775808, 0]⟩]

/-- Three places are written where all offsets are in range; otherwise only the first one is. -/
theorem link_outcome_of_overflowing :
    (∃ place, (overlapping.link "App" "Lib" none (.repeating 7)).1 = .ok 3 ∧
      Overwritten (Address.repeating 7).hex [0, 10, place] overlapping.text
        (overlapping.link "App" "Lib" none (.repeating 7)).2.text) ∧
    (overflowing.link "App" "Lib" none (.repeating 7)).1 =
      .error (.offsetOutOfRange "App" "Lib") ∧
    Overwritten (Address.repeating 7).hex [10] overlapping.text
      (overflowing.link "App" "Lib" none (.repeating 7)).2.text := by
  have hbytes : IsSingleByte overlapping.text := by
    have hall : overlapping.text.all (fun c => c.utf8Size = 1) = true := by decide
    exact fun c hc => of_decide_eq_true (List.all_eq_true.mp hall c hc)
  have hrange : overlapping.InRange "Lib" := by
    have hoffsets : overlapping.offsetsOf "Lib" = [0, 5] := rfl
    rw [Template.InRange, hoffsets, List.forall_mem_cons, List.forall_mem_singleton]
    exact ⟨by decide, by decide⟩
  have hin := link_outcome (t := overlapping) hbytes "App" "Lib" none (.repeating 7)
  have hout := link_outcome (t := overflowing) hbytes "App" "Lib" none (.repeating 7)
  have hcount : (overlapping.link "App" "Lib" none (.repeating 7)).1 = .ok 3 := by decide
  obtain ⟨places, hplaces, hover, -⟩ := hin.2.2.2 hrange
  rw [hcount, Except.ok.injEq] at hplaces
  obtain ⟨place, rfl⟩ : ∃ place, places = [place] := by
    refine List.length_eq_one_iff.mp ?_
    have hoffsets : (overlapping.offsetsOf "Lib").length = 2 := rfl
    omega
  refine ⟨⟨place, hcount, hover⟩, ?_, ?_⟩
  · exact hout.2.1.mpr ⟨9223372036854775808, by decide, by decide⟩
  · exact hout.2.2.1 [5] 9223372036854775808 [0] rfl
      (List.forall_mem_singleton.mpr (by decide)) (by decide)

end Template

end Rollout
