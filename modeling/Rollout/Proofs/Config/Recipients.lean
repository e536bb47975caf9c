import Mathlib.Data.List.TakeWhile
import Rollout.Proofs.Config.Settings
import Rollout.Proofs.Sequence

/-!
# Lists of recipients

Every recipient of the list is paid, so the list has to be read as it is written: however its
addresses are spelled and set apart, each of them is found at its place, and a list that holds
anything else is refused for the first such piece.
-/

namespace Rollout

/-! ## Blanks around a text -/

/-- The piece is a text with blanks around it. -/
def Pads (piece text : List Char) : Prop :=
  ∃ left right, piece = left ++ text ++ right ∧ (∀ c ∈ left, isBlank c = true) ∧
    ∀ c ∈ right, isBlank c = true

/-- The text is what a piece holds between the blanks at its ends. -/
structure IsTrimmed (piece text : List Char) : Prop where
  pads : Pads piece text
  /-- The text does not begin with a blank. -/
  front : ∀ c, text.head? = some c → isBlank c = false
  /-- The text does not end with a blank. -/
  back : ∀ c, text.getLast? = some c → isBlank c = false

/-- Leading blanks are dropped up to the first other character. -/
theorem trimLeft_append {blanks rest : List Char} (hblanks : ∀ c ∈ blanks, isBlank c = true)
    (hrest : ∀ c, rest.head? = some c → isBlank c = false) : trimLeft (blanks ++ rest) = rest := by
  rw [trimLeft, List.dropWhile_append_of_pos hblanks]
  cases rest with
  | nil => rfl
  | cons c rest => exact List.dropWhile_cons_of_neg (by simp [hrest c rfl])

/-- Trailing blanks are dropped down to the last other character. -/
theorem trimRight_append {rest blanks : List Char} (hblanks : ∀ c ∈ blanks, isBlank c = true)
    (hrest : ∀ c, rest.getLast? = some c → isBlank c = false) :
    trimRight (rest ++ blanks) = rest := by
  have hreverse : trimLeft (blanks.reverse ++ rest.reverse) = rest.reverse := by
    refine trimLeft_append (fun c hc => hblanks c (List.mem_reverse.mp hc)) ?_
    simpa only [List.head?_reverse] using hrest
  rw [trimRight, List.reverse_append, ← trimLeft, hreverse, List.reverse_reverse]

/-- In front of what is left stood blanks, and it does not begin with one. -/
theorem exists_append_trimLeft (text : List Char) :
    (∃ blanks, text = blanks ++ trimLeft text ∧ ∀ c ∈ blanks, isBlank c = true) ∧
      ∀ c, (trimLeft text).head? = some c → isBlank c = false := by
  refine ⟨⟨text.takeWhile isBlank, List.takeWhile_append_dropWhile.symm,
    fun c hc => List.mem_takeWhile_imp hc⟩, fun c hc => ?_⟩
  have hhead := List.head?_dropWhile_not isBlank text
  rw [← trimLeft, hc] at hhead
  exact hhead

/-- Behind what is left stood blanks, and it does not end with one. -/
theorem exists_trimRight_append (text : List Char) :
    (∃ blanks, text = trimRight text ++ blanks ∧ ∀ c ∈ blanks, isBlank c = true) ∧
      ∀ c, (trimRight text).getLast? = some c → isBlank c = false := by
  obtain ⟨⟨blanks, htext, hblanks⟩, hfront⟩ := exists_append_trimLeft text.reverse
  refine ⟨⟨blanks.reverse, ?_, fun c hc => hblanks c (List.mem_reverse.mp hc)⟩, fun c hc => ?_⟩
  · rw [trimRight, ← trimLeft, ← List.reverse_append, ← htext, List.reverse_reverse]
  · rw [trimRight, ← trimLeft, List.getLast?_reverse] at hc
    exact hfront c hc

/-- Trimming leaves what stands between the blanks. -/
theorem isTrimmed_trim (piece : List Char) : IsTrimmed piece (trim piece) := by
  obtain ⟨⟨left, hpiece, hleft⟩, hfront⟩ := exists_append_trimLeft piece
  obtain ⟨⟨right, hrest, hright⟩, hback⟩ := exists_trimRight_append (trimLeft piece)
  rw [← trim] at hrest hback
  refine ⟨⟨left, right, ?_, hleft, hright⟩, fun c hc => ?_, hback⟩
  · rw [List.append_assoc, ← hrest, ← hpiece]
  · refine hfront c ?_
    rw [hrest, List.head?_append, hc]
    rfl

/-- What stands between the blanks is left by trimming. -/
theorem trim_eq_iff {piece text : List Char} : trim piece = text ↔ IsTrimmed piece text := by
  constructor
  · rintro rfl
    exact isTrimmed_trim piece
  · rintro ⟨⟨left, right, rfl, hleft, hright⟩, hfront, hback⟩
    by_cases hnil : text = []
    · have hblank : ∀ c ∈ left ++ right, isBlank c = true := by
        intro c hc
        exact (List.mem_append.mp hc).elim (hleft c) (hright c)
      have hdropped : trimLeft (left ++ right) = [] := List.dropWhile_eq_nil_iff.mpr hblank
      rw [hnil, List.append_nil, trim, hdropped]
      rfl
    · have hhead : ∀ c, (text ++ right).head? = some c → isBlank c = false := by
        rw [List.head?_append_of_ne_nil text hnil]
        exact hfront
      rw [trim, List.append_assoc, trimLeft_append hleft hhead, trimRight_append hright hback]

/-- Only blanks are trimmed away altogether. -/
theorem trim_eq_nil_iff {piece : List Char} : trim piece = [] ↔ ∀ c ∈ piece, isBlank c = true := by
  rw [trim_eq_iff]
  constructor
  · rintro ⟨⟨left, right, rfl, hleft, hright⟩, -, -⟩
    simpa [or_imp, forall_and] using ⟨hleft, hright⟩
  · intro hblank
    exact ⟨⟨piece, [], by simp, hblank, by simp⟩, by simp, by simp⟩

/-! ## Texts of addresses -/

/-- The text of a byte string holds no blank and no comma. -/
theorem FixedBytes.IsText.plain {n : ℕ} {x : FixedBytes n} {text : List Char} (h : x.IsText text)
    {c : Char} (hc : c ∈ text) : isBlank c = false ∧ c ≠ ',' := by
  obtain ⟨mark, digits, hmark, rfl, hdigits⟩ := h
  rcases List.mem_append.mp hc with hc | hc
  · have hchars : c = '0' ∨ c = 'x' ∨ c = 'X' := by
      simp only [List.mem_cons, List.not_mem_nil, or_false] at hmark
      rcases hmark with rfl | rfl | rfl <;>
        simp only [List.mem_cons, List.not_mem_nil, or_false] at hc <;> tauto
    rcases hchars with rfl | rfl | rfl <;> decide
  · have hmem : Hex.digit? c ∈ x.hex.map Hex.digit? := hdigits ▸ List.mem_map_of_mem hc
    obtain ⟨c', hc', hsame⟩ := List.mem_map.mp hmem
    have hdigit : Hex.isDigit c = true := by
      rw [Hex.isDigit, ← hsame, Option.isSome_iff_ne_none]
      exact Hex.digit?_ne_none_of_mem_encode hc'
    have hrange := Hex.range_of_isDigit hdigit
    refine ⟨?_, ?_⟩
    · simp only [isBlank, Bool.or_eq_false_iff, Bool.and_eq_false_iff, decide_eq_false_iff_not,
        beq_eq_false_iff_ne]
      omega
    · rintro rfl
      revert hrange
      decide

/-- The text of an address is not empty. -/
theorem Address.ne_nil_of_isText {a : Address} {text : List Char} (h : a.IsText text) :
    text ≠ [] := by
  rintro rfl
  obtain ⟨mark, digits, -, htext, hdigits⟩ := h
  obtain ⟨-, rfl⟩ := List.append_eq_nil_iff.mp htext.symm
  have hlength := congrArg List.length hdigits
  simp at hlength

/-- An address with blanks around it is trimmed to its text. -/
theorem trim_of_isText {piece text : List Char} {a : Address} (hpads : Pads piece text)
    (htext : a.IsText text) : trim piece = text := by
  refine trim_eq_iff.mpr ⟨hpads, fun c hc => ?_, fun c hc => ?_⟩
  · exact (htext.plain (List.mem_of_mem_head? hc)).1
  · exact (htext.plain (List.mem_of_getLast? hc)).1

namespace Config

/-! ## Pieces and what they list -/

/-- The pieces of a list and the addresses that they list: a piece is blank, or it holds one of the
texts of an address and blanks around it. -/
inductive Lists : List (List Char) → List Address → Prop
  | nil : Lists [] []
  | blank {piece : List Char} {pieces : List (List Char)} {addresses : List Address}
      (hblank : ∀ c ∈ piece, isBlank c = true) (hrest : Lists pieces addresses) :
      Lists (piece :: pieces) addresses
  | address {piece text : List Char} {a : Address} {pieces : List (List Char)}
      {addresses : List Address} (hpads : Pads piece text) (htext : a.IsText text)
      (hrest : Lists pieces addresses) : Lists (piece :: pieces) (a :: addresses)

/-- The text is what a piece holds, and it is no address. -/
structure IsStray (piece text : List Char) : Prop where
  trimmed : IsTrimmed piece text
  ne_nil : text ≠ []
  not_address : ∀ a : Address, ¬ a.IsText text

/-- The text is that of the first stray piece between the commas of a list. -/
def FirstStray (list : String) (text : List Char) : Prop :=
  ∃ before piece after, list.toList.splitOn ',' = before ++ piece :: after ∧
    (∀ piece ∈ before, ∀ text, ¬ IsStray piece text) ∧ IsStray piece text

variable {list : String} {pieces : List (List Char)} {addresses : List Address} {text : List Char}

/-- The texts of addresses are left of the pieces that list them. -/
theorem Lists.forall₂ (h : Lists pieces addresses) :
    List.Forall₂ (fun text a => a.IsText text) ((pieces.map trim).filter (· ≠ [])) addresses := by
  induction h with
  | nil => exact .nil
  | blank hblank _ ih =>
    rw [List.map_cons, trim_eq_nil_iff.mpr hblank]
    exact ih
  | address hpads htext _ ih =>
    rw [List.map_cons, trim_of_isText hpads htext,
      List.filter_cons_of_pos (by simpa using Address.ne_nil_of_isText htext)]
    exact .cons htext ih

/-- Pieces list the addresses whose texts are left of them. -/
theorem lists_of_forall₂ (h : List.Forall₂ (fun text a => a.IsText text)
    ((pieces.map trim).filter (· ≠ [])) addresses) : Lists pieces addresses := by
  induction pieces generalizing addresses with
  | nil =>
    cases h
    exact .nil
  | cons piece pieces ih =>
    rw [List.map_cons] at h
    by_cases hnil : trim piece = []
    · rw [hnil] at h
      exact .blank (trim_eq_nil_iff.mp hnil) (ih h)
    · rw [List.filter_cons_of_pos (by simpa using hnil)] at h
      cases h with
      | cons htext hrest => exact .address (isTrimmed_trim piece).pads htext (ih hrest)

/-- A list is read as the addresses that its pieces list. -/
theorem parseRecipients_eq_ok_iff_lists :
    parseRecipients list = .ok addresses ↔ Lists (list.toList.splitOn ',') addresses := by
  rw [parseRecipients_eq_ok]
  exact ⟨lists_of_forall₂, Lists.forall₂⟩

/-- No piece that lists an address or nothing holds a comma. -/
theorem Lists.not_mem (h : Lists pieces addresses) {piece : List Char} (hpiece : piece ∈ pieces) :
    ',' ∉ piece := by
  have hcomma : isBlank ',' = false := by decide
  have hblanks {blanks : List Char} (hblanks : ∀ c ∈ blanks, isBlank c = true) :
      ',' ∉ blanks := by
    intro hmem
    rw [hblanks ',' hmem] at hcomma
    cases hcomma
  induction h with
  | nil => cases hpiece
  | blank hblank _ ih =>
    rcases List.mem_cons.mp hpiece with rfl | hpiece
    · exact hblanks hblank
    · exact ih hpiece
  | address hpads htext _ ih =>
    rcases List.mem_cons.mp hpiece with rfl | hpiece
    · obtain ⟨left, right, rfl, hleft, hright⟩ := hpads
      simp only [List.mem_append, not_or]
      exact ⟨⟨hblanks hleft, fun hmem => (htext.plain hmem).2 rfl⟩, hblanks hright⟩
    · exact ih hpiece

/-- Joined by commas, pieces are read as the addresses that they list. -/
theorem Lists.parseRecipients (h : Lists pieces addresses) :
    parseRecipients (String.ofList ([','].intercalate pieces)) = .ok addresses := by
  rw [parseRecipients_eq_ok_iff_lists, String.toList_ofList]
  by_cases hnil : pieces = []
  · rw [hnil] at h ⊢
    exact .blank (by simp) h
  · rw [List.splitOn_intercalate ',' (fun piece hpiece => h.not_mem hpiece) hnil]
    exact h

/-! ## Strays -/

/-- A text is refused when it is no address. -/
theorem parseRecipient_of_not_isText (h : ∀ a : Address, ¬ a.IsText text) :
    parseRecipient text = .error (.invalidRecipient (String.ofList text)) := by
  cases hparse : parseRecipient text with
  | ok a => exact absurd (parseRecipient_eq_ok.mp hparse) (h a)
  | error e =>
    unfold parseRecipient at hparse
    split at hparse
    · cases hparse
    · exact hparse.symm

/-- What is left of pieces that are not stray are addresses. -/
theorem exists_isText_of_not_isStray (h : ∀ piece ∈ pieces, ∀ text, ¬ IsStray piece text) :
    ∀ text ∈ (pieces.map trim).filter (· ≠ []), ∃ a : Address, a.IsText text := by
  intro text htext
  obtain ⟨hmem, hne⟩ := List.mem_filter.mp htext
  obtain ⟨piece, hpiece, rfl⟩ := List.mem_map.mp hmem
  by_contra hnone
  exact h piece hpiece _ ⟨isTrimmed_trim piece, by simpa using hne, not_exists.mp hnone⟩

/-- A list with a stray piece is refused for the first one. -/
theorem FirstStray.parseRecipients (h : FirstStray list text) :
    parseRecipients list = .error (.invalidRecipient (String.ofList text)) := by
  obtain ⟨before, piece, after, hsplit, hbefore, hstray⟩ := h
  rw [Config.parseRecipients, hsplit, List.map_append, List.map_cons, trim_eq_iff.mpr hstray.trimmed,
    List.filter_append, List.filter_cons_of_pos (by simpa using hstray.ne_nil), mapM_eq_error]
  refine ⟨_, text, _, rfl, fun text' htext' => ?_, parseRecipient_of_not_isText hstray.not_address⟩
  simpa only [parseRecipient_eq_ok] using exists_isText_of_not_isStray hbefore text' htext'

/-- A list with a stray piece has a first one. -/
theorem exists_firstStray (h : ∃ piece ∈ list.toList.splitOn ',', ∃ text, IsStray piece text) :
    ∃ text, FirstStray list text := by
  obtain ⟨before, piece, after, hsplit, ⟨text, htext⟩, hbefore⟩ := exists_first_of_exists h
  exact ⟨text, before, piece, after, hsplit, fun piece hpiece => not_exists.mp (hbefore piece hpiece),
    htext⟩

/-- A list is refused when one of its pieces is stray. -/
theorem exists_parseRecipients_error_iff : (∃ e, parseRecipients list = .error e) ↔
    ∃ piece ∈ list.toList.splitOn ',', ∃ text, IsStray piece text := by
  constructor
  · rintro ⟨e, he⟩
    by_contra hnone
    push Not at hnone
    have hall := exists_isText_of_not_isStray hnone
    rw [← exists_forall₂_iff] at hall
    obtain ⟨addresses, haddresses⟩ := hall
    rw [parseRecipients_eq_ok.mpr haddresses] at he
    cases he
  · intro hstray
    obtain ⟨text, hfirst⟩ := exists_firstStray hstray
    exact ⟨_, hfirst.parseRecipients⟩

/-- Joined by commas, pieces are read as the addresses that they list, in order and with repetitions,
whatever blanks and blank pieces stand between them. A text is refused exactly when a piece between
its commas holds something that is no address, and the error quotes the first such text. -/
theorem parseRecipients_outcome :
    (∀ pieces addresses, Lists pieces addresses →
      parseRecipients (String.ofList ([','].intercalate pieces)) = .ok addresses) ∧
    (∀ list addresses, parseRecipients list = .ok addresses →
      Lists (list.toList.splitOn ',') addresses) ∧
    (∀ list, (∃ e, parseRecipients list = .error e) ↔
      ∃ piece ∈ list.toList.splitOn ',', ∃ text, IsStray piece text) ∧
    ∀ list e, parseRecipients list = .error e → ∃ text, FirstStray list text ∧
      e = .invalidRecipient (String.ofList text) ∧
      e.message = "Invalid address in DEMO_RECIPIENTS '" ++ String.ofList text ++ "': " ++ detail := by
  refine ⟨fun pieces addresses h => h.parseRecipients,
    fun list addresses h => parseRecipients_eq_ok_iff_lists.mp h,
    fun list => exists_parseRecipients_error_iff, fun list e he => ?_⟩
  obtain ⟨text, hfirst⟩ := exists_firstStray (exists_parseRecipients_error_iff.mp ⟨e, he⟩)
  rw [hfirst.parseRecipients] at he
  cases he
  exact ⟨text, hfirst, rfl, rfl⟩

end Config

end Rollout
