import Mathlib.Data.List.Nodup

/-!
# Conditions along a sequence

Orders and executions are judged item by item, each together with the items before it. A condition
of this kind is extended at the end of a sequence, taken off at its front and carried along a map.
-/

namespace Rollout

variable {α β : Type}

/-- The items at all positions of a list are the list. -/
theorem filterMap_getElem?_range (l : List α) : (List.range l.length).filterMap (l[·]?) = l := by
  induction l with
  | nil => rfl
  | cons a l ih =>
    rw [List.length_cons, List.range_succ_eq_map, List.filterMap_cons, List.filterMap_map]
    simpa [Function.comp_def] using ih

/-- Among items with different keys, each one is found by its key. -/
theorem find?_of_nodup_map [DecidableEq β] {key : α → β} {l : List α} (hnodup : (l.map key).Nodup)
    {a : α} (ha : a ∈ l) : l.find? (key · == key a) = some a := by
  have hfound : (l.find? (key · == key a)).isSome := by
    rw [List.find?_isSome]
    exact ⟨a, ha, beq_self_eq_true (key a)⟩
  obtain ⟨b, hb⟩ := Option.isSome_iff_exists.mp hfound
  have hkey : key b = key a := by simpa using List.find?_some hb
  rw [hb, List.inj_on_of_nodup_map hnodup (List.mem_of_find?_eq_some hb) ha hkey]

/-- Among the items with a property there is a last one. -/
theorem exists_last_of_exists {P : α → Prop} {l : List α} (hexists : ∃ a ∈ l, P a) :
    ∃ before a after, l = before ++ a :: after ∧ P a ∧ ∀ later ∈ after, ¬ P later := by
  induction l with
  | nil => simp at hexists
  | cons a l ih =>
    by_cases hlater : ∃ later ∈ l, P later
    · obtain ⟨before, last, after, rfl, hlast, hafter⟩ := ih hlater
      exact ⟨a :: before, last, after, rfl, hlast, hafter⟩
    · have hnone : ∀ later ∈ l, ¬ P later := fun later hmem hP => hlater ⟨later, hmem, hP⟩
      obtain ⟨found, hfound, hP⟩ := hexists
      rcases List.mem_cons.mp hfound with rfl | hfound
      · exact ⟨[], found, l, rfl, hP, hnone⟩
      · exact absurd hP (hnone found hfound)

/-- Among the items with a property there is a first one. -/
theorem exists_first_of_exists {P : α → Prop} {l : List α} (hexists : ∃ a ∈ l, P a) :
    ∃ before a after, l = before ++ a :: after ∧ P a ∧ ∀ earlier ∈ before, ¬ P earlier := by
  induction l with
  | nil => simp at hexists
  | cons a l ih =>
    by_cases ha : P a
    · exact ⟨[], a, l, rfl, ha, by simp⟩
    · have hrest : ∃ later ∈ l, P later := by
        simpa only [List.exists_mem_cons_iff, ha, false_or] using hexists
      obtain ⟨before, first, after, rfl, hfirst, hbefore⟩ := ih hrest
      exact ⟨a :: before, first, after, rfl, hfirst, List.forall_mem_cons.mpr ⟨ha, hbefore⟩⟩

/-- Every item of the list satisfies the condition together with the items before it. -/
def EachAfter (P : List α → α → Prop) (l : List α) : Prop :=
  ∀ before a after, l = before ++ a :: after → P before a

/-- There is nothing to satisfy along the empty list. -/
theorem eachAfter_nil (P : List α → α → Prop) : EachAfter P [] := by
  intro before a after h
  simp at h

/-- Along a longer list, the new last item comes after all of the old ones. -/
theorem eachAfter_concat {P : List α → α → Prop} {l : List α} {x : α} :
    EachAfter P (l ++ [x]) ↔ EachAfter P l ∧ P l x := by
  constructor
  · intro h
    refine ⟨fun before a after hl => h before a (after ++ [x]) (by simp [hl]), h l x [] rfl⟩
  · rintro ⟨hl, hx⟩ before a after heq
    rcases List.eq_nil_or_concat after with rfl | ⟨after', y, rfl⟩
    · obtain ⟨rfl, hxa⟩ := List.append_inj' heq rfl
      obtain rfl : x = a := by simpa using hxa
      exact hx
    · have hsplit : l ++ [x] = (before ++ a :: after') ++ [y] := by simpa using heq
      exact hl before a after' (List.append_inj' hsplit rfl).1

/-- The first item comes after nothing, and the later ones come after it. -/
theorem eachAfter_cons {P : List α → α → Prop} {l : List α} {x : α} :
    EachAfter P (x :: l) ↔ P [] x ∧ EachAfter (fun before a => P (x :: before) a) l := by
  constructor
  · intro h
    exact ⟨h [] x l rfl, fun before a after hl => h (x :: before) a after (by simp [hl])⟩
  · rintro ⟨hx, hl⟩ before a after heq
    cases before with
    | nil =>
      obtain ⟨rfl, -⟩ := List.cons.inj heq
      exact hx
    | cons y before =>
      obtain ⟨rfl, htail⟩ := List.cons.inj heq
      exact hl before a after htail

/-- A condition along a mapped list is one along the list. -/
theorem eachAfter_map {P : List β → β → Prop} {f : α → β} {l : List α} :
    EachAfter P (l.map f) ↔ EachAfter (fun before a => P (before.map f) (f a)) l := by
  constructor
  · rintro h before a after rfl
    exact h (before.map f) (f a) (after.map f) (by simp)
  · intro h before b after heq
    obtain ⟨before, rest, rfl, rfl, hrest⟩ := List.map_eq_append_iff.mp heq
    obtain ⟨a, after, rfl, rfl, -⟩ := List.map_eq_cons_iff.mp hrest
    exact h before a after rfl

/-- Conditions that agree at every item of the list agree along it. -/
theorem eachAfter_congr {P Q : List α → α → Prop} {l : List α}
    (h : ∀ before a after, l = before ++ a :: after → (P before a ↔ Q before a)) :
    EachAfter P l ↔ EachAfter Q l := by
  constructor
  · intro hl before a after heq
    exact (h before a after heq).mp (hl before a after heq)
  · intro hl before a after heq
    exact (h before a after heq).mpr (hl before a after heq)

end Rollout
