import Mathlib.Data.List.Sort
import Rollout.Proofs.Json.Members
import Rollout.Proofs.Outcome

/-!
# Visiting members

A reader takes a step for each member of an object, in the order of the keys, and the first step that
fails ends the reading. What the steps see is a matter of the object alone: its members in order are
the only sorted list that has just the values that are looked up in it.
-/

namespace Rollout.Json

/-- The text of a value that is a string. -/
theorem string?_eq_some {j : Json} {text : String} : j.string? = some text ↔ j = string text := by
  cases j <;> simp [string?]

/-- These are the members of an object in the order of their keys, each key with the value that the
object has for it. -/
structure InOrder (j : Json) (members : List (String × Json)) : Prop where
  isObject : j.members?.isSome
  sorted : members.Pairwise fun a b => a.1 < b.1
  mem_iff : ∀ key value, (key, value) ∈ members ↔ j.get? key = some value

/-- The value is an object, and what it has for any key is of a kind. -/
def EachMember (P : Json → Prop) (j : Json) : Prop :=
  j.members?.isSome ∧ ∀ key value, j.get? key = some value → P value

/-- Take a step for each member of an object, in the order of the keys. -/
def visit {ε β : Type} (refusal : ε) (f : String → Json → Except ε β) : Json → Except ε (List β)
  | object members => (sortedMembers members).mapM fun member => f member.1 member.2
  | _ => .error refusal

variable {j : Json} {members sorted : List (String × Json)} {ε β : Type} {refusal e : ε}
  {f : String → Json → Except ε β} {bs : List β}

/-- The members in order are the sorted ones. -/
theorem inOrder_iff : (object members).InOrder sorted ↔ sorted = sortedMembers members := by
  have hpairwise := pairwise_sortedMembers members
  constructor
  · rintro ⟨-, hsorted, hmem⟩
    have hirrefl : Std.Irrefl fun a b : String × Json => a.1 < b.1 := ⟨fun a => lt_irrefl a.1⟩
    have hantisymm : Std.Antisymm fun a b : String × Json => a.1 < b.1 :=
      ⟨fun _ _ hab hba => absurd hba (lt_asymm hab)⟩
    refine hsorted.eq_of_mem_iff hpairwise fun member => ?_
    exact (hmem member.1 member.2).trans mem_sortedMembers.symm
  · rintro rfl
    exact ⟨rfl, hpairwise, fun key value => mem_sortedMembers⟩

/-- The members of an object are visited in order. -/
theorem InOrder.visit_eq (h : j.InOrder members) :
    visit refusal f j = members.mapM fun member => f member.1 member.2 := by
  cases j with
  | object listed =>
    rw [inOrder_iff.mp h]
    rfl
  | null | bool | number | string | array | unreadable => cases h.isObject

/-- A value is refused, or it is an object and has members in order. -/
theorem visit_refused_or (refusal : ε) (f : String → Json → Except ε β) (j : Json) :
    (j.members? = none ∧ visit refusal f j = .error refusal) ∨ ∃ members, j.InOrder members := by
  cases j with
  | object listed => exact Or.inr ⟨sortedMembers listed, inOrder_iff.mpr rfl⟩
  | null | bool | number | string | array | unreadable => exact Or.inl ⟨rfl, rfl⟩

/-- A visit has one value for each member. -/
theorem visit_eq_ok : visit refusal f j = .ok bs ↔ ∃ members, j.InOrder members ∧
    List.Forall₂ (fun member b => f member.1 member.2 = .ok b) members bs := by
  constructor
  · intro hvisit
    rcases visit_refused_or refusal f j with ⟨-, hrefused⟩ | ⟨members, hmembers⟩
    · rw [hrefused] at hvisit
      cases hvisit
    · rw [hmembers.visit_eq, mapM_eq_ok] at hvisit
      exact ⟨members, hmembers, hvisit⟩
  · rintro ⟨members, hmembers, hall⟩
    rw [hmembers.visit_eq, mapM_eq_ok]
    exact hall

/-- A visit fails when the value is no object, or at the first member that the step fails for. -/
theorem visit_eq_error : visit refusal f j = .error e ↔ j.members? = none ∧ e = refusal ∨
    ∃ before key value after, j.InOrder (before ++ (key, value) :: after) ∧
      (∀ member ∈ before, ∃ b, f member.1 member.2 = .ok b) ∧ f key value = .error e := by
  constructor
  · intro hvisit
    rcases visit_refused_or refusal f j with ⟨hnone, hrefused⟩ | ⟨members, hmembers⟩
    · rw [hrefused] at hvisit
      exact Or.inl ⟨hnone, (Except.error.inj hvisit).symm⟩
    · rw [hmembers.visit_eq, mapM_eq_error] at hvisit
      obtain ⟨before, ⟨key, value⟩, after, rfl, hbefore, hfails⟩ := hvisit
      exact Or.inr ⟨before, key, value, after, hmembers, hbefore, hfails⟩
  · rintro (⟨hnone, rfl⟩ | ⟨before, key, value, after, hmembers, hbefore, hfails⟩)
    · rcases visit_refused_or e f j with ⟨-, hrefused⟩ | ⟨members, hmembers⟩
      · exact hrefused
      · exact absurd hnone (Option.isSome_iff_ne_none.mp hmembers.isObject)
    · rw [hmembers.visit_eq, mapM_eq_error]
      exact ⟨before, (key, value), after, rfl, hbefore, hfails⟩

/-- A visit has values when every member is of the kind that the step has a value for. -/
theorem exists_visit_eq_ok {P : Json → Prop}
    (hstep : ∀ key value, (∃ b, f key value = .ok b) ↔ P value) :
    (∃ bs, visit refusal f j = .ok bs) ↔ j.EachMember P := by
  rcases visit_refused_or refusal f j with ⟨hnone, hrefused⟩ | ⟨members, hmembers⟩
  · simp [hrefused, EachMember, hnone]
  · rw [hmembers.visit_eq, exists_mapM_eq_ok]
    constructor
    · intro hall
      refine ⟨hmembers.isObject, fun key value hvalue => (hstep key value).mp ?_⟩
      exact hall (key, value) ((hmembers.mem_iff key value).mpr hvalue)
    · rintro ⟨-, hall⟩ ⟨key, value⟩ hmem
      exact (hstep key value).mpr (hall key value ((hmembers.mem_iff key value).mp hmem))

end Rollout.Json
