import Mathlib.Data.List.Induction
import Mathlib.Data.String.Basic
import Rollout.Json.Document

/-!
# Sorted members

The members of an object are visited in the order of their keys, and of several members with one key
only the last one. So what is visited under a key is what the object has for it.
-/

namespace Rollout.Json

variable {key k : String} {value v : Json} {members : List (String × Json)}

/-- What an object has for a key is one of its members. -/
theorem mem_of_get?_eq_some (hvalue : (object members).get? k = some v) : (k, v) ∈ members := by
  obtain ⟨⟨name, value⟩, hfound, rfl⟩ := Option.map_eq_some_iff.mp hvalue
  have hname : name = k := by simpa using List.find?_some hfound
  rw [← hname]
  exact List.mem_reverse.mp (List.mem_of_find?_eq_some hfound)

/-- A sorted list holds the member that was put into it and the members of other keys. -/
theorem mem_insertMember (hsorted : members.Pairwise fun a b => a.1 < b.1) :
    (k, v) ∈ insertMember key value members ↔
      k = key ∧ v = value ∨ k ≠ key ∧ (k, v) ∈ members := by
  induction members with
  | nil => simp [insertMember]
  | cons member members ih =>
    obtain ⟨hfirst, hsorted⟩ := List.pairwise_cons.mp hsorted
    unfold insertMember
    split
    · rename_i hlt
      have hne (hmem : (k, v) ∈ member :: members) : k ≠ key := by
        rintro rfl
        rcases List.mem_cons.mp hmem with rfl | hmem
        · exact lt_irrefl _ hlt
        · exact lt_irrefl _ (hlt.trans (hfirst _ hmem))
      rw [List.mem_cons, Prod.mk.injEq]
      exact ⟨Or.imp_right fun hmem => ⟨hne hmem, hmem⟩, Or.imp_right And.right⟩
    · split
      · rename_i hkey
        have hne (hmem : (k, v) ∈ members) : k ≠ key := by
          rintro rfl
          exact lt_irrefl _ (hkey ▸ hfirst _ hmem)
        rw [List.mem_cons, List.mem_cons, Prod.mk.injEq]
        constructor
        · exact Or.imp_right fun hmem => ⟨hne hmem, Or.inr hmem⟩
        · rintro (hnew | ⟨hother, rfl | hmem⟩)
          · exact Or.inl hnew
          · exact absurd hkey.symm hother
          · exact Or.inr hmem
      · rename_i hkey
        rw [List.mem_cons, ih hsorted, List.mem_cons]
        constructor
        · rintro (rfl | hnew | ⟨hother, hmem⟩)
          · exact Or.inr ⟨fun h => hkey h.symm, Or.inl rfl⟩
          · exact Or.inl hnew
          · exact Or.inr ⟨hother, Or.inr hmem⟩
        · rintro (hnew | ⟨hother, rfl | hmem⟩)
          · exact Or.inr (Or.inl hnew)
          · exact Or.inl rfl
          · exact Or.inr (Or.inr ⟨hother, hmem⟩)

/-- A sorted list stays sorted when a member is put into it. -/
theorem pairwise_insertMember (hsorted : members.Pairwise fun a b => a.1 < b.1) :
    (insertMember key value members).Pairwise fun a b => a.1 < b.1 := by
  induction members with
  | nil => simp [insertMember]
  | cons member members ih =>
    obtain ⟨hfirst, hrest⟩ := List.pairwise_cons.mp hsorted
    unfold insertMember
    split
    · rename_i hlt
      refine List.pairwise_cons.mpr ⟨fun other hother => ?_, hsorted⟩
      rcases List.mem_cons.mp hother with rfl | hother
      · exact hlt
      · exact hlt.trans (hfirst other hother)
    · split
      · rename_i hkey
        refine List.pairwise_cons.mpr ⟨fun other hother => ?_, hrest⟩
        exact hkey ▸ hfirst other hother
      · rename_i hlt hkey
        refine List.pairwise_cons.mpr ⟨fun other hother => ?_, ih hrest⟩
        rcases (mem_insertMember hrest).mp hother with ⟨hname, -⟩ | ⟨-, hother⟩
        · rw [hname]
          exact lt_of_le_of_ne (not_lt.mp hlt) (Ne.symm hkey)
        · exact hfirst other hother

/-- The members are sorted by their keys, and no key comes twice. -/
theorem pairwise_sortedMembers (members : List (String × Json)) :
    (sortedMembers members).Pairwise fun a b => a.1 < b.1 := by
  induction members using List.reverseRecOn with
  | nil => exact List.Pairwise.nil
  | append_singleton members member ih =>
    rw [sortedMembers, List.foldl_append]
    exact pairwise_insertMember ih

/-- What is visited under a key is the value that the object has for it. -/
theorem mem_sortedMembers : (k, v) ∈ sortedMembers members ↔ (object members).get? k = some v := by
  induction members using List.reverseRecOn with
  | nil => simp [sortedMembers, get?, members?]
  | append_singleton members member ih =>
    have hlast : sortedMembers (members ++ [member]) =
        insertMember member.1 member.2 (sortedMembers members) := by
      rw [sortedMembers, List.foldl_append]
      rfl
    rw [hlast, mem_insertMember (pairwise_sortedMembers members), ih]
    by_cases hkey : k = member.1
    · simp [get?, members?, hkey, eq_comm]
    · simp [get?, members?, hkey, Ne.symm hkey]

end Rollout.Json
