import Rollout.Proofs.Bytecode.Linking

/-!
# Names that share a placeholder

A placeholder of the older form keeps the first 36 characters of a library's name and fills the rest
with underscores, so what follows these characters is lost, and so is every underscore at their end.
Nothing else is: the tag can be read off the placeholder. Two libraries can be taken for each other
exactly when their names have the same tag, and a name can be taken for a hash only if it is written
like one.
-/

namespace Rollout

variable {library other qualified : List Char}

/-- The tag of a placeholder: what stands behind the first two underscores, without the underscores
at its end. -/
def tagIn (placeholder : List Char) : List Char :=
  (placeholder.drop 2).rdropWhile (· == '_')

/-- A dollar sign, 34 lowercase hexadecimal digits and a dollar sign. -/
def IsHashTag (tag : List Char) : Prop :=
  ∃ digits, tag = '$' :: digits ++ ['$'] ∧ digits.length = 34 ∧
    ∀ c ∈ digits, '0' ≤ c ∧ c ≤ '9' ∨ 'a' ≤ c ∧ c ≤ 'f'

/-- Underscores that fill a text are dropped with those at its end. -/
theorem rdropWhile_append_replicate (text : List Char) (count : ℕ) :
    (text ++ List.replicate count '_').rdropWhile (· == '_') = text.rdropWhile (· == '_') := by
  induction count with
  | zero => rw [List.replicate_zero, List.append_nil]
  | succ count ih =>
    rw [List.replicate_succ', ← List.append_assoc, List.rdropWhile_concat_pos _ _ _ rfl, ih]

/-- The tag of a name is found in its placeholder. -/
theorem tagIn_legacyPlaceholder (library : List Char) :
    tagIn (legacyPlaceholder library) = legacyTag library :=
  rdropWhile_append_replicate _ _

/-- The tag of a hash ends with a dollar sign, so nothing is dropped from it. -/
theorem rdropWhile_hashedTag (qualified : List Char) :
    (hashedTag qualified).rdropWhile (· == '_') = hashedTag qualified :=
  List.rdropWhile_concat_neg _ _ _ (by decide)

/-- The tag of a hash is found in its placeholder. -/
theorem tagIn_hashedPlaceholder (qualified : List Char) :
    tagIn (hashedPlaceholder qualified) = hashedTag qualified := by
  rw [hashedPlaceholder_eq_slot]
  exact (rdropWhile_append_replicate _ _).trans (rdropWhile_hashedTag qualified)

/-- Names share a placeholder exactly when they have the same tag. -/
theorem legacyPlaceholder_eq_iff :
    legacyPlaceholder library = legacyPlaceholder other ↔ legacyTag library = legacyTag other := by
  constructor
  · intro hsame
    rw [← tagIn_legacyPlaceholder, hsame, tagIn_legacyPlaceholder]
  · intro htags
    rw [legacyPlaceholder_eq_slot, htags, ← legacyPlaceholder_eq_slot]

/-- The tag of a hash has 36 characters. -/
theorem length_hashedTag (qualified : List Char) : (hashedTag qualified).length = 36 := by
  simp [hashedTag]

/-- A name has the tag of a hash only if that is what its first 36 characters are: a tag of this
length leaves no underscore to be dropped. -/
theorem legacyTag_eq_hashedTag_iff :
    legacyTag library = hashedTag qualified ↔ library.take 36 = hashedTag qualified := by
  constructor
  · intro htag
    have hbegins : hashedTag qualified <+: library.take 36 := htag ▸ List.rdropWhile_prefix _ _
    have hlength : (library.take 36).length ≤ (hashedTag qualified).length := by
      rw [length_hashedTag]
      exact List.length_take_le 36 library
    exact (hbegins.eq_of_length_le hlength).symm
  · intro htake
    calc legacyTag library = (library.take 36).rdropWhile (· == '_') := rfl
      _ = (hashedTag qualified).rdropWhile (· == '_') := by rw [htake]
      _ = hashedTag qualified := rdropWhile_hashedTag qualified

/-- A name shares a placeholder with a hash exactly when its first 36 characters are the tag of the
hash. -/
theorem legacyPlaceholder_eq_hashedPlaceholder_iff :
    legacyPlaceholder library = hashedPlaceholder qualified ↔
      library.take 36 = hashedTag qualified := by
  rw [← legacyTag_eq_hashedTag_iff]
  constructor
  · intro hsame
    rw [← tagIn_legacyPlaceholder, hsame, tagIn_hashedPlaceholder]
  · intro htags
    rw [legacyPlaceholder_eq_slot, htags, ← hashedPlaceholder_eq_slot]

/-- The tag of a hash is written with lowercase digits. -/
theorem isHashTag_hashedTag (qualified : List Char) : IsHashTag (hashedTag qualified) := by
  have hall : ∀ n : Fin 16, '0' ≤ Nat.digitChar n ∧ Nat.digitChar n ≤ '9' ∨
      'a' ≤ Nat.digitChar n ∧ Nat.digitChar n ≤ 'f' := by decide
  refine ⟨_, rfl, by simp, fun c hc => ?_⟩
  obtain ⟨n, hn, rfl⟩ := Hex.exists_digitChar_of_mem_encode (List.mem_of_mem_take hc)
  exact hall ⟨n, hn⟩

/-- The placeholder of a name stands between two underscores on either side. -/
theorem underscores_around_legacyPlaceholder (library : List Char) :
    ['_', '_'] <+: legacyPlaceholder library ∧ ['_', '_'] <:+ legacyPlaceholder library := by
  have hlength := List.length_take_le 36 library
  obtain ⟨count, hcount⟩ : ∃ count, 38 - (library.take 36).length = count + 2 :=
    ⟨36 - (library.take 36).length, by omega⟩
  have hshape : legacyPlaceholder library =
      ['_', '_'] ++ library.take 36 ++ List.replicate count '_' ++ ['_', '_'] := by
    have hfilling : legacyPlaceholder library =
        ['_', '_'] ++ library.take 36 ++ List.replicate (38 - (library.take 36).length) '_' := rfl
    rw [hfilling, hcount, ← List.replicate_append_replicate, ← List.append_assoc]
    rfl
  rw [hshape]
  exact ⟨⟨_, by simp only [List.append_assoc]; rfl⟩, List.suffix_append _ _⟩

/-- Whatever the name of a library, its placeholder has forty characters, two underscores at either
end among them. Two names share one exactly when their first 36 characters are the same without the
underscores at their end. A name shares one with a hash only if these characters are a dollar sign,
34 lowercase hexadecimal digits and a dollar sign, and exactly when they are those of the hash. -/
theorem legacyPlaceholder_collisions (library other : List Char) :
    (legacyPlaceholder library).length = 40 ∧
    (['_', '_'] <+: legacyPlaceholder library ∧ ['_', '_'] <:+ legacyPlaceholder library) ∧
    (legacyPlaceholder library = legacyPlaceholder other ↔
      (library.take 36).rdropWhile (· == '_') = (other.take 36).rdropWhile (· == '_')) ∧
    ∀ qualified, legacyPlaceholder library = hashedPlaceholder qualified ↔
      IsHashTag (library.take 36) ∧ library.take 36 = hashedTag qualified := by
  refine ⟨length_legacyPlaceholder library, underscores_around_legacyPlaceholder library,
    legacyPlaceholder_eq_iff, fun qualified => ?_⟩
  rw [legacyPlaceholder_eq_hashedPlaceholder_iff]
  constructor
  · intro htake
    exact ⟨htake ▸ isHashTag_hashedTag qualified, htake⟩
  · exact And.right

/-- Only the end of a name can be lost: what follows 36 characters, and underscores. -/
example : legacyPlaceholder "Lib__".toList = legacyPlaceholder "Lib".toList ∧
    legacyPlaceholder "_Lib".toList ≠ legacyPlaceholder "Lib".toList := by
  decide

end Rollout
