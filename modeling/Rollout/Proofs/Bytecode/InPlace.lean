import Rollout.Proofs.Bytecode.Overwriting

/-!
# Linking in place

Linking writes addresses over as many characters as they have and moves nothing. So whatever has
been linked, and whether or not it failed, a text keeps its length, an offset leads to the same place
in it as at the start, and the places that were written over are offsets of a linked library or
placeholders of one that stood in the text at the start. An address stands at its offsets for as long
as no other library has an offset near them, and linking the library once more changes nothing.
-/

namespace Rollout

variable {new other text text' text'' : List Char} {places more : List ℕ}

namespace Overwritten

/-- What is written at the places can be told from the text before. -/
theorem unique (hover : Overwritten new places text text')
    (hagain : Overwritten new places text text'') : text' = text'' := by
  refine List.ext_getElem? fun i => ?_
  by_cases hcovered : ∃ place ∈ places, Covers place i
  · obtain ⟨before, place, after, hplaces, hcovers, hlater⟩ :=
      exists_last_of_exists (P := (Covers · i)) hcovered
    rw [hover.written before place after i hplaces hcovers hlater,
      hagain.written before place after i hplaces hcovers hlater]
  · have hkept : ∀ place ∈ places, ¬ Covers place i :=
      fun place hplace hcovers => hcovered ⟨place, hplace, hcovers⟩
    rw [hover.kept i hkept, hagain.kept i hkept]

/-- Writing the same once more changes nothing. -/
theorem again (hover : Overwritten new places text text') :
    Overwritten new places text' text' where
  length_eq := rfl
  written := hover.written
  kept _ _ := rfl

/-- What stands at its places already stays there when other places are written. -/
theorem of_apart (hheld : Overwritten new places text text)
    (hover : Overwritten other more text text')
    (hapart : ∀ place ∈ places, ∀ later ∈ more, Apart place later) :
    Overwritten new places text' text' where
  length_eq := rfl
  written before place after i hplaces hcovers hlater := by
    rw [← hheld.written before place after i hplaces hcovers hlater]
    refine hover.kept i fun elsewhere helsewhere hcovered => ?_
    have hside := hapart place (by simp [hplaces]) elsewhere helsewhere
    simp only [Apart, Covers] at hside hcovers hcovered
    omega
  kept _ _ := rfl

/-- What holds of all characters of a text and of the new text holds after writing. -/
theorem forall_mem {P : Char → Prop} (hover : Overwritten new places text text')
    (hlength : new.length = placeholderLength) (hnew : ∀ c ∈ new, P c)
    (htext : ∀ c ∈ text, P c) : ∀ c ∈ text', P c := by
  intro c hc
  obtain ⟨i, hi⟩ := List.mem_iff_getElem?.mp hc
  by_cases hcovered : ∃ place ∈ places, Covers place i
  · obtain ⟨place, hplace, hcovers⟩ := hcovered
    obtain ⟨d, hd, hheld⟩ := hover.exists_mem_of_covers hlength hplace hcovers
    rw [hi, Option.some.injEq] at hheld
    exact hheld ▸ hnew d hd
  · rw [hover.kept i fun place hplace hcovers => hcovered ⟨place, hplace, hcovers⟩] at hi
    exact htext c (List.mem_of_getElem? hi)

end Overwritten

/-- Where no pattern stands, nothing is replaced. -/
theorem Replaced.eq_of_forall_not {patterns : List (List Char)}
    (hreplaced : Replaced new patterns places text text')
    (hnone : ∀ pattern ∈ patterns, ∀ place, ¬ pattern <+: text.drop place) :
    places = [] ∧ text' = text := by
  have hplaces : places = [] := by
    refine List.eq_nil_iff_forall_not_mem.mpr fun place hplace => ?_
    obtain ⟨pattern, hpattern, hbegins⟩ := hreplaced.occurs place hplace
    exact hnone pattern hpattern place hbegins
  subst hplaces
  exact ⟨rfl, hreplaced.overwritten.unique (Overwritten.nil new text)⟩

/-- Offsets that are far apart lead to places that lie apart. -/
theorem FarApart.apart {x y : UInt64} (hfar : FarApart x y) :
    Apart (2 * x.toNat) (2 * y.toNat) := by
  simp only [FarApart, Apart, placeholderLength] at hfar ⊢
  omega

namespace Template

variable {t t' t'' : Template} {library : String} {source : Option String} {address : Address}
  {bindings : List Binding}

/-- The address of a library belongs at the place: an offset of the library leads there, or one of
its placeholders stands there. -/
def IsPlaceOf (t : Template) (library : String) (source : Option String) (place : ℕ) : Prop :=
  (∃ offset ∈ t.offsetsOf library, place = 2 * offset.toNat) ∨
    ∃ pattern ∈ placeholders library source, pattern <+: t.text.drop place

/-- The addresses have been bound one after the other, each on behalf of some unit. What has been
written before a failure stays. -/
inductive Linked (t : Template) : List Binding → Template → Prop
  | nil : Linked t [] t
  | concat {bindings : List Binding} {t' : Template} (hlinked : Linked t bindings t')
      (unit : String) (b : Binding) :
    Linked t (bindings ++ [b]) (t'.link unit b.library b.source b.address).2

/-- A link with this outcome binds one more address. -/
theorem Linked.of_link {unit : String} {outcome : Except LinkError ℕ}
    (hlinked : Linked t bindings t')
    (hlink : t'.link unit library source address = (outcome, t'')) :
    Linked t (bindings ++ [⟨library, source, address⟩]) t'' := by
  have hcall := hlinked.concat unit ⟨library, source, address⟩
  rwa [hlink] at hcall

/-- If the offsets of a library are not in range, there is a first one that is not. -/
theorem exists_split_of_not_inRange (hrange : ¬ t.InRange library) :
    ∃ before bad after, t.offsetsOf library = before ++ bad :: after ∧
      (∀ offset ∈ before, 2 * offset.toNat + placeholderLength ≤ t.text.length) ∧
      t.text.length < 2 * bad.toNat + placeholderLength := by
  refine exists_first_out_of_range ?_
  simpa only [InRange, not_forall, exists_prop, Nat.not_le] using hrange

/-- Linking a library, with whatever outcome, writes its address at places where it belongs. -/
theorem exists_overwritten_link (htext : IsSingleByte t.text) (unit library : String)
    (source : Option String) (address : Address) :
    ∃ places text, (t.link unit library source address).2 = { t with text } ∧
      Overwritten address.hex places t.text text ∧
      ∀ place ∈ places, t.IsPlaceOf library source place := by
  have hdigits : IsDigits address.hex := isDigits_hex address
  have hlength : address.hex.length = placeholderLength := FixedBytes.length_hex address
  by_cases hrange : t.InRange library
  · obtain ⟨written, text, places, hlink, hover, hreplaced⟩ :=
      link_in_range htext hrange unit source address
    refine ⟨_, text, by rw [hlink], hover.append hreplaced.overwritten, ?_⟩
    rw [List.forall_mem_append, List.forall_mem_map]
    refine ⟨fun offset hoffset => Or.inl ⟨offset, hoffset, rfl⟩, fun place hplace => Or.inr ?_⟩
    obtain ⟨pattern, hpattern, hbegins⟩ := hreplaced.occurs place hplace
    have hframed := isFramed_of_mem_placeholders pattern hpattern
    exact ⟨pattern, hpattern, hover.prefix_of_prefix hdigits hlength hframed hbegins⟩
  · obtain ⟨before, bad, after, hoffsets, hbefore, hbad⟩ := exists_split_of_not_inRange hrange
    obtain ⟨text, hlink, hover⟩ :=
      link_out_of_range htext hoffsets hbefore hbad unit source address
    refine ⟨_, text, by rw [hlink], hover, ?_⟩
    rw [List.forall_mem_map]
    exact fun offset hoffset => Or.inl ⟨offset, by simp [hoffsets, hoffset], rfl⟩

/-- The other template is the template with addresses written over places of the bound libraries,
and nothing in it has been moved. -/
structure InPlace (bindings : List Binding) (t t' : Template) : Prop where
  references_eq : t'.references = t.references
  length_eq : t'.text.length = t.text.length
  forall_mem : ∀ P : Char → Prop, (∀ c, Hex.isDigit c → P c) → (∀ c ∈ t.text, P c) →
    ∀ c ∈ t'.text, P c
  /-- No placeholder has come up. -/
  prefix_of_prefix : ∀ pattern place, IsFramed pattern → pattern <+: t'.text.drop place →
    pattern <+: t.text.drop place
  getElem?_eq : ∀ i, (∀ b ∈ bindings, ∀ place, t.IsPlaceOf b.library b.source place →
    ¬ Covers place i) → t'.text[i]? = t.text[i]?

namespace InPlace

/-- A library has the same offsets. -/
theorem offsetsOf_eq (hplace : InPlace bindings t t') (library : String) :
    t'.offsetsOf library = t.offsetsOf library := by
  rw [offsetsOf, offsetsOf, hplace.references_eq]

/-- The text stays one of single bytes. -/
theorem isSingleByte (hplace : InPlace bindings t t') (htext : IsSingleByte t.text) :
    IsSingleByte t'.text :=
  hplace.forall_mem _ (fun _ hc => utf8Size_of_isDigit hc) htext

/-- Offsets stay in range. -/
theorem inRange (hplace : InPlace bindings t t') (hrange : t.InRange library) :
    t'.InRange library := by
  rw [InRange, hplace.offsetsOf_eq, hplace.length_eq]
  exact hrange

/-- An address belongs at no other places than at the start. -/
theorem isPlaceOf (hplace : InPlace bindings t t') {place : ℕ}
    (hown : t'.IsPlaceOf library source place) : t.IsPlaceOf library source place := by
  rcases hown with ⟨offset, hoffset, rfl⟩ | ⟨pattern, hpattern, hbegins⟩
  · rw [hplace.offsetsOf_eq] at hoffset
    exact Or.inl ⟨offset, hoffset, rfl⟩
  · have hframed := isFramed_of_mem_placeholders pattern hpattern
    exact Or.inr ⟨pattern, hpattern, hplace.prefix_of_prefix pattern place hframed hbegins⟩

/-- Binding one more address writes in place. -/
theorem concat (hplace : InPlace bindings t t') (htext : IsSingleByte t.text) (unit : String)
    (b : Binding) : InPlace (bindings ++ [b]) t (t'.link unit b.library b.source b.address).2 := by
  have hdigits : IsDigits b.address.hex := isDigits_hex b.address
  have hlength : b.address.hex.length = placeholderLength := FixedBytes.length_hex b.address
  obtain ⟨places, text, hlink, hover, hplaces⟩ := exists_overwritten_link
    (hplace.isSingleByte htext) unit b.library b.source b.address
  rw [hlink]
  refine ⟨hplace.references_eq, hover.length_eq.trans hplace.length_eq, ?_, ?_, ?_⟩
  · intro P hdigit hP
    exact hover.forall_mem hlength (fun c hc => hdigit c (hdigits c hc))
      (hplace.forall_mem P hdigit hP)
  · intro pattern place hframed hbegins
    exact hplace.prefix_of_prefix pattern place hframed
      (hover.prefix_of_prefix hdigits hlength hframed hbegins)
  · intro i hcovers
    rw [List.forall_mem_append, List.forall_mem_singleton] at hcovers
    rw [← hplace.getElem?_eq i hcovers.1]
    exact hover.kept i fun place hmem => hcovers.2 place (hplace.isPlaceOf (hplaces place hmem))

end InPlace

/-- Whatever is linked is linked in place. -/
theorem Linked.inPlace (hlinked : Linked t bindings t') (htext : IsSingleByte t.text) :
    InPlace bindings t t' := by
  induction hlinked with
  | nil => exact ⟨rfl, rfl, fun _ _ hP => hP, fun _ _ _ hbegins => hbegins, fun _ _ => rfl⟩
  | concat _ unit b ih => exact ih.concat htext unit b

/-- A library can be linked only if its offsets are in range. -/
theorem inRange_of_link_eq_ok {unit : String} {count : ℕ} (htext : IsSingleByte t.text)
    (hlink : t.link unit library source address = (.ok count, t')) : t.InRange library := by
  by_contra hrange
  obtain ⟨before, bad, after, hoffsets, hbefore, hbad⟩ := exists_split_of_not_inRange hrange
  obtain ⟨text, hfailed, -⟩ := link_out_of_range htext hoffsets hbefore hbad unit source address
  cases hlink.symm.trans hfailed

/-- The library has been linked at the address: the address stands at all its offsets, and none of
its placeholders is left. -/
structure Holds (t : Template) (library : String) (source : Option String) (address : Address) :
    Prop where
  inRange : t.InRange library
  overwritten :
    Overwritten address.hex ((t.offsetsOf library).map (2 * ·.toNat)) t.text t.text
  none_left : ∀ pattern ∈ placeholders library source, ∀ start, ¬ pattern <+: t.text.drop start

namespace Holds

/-- A library that can be linked has been linked afterwards. -/
theorem of_link_eq_ok {unit : String} {count : ℕ} (htext : IsSingleByte t.text)
    (hlink : t.link unit library source address = (.ok count, t')) :
    t'.Holds library source address := by
  have hdigits : IsDigits address.hex := isDigits_hex address
  have hlength : address.hex.length = placeholderLength := FixedBytes.length_hex address
  have hrange := inRange_of_link_eq_ok htext hlink
  obtain ⟨written, text, places, hlinked, hover, hreplaced⟩ :=
    link_in_range htext hrange unit source address
  obtain ⟨-, rfl⟩ := Prod.mk.inj (hlink.symm.trans hlinked)
  have hlengths := hreplaced.overwritten.length_eq.trans hover.length_eq
  refine ⟨hrange.withText hlengths,
    hover.again.of_apart hreplaced.overwritten fun place hplace later hlater => ?_,
    hreplaced.none_left⟩
  obtain ⟨pattern, hpattern, hbegins⟩ := hreplaced.occurs later hlater
  exact hover.apart_of_prefix hdigits hlength (isFramed_of_mem_placeholders pattern hpattern)
    hbegins place hplace

/-- Linking the library once more changes nothing. -/
theorem link_eq (hholds : t.Holds library source address) (htext : IsSingleByte t.text)
    (unit : String) :
    t.link unit library source address = (.ok (t.offsetsOf library).length, t) := by
  obtain ⟨written, text, places, hlink, hover, hreplaced⟩ :=
    link_in_range htext hholds.inRange unit source address
  obtain rfl : t.text = written := hholds.overwritten.unique hover
  obtain ⟨rfl, rfl⟩ := hreplaced.eq_of_forall_not hholds.none_left
  exact hlink

/-- The library stays linked when others are linked at offsets that lie apart from its own. -/
theorem of_linked (hholds : t.Holds library source address) (htext : IsSingleByte t.text)
    (hlinked : Linked t bindings t')
    (hapart : ∀ b ∈ bindings, ∀ x ∈ t.offsetsOf library, ∀ y ∈ t.offsetsOf b.library,
      FarApart x y) :
    t'.Holds library source address := by
  have hdigits : IsDigits address.hex := isDigits_hex address
  have hlength : address.hex.length = placeholderLength := FixedBytes.length_hex address
  induction hlinked with
  | nil => exact hholds
  | @concat bindings t' hlinked unit b ih =>
    rw [List.forall_mem_append, List.forall_mem_singleton] at hapart
    have hheld := ih hapart.1
    have hplace := hlinked.inPlace htext
    have hconcat := hplace.concat htext unit b
    obtain ⟨places, text, hlink, hover, hplaces⟩ := exists_overwritten_link
      (hplace.isSingleByte htext) unit b.library b.source b.address
    refine ⟨hconcat.inRange hholds.inRange, ?_, fun pattern hpattern start hbegins => ?_⟩
    · rw [hlink]
      refine hheld.overwritten.of_apart hover fun place hmem later hlater => ?_
      rcases hplaces later hlater with ⟨y, hy, rfl⟩ | ⟨pattern, hpattern, hbegins⟩
      · obtain ⟨x, hx, rfl⟩ := List.mem_map.mp hmem
        rw [hplace.offsetsOf_eq] at hx hy
        exact (hapart.2 x hx y hy).apart
      · exact hheld.overwritten.apart_of_prefix hdigits hlength
          (isFramed_of_mem_placeholders pattern hpattern) hbegins place hmem
    · exact hholds.none_left pattern hpattern start
        (hconcat.prefix_of_prefix pattern start (isFramed_of_mem_placeholders pattern hpattern)
          hbegins)

end Holds

end Template

end Rollout
