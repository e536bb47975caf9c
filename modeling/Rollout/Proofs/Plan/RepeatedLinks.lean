import Rollout.Proofs.Artifact.LinkPositions
import Rollout.Proofs.Bytecode.InPlace
import Rollout.Proofs.Plan.CreationCode

/-!
# Libraries that are listed twice

A library that has been linked leaves nothing to be linked under its name: none of its placeholders
is left, and its address stands at its offsets. Linking it again therefore changes nothing, and a
unit that lists a library twice is created by the same code as one that lists it once.
-/

namespace Rollout

/-- A pattern that occurs in a text stands at some place of it. -/
theorem exists_prefix_drop_of_infix {pattern text : List Char} (hoccurs : pattern <:+: text) :
    ∃ place, pattern <+: text.drop place := by
  obtain ⟨before, after, rfl⟩ := hoccurs
  exact ⟨before.length, after, by rw [List.append_assoc, List.drop_left]⟩

/-- None of its placeholders occurs in the text of a library that has been linked. -/
theorem Template.Holds.not_infix {t : Template} {library : String} {source : Option String}
    {address : Address} (hholds : t.Holds library source address) {pattern : List Char}
    (hpattern : pattern ∈ placeholders library source) : ¬ pattern <:+: t.text := by
  intro hoccurs
  obtain ⟨place, hbegins⟩ := exists_prefix_drop_of_infix hoccurs
  exact hholds.none_left pattern hpattern place hbegins

namespace Plan

variable {p : Plan} {session : Session} {unit library : String} {libraries : List String}
  {t t' : Template}

/-- A library is linked at some address. -/
theorem exists_link_of_linkLibrary (hok : p.linkLibrary session unit t library = .ok t') :
    ∃ address count, session.resolve unit library = .ok address ∧
      t.link unit library (p.sourceOf library) address = (.ok count, t') := by
  obtain ⟨address, hresolve, -⟩ := bind_eq_ok.mp hok
  have hresolve := mapError_eq_ok.mp hresolve
  obtain ⟨count, hlink⟩ := (linkLibrary_eq_ok hresolve).mp hok
  exact ⟨address, count, hresolve, hlink⟩

/-- Libraries are linked one after the other. -/
theorem exists_linked_of_foldlM (hok : libraries.foldlM (p.linkLibrary session unit) t = .ok t') :
    ∃ bindings, t.Linked bindings t' ∧ bindings.map (·.library) = libraries := by
  induction libraries using List.reverseRecOn generalizing t' with
  | nil =>
    cases hok
    exact ⟨[], Template.Linked.nil, rfl⟩
  | append_singleton libraries library ih =>
    rw [List.foldlM_append] at hok
    obtain ⟨t₁, hfirst, hlast⟩ := bind_eq_ok.mp hok
    obtain ⟨t₂, hlibrary, hnone⟩ := bind_eq_ok.mp hlast
    cases hnone
    obtain ⟨bindings, hlinked, rfl⟩ := ih hfirst
    obtain ⟨address, count, -, hlink⟩ := exists_link_of_linkLibrary hlibrary
    exact ⟨_, hlinked.of_link hlink, by simp⟩

/-- A library that is listed a second time need not be linked again, unless a library that is linked
in between has an offset near one of its own. -/
theorem linkLibrary_of_linked {t₁ t₂ t₃ : Template} {front between : List String}
    (htext : IsSingleByte t.text)
    (hapart : ∀ other ∈ between, ∀ x ∈ t.offsetsOf library, ∀ y ∈ t.offsetsOf other, FarApart x y)
    (hfront : front.foldlM (p.linkLibrary session unit) t = .ok t₁)
    (hfirst : p.linkLibrary session unit t₁ library = .ok t₂)
    (hbetween : between.foldlM (p.linkLibrary session unit) t₂ = .ok t₃) :
    p.linkLibrary session unit t₃ library = .ok t₃ := by
  obtain ⟨earlier, hearlier, -⟩ := exists_linked_of_foldlM hfront
  obtain ⟨address, count, hresolve, hlink⟩ := exists_link_of_linkLibrary hfirst
  obtain ⟨bindings, hlinked, rfl⟩ := exists_linked_of_foldlM hbetween
  have hplace := hearlier.inPlace htext
  have hplaceFirst := (hearlier.of_link hlink).inPlace htext
  have htext₂ := hplaceFirst.isSingleByte htext
  have hholds := Template.Holds.of_link_eq_ok (hplace.isSingleByte htext) hlink
  have hheld := hholds.of_linked htext₂ hlinked fun b hb x hx y hy => by
    rw [hplaceFirst.offsetsOf_eq] at hx hy
    exact hapart b.library (List.mem_map_of_mem hb) x hx y hy
  have hagain := hheld.link_eq ((hlinked.inPlace htext₂).isSingleByte htext₂) unit
  exact (linkLibrary_eq_ok hresolve).mpr ⟨_, hagain⟩

/-- After whatever other links, a library of an artifact that has been linked has no placeholder left
in the text, and linking it again at the address counts its offsets and changes nothing. So the code
that creates a unit with a library that it lists twice is the code without the second mention, unless
a library that is listed in between has an offset near one of its own. -/
theorem linked_once_more {a : Artifact} {name : String} {document : Json}
    (hread : Artifact.ofJson name document = .ok a) :
    (∀ (earlier : List Binding) (t t' : Template) (unit library : String) (source : Option String)
      (address : Address) (count : ℕ), a.bytecode.Linked earlier t →
      t.link unit library source address = (.ok count, t') →
      ¬ legacyPlaceholder library.toList <:+: t'.text ∧
      (∀ s, source = some s → ¬ hashedPlaceholder (qualifiedName s library) <:+: t'.text) ∧
      ∀ again, t'.link again library source address =
        (.ok (a.bytecode.offsetsOf library).length, t')) ∧
    ∀ (p : Plan) (session : Session) (sender : Address) (d : Declaration) (library : String)
      (front between back : List String),
      d.links = front ++ library :: (between ++ library :: back) →
      (∀ other ∈ between, ∀ x ∈ a.bytecode.offsetsOf library,
        ∀ y ∈ a.bytecode.offsetsOf other, FarApart x y) →
      p.creationCode session sender ⟨d, a⟩ = p.creationCode session sender
        ⟨{ d with links := front ++ library :: (between ++ back) }, a⟩ := by
  obtain ⟨-, htext⟩ := Artifact.ofJson_eq_ok hread
  constructor
  · intro earlier t t' unit library source address count hlinked hlink
    have hplace := hlinked.inPlace htext
    have hsingle := hplace.isSingleByte htext
    have hholds := Template.Holds.of_link_eq_ok hsingle hlink
    have hplaceFirst := (hlinked.of_link hlink).inPlace htext
    refine ⟨hholds.not_infix List.mem_cons_self, fun s hs => ?_, fun again => ?_⟩
    · exact hholds.not_infix (by simp [Template.placeholders, hs])
    · rw [← hplaceFirst.offsetsOf_eq]
      exact hholds.link_eq (hplaceFirst.isSingleByte htext) again
  · intro p session sender d library front between back hlinks hapart
    have hfold : (front ++ library :: (between ++ library :: back)).foldlM
        (p.linkLibrary session d.name) a.bytecode =
          (front ++ library :: (between ++ back)).foldlM (p.linkLibrary session d.name) a.bytecode :=
      foldlM_of_repeated (fun _ _ _ => linkLibrary_of_linked htext hapart) back
    have hcode : p.linkedCode session ⟨d, a⟩ = p.linkedCode session
        ⟨{ d with links := front ++ library :: (between ++ back) }, a⟩ := by
      simp only [linkedCode, PlannedUnit.name, hlinks, hfold]
    simp only [creationCode, hcode]
    rfl

/-- Code with an offset of `Lib`, an offset of `Math` and a placeholder of `Lib`. -/
def twoLibraries : Json :=
  .object [("bytecode", .object [
    ("object", .string (String.ofList
      (List.replicate 80 '0' ++ legacyPlaceholder "Lib".toList))),
    ("linkReferences", .object [
      ("m.sol", .object [
        ("Lib", Artifact.onePosition 0), ("Math", Artifact.onePosition 20)])])])]

/-- A session that holds the two libraries. -/
def librarySession : Session :=
  ⟨1, [⟨"Lib", .repeating 7, none⟩, ⟨"Math", .repeating 8, none⟩], none⟩

set_option maxRecDepth 4000 in
/-- `Lib` is listed before `Math` and behind it. -/
theorem linked_once_more_of_twoLibraries :
    ∃ a, Artifact.ofJson "App" twoLibraries = .ok a ∧
      (∃ linked, a.bytecode.link "App" "Lib" none (.repeating 7) = (.ok 2, linked) ∧
        linked.link "App" "Lib" none (.repeating 7) = (.ok 1, linked)) ∧
      (⟨[]⟩ : Plan).creationCode librarySession (.repeating 9)
          ⟨⟨"App", none, ["Lib", "Math", "Lib"], []⟩, a⟩ =
        .ok ((Address.repeating 7).bytes ++ (Address.repeating 8).bytes ++
          (Address.repeating 7).bytes) := by
  obtain ⟨a, linked, hread, hlib, hmath, hlink, hcode⟩ :
      ∃ a linked, Artifact.ofJson "App" twoLibraries = .ok a ∧
        a.bytecode.offsetsOf "Lib" = [0] ∧ a.bytecode.offsetsOf "Math" = [20] ∧
        a.bytecode.link "App" "Lib" none (.repeating 7) = (.ok 2, linked) ∧
        (⟨[]⟩ : Plan).creationCode librarySession (.repeating 9)
            ⟨⟨"App", none, ["Lib", "Math"], []⟩, a⟩ =
          .ok ((Address.repeating 7).bytes ++ (Address.repeating 8).bytes ++
            (Address.repeating 7).bytes) :=
    ⟨_, _, rfl, rfl, rfl, rfl, rfl⟩
  obtain ⟨hagain, hplan⟩ := linked_once_more hread
  obtain ⟨-, -, hsame⟩ := hagain [] _ _ _ _ _ _ _ Template.Linked.nil hlink
  have hapart : ∀ other ∈ ["Math"], ∀ x ∈ a.bytecode.offsetsOf "Lib",
      ∀ y ∈ a.bytecode.offsetsOf other, FarApart x y := by
    simp only [List.forall_mem_singleton, hlib, hmath]
    exact Or.inl (by decide)
  refine ⟨a, hread, ⟨linked, hlink, ?_⟩, ?_⟩
  · rw [hsame, hlib]
    rfl
  · rw [hplan _ _ _ _ "Lib" [] ["Math"] [] rfl hapart]
    exact hcode

end Plan

end Rollout
