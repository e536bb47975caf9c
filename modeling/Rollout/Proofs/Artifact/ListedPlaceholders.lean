import Mathlib.Data.List.Pairwise
import Rollout.Proofs.Artifact.LinkedInPlace

/-!
# Listed placeholders

A compiler can list where the placeholders of a library stand. Linking the library at the listed
offsets and replacing its placeholders are then two ways to the same text, because placeholders that
do not overlap are filled one by one, in whatever order, and an address that has been written leaves
nothing to be replaced.
-/

namespace Rollout

variable {new pattern text text' : List Char} {patterns : List (List Char)}
  {places more : List ℕ} {place : ℕ}

/-- No place lies apart from itself. -/
theorem Apart.ne {other : ℕ} (hapart : Apart place other) : place ≠ other := by
  rintro rfl
  simp only [Apart, placeholderLength] at hapart
  omega

/-- Two different ones of some places that lie apart from each other do so. -/
theorem apart_of_mem (hapart : places.Pairwise Apart) {other : ℕ} (hplace : place ∈ places)
    (hother : other ∈ places) (hne : place ≠ other) : Apart place other :=
  have : Std.Symm Apart := ⟨fun _ _ hside => hside.symm⟩
  hapart.forall hplace hother hne

namespace Overwritten

/-- The order of places that lie apart does not matter. -/
theorem perm (hover : Overwritten new places text text') (hapart : places.Pairwise Apart)
    (hperm : places.Perm more) : Overwritten new more text text' where
  length_eq := hover.length_eq
  written before place after i hmore hcovers _ := by
    have hplace : place ∈ places := hperm.mem_iff.mpr (by simp [hmore])
    obtain ⟨front, back, rfl⟩ := List.append_of_mem hplace
    refine hover.written front place back i rfl hcovers fun later hlater hcovered => ?_
    have hside := (List.pairwise_cons.mp (List.pairwise_append.mp hapart).2.1).1 later hlater
    simp only [Apart, Covers] at hside hcovers hcovered
    omega
  kept i hcovers := hover.kept i fun place hplace => hcovers place (hperm.mem_iff.mp hplace)

/-- A pattern stays where it stands apart from all places. -/
theorem prefix_kept (hover : Overwritten new places text text')
    (hlength : pattern.length = placeholderLength) (hapart : ∀ other ∈ places, Apart other place)
    (hbegins : pattern <+: text.drop place) : pattern <+: text'.drop place := by
  rw [List.prefix_iff_getElem?] at hbegins ⊢
  intro j hj
  rw [List.getElem?_drop, hover.kept (place + j), ← List.getElem?_drop]
  · exact hbegins j hj
  · intro other hother hcovers
    have hside := hapart other hother
    simp only [Apart, Covers] at hside hcovers
    omega

end Overwritten

/-- Patterns that stand apart from each other are all replaced. -/
theorem Replaced.perm (hreplaced : Replaced new patterns places text text')
    (hlength : ∀ pattern ∈ patterns, pattern.length = placeholderLength)
    (hstands : ∀ place, (∃ pattern ∈ patterns, pattern <+: text.drop place) ↔ place ∈ more)
    (hapart : more.Pairwise Apart) : places.Perm more := by
  have hsubset : ∀ place ∈ places, place ∈ more := fun place hplace =>
    (hstands place).mp (hreplaced.occurs place hplace)
  have hsuperset : ∀ place ∈ more, place ∈ places := by
    intro place hplace
    by_contra hnot
    obtain ⟨pattern, hpattern, hbegins⟩ := (hstands place).mpr hplace
    refine hreplaced.none_left pattern hpattern place
      (hreplaced.overwritten.prefix_kept (hlength pattern hpattern) (fun other hother => ?_) hbegins)
    exact apart_of_mem hapart (hsubset other hother) hplace fun h => hnot (h ▸ hother)
  refine (List.perm_ext_iff_of_nodup ?_ ?_).mpr fun place => ⟨hsubset place, hsuperset place⟩
  · exact hreplaced.pairwise_apart.imp Apart.ne
  · exact hapart.imp Apart.ne

namespace Template

variable {t : Template} {library : String} {source : Option String}

/-- If all placeholders of a library stand at its offsets, they are gone when its address has been
written there. -/
theorem link_at_placeholders (htext : IsSingleByte t.text)
    (hrange : t.InRange library)
    (hlisted : ∀ pattern ∈ placeholders library source, ∀ place, pattern <+: t.text.drop place →
      ∃ offset ∈ t.offsetsOf library, place = 2 * offset.toNat)
    (unit : String) (address : Address) :
    ∃ text, t.link unit library source address =
        (.ok (t.offsetsOf library).length, { t with text }) ∧
      Overwritten address.hex ((t.offsetsOf library).map (2 * ·.toNat)) t.text text := by
  have hdigits : IsDigits address.hex := isDigits_hex address
  have hlength : address.hex.length = placeholderLength := FixedBytes.length_hex address
  obtain ⟨written, text, places, hlink, hover, hreplaced⟩ :=
    link_in_range htext hrange unit source address
  have hnone : ∀ pattern ∈ placeholders library source, ∀ place,
      ¬ pattern <+: written.drop place := by
    intro pattern hpattern place hbegins
    have hframed := isFramed_of_mem_placeholders pattern hpattern
    obtain ⟨offset, hoffset, rfl⟩ := hlisted pattern hpattern place
      (hover.prefix_of_prefix hdigits hlength hframed hbegins)
    exact (hover.apart_of_prefix hdigits hlength hframed hbegins _
      (List.mem_map_of_mem hoffset)).ne rfl
  obtain ⟨rfl, rfl⟩ := hreplaced.eq_of_forall_not hnone
  exact ⟨_, hlink, hover⟩

/-- If a library has no offsets, its address is written at all places where its placeholders stand,
provided that these lie apart. -/
theorem link_of_placeholders (htext : IsSingleByte t.text)
    (hnone : t.offsetsOf library = [])
    (hstands : ∀ place, (∃ pattern ∈ placeholders library source, pattern <+: t.text.drop place) ↔
      place ∈ places)
    (hapart : places.Pairwise Apart) (unit : String) (address : Address) :
    ∃ text, t.link unit library source address = (.ok places.length, { t with text }) ∧
      Overwritten address.hex places t.text text := by
  have hrange : t.InRange library := by simp [InRange, hnone]
  obtain ⟨written, text, replaced, hlink, hover, hreplaced⟩ :=
    link_in_range htext hrange unit source address
  rw [hnone] at hlink hover
  obtain rfl := (Overwritten.nil address.hex t.text).unique hover
  have hperm := hreplaced.perm
    (fun pattern hpattern => (isFramed_of_mem_placeholders pattern hpattern).length_eq)
    hstands hapart
  refine ⟨text, ?_, hreplaced.overwritten.perm hreplaced.pairwise_apart hperm⟩
  rw [hlink, hperm.length_eq, List.length_nil, Nat.zero_add]

end Template

namespace Artifact

variable {name other library source : String} {document plain listed : Json} {a b : Artifact}
  {t : Template} {starts : List UInt64}

/-- The text of the code of a document, in either of its two places. -/
def codeText? (document : Json) : Option String :=
  match document.get? "bytecode" with
  | some (.string text) => some text
  | code => (code.bind (·.get? "object")).bind Json.string?

/-- The document lists these starts for a library and no other ones, all of them under one source
file. -/
def ListsExactly (document : Json) (library : String) (starts : List UInt64) : Prop :=
  ∃ file, (∀ i : ℕ, offsetAt? document ⟨file, library, i⟩ = starts[i]?) ∧
    ∀ other, other ≠ file → positionsOf? document other library = none

/-- The text of a template is that of its document without the marks at its front. -/
theorem exists_text_of_template (hread : template document = .ok t) :
    ∃ text, codeText? document = some text ∧ t.text = Template.dropMarks text.toList := by
  unfold template at hread
  unfold codeText?
  split at hread
  · rename_i text hcode
    obtain rfl := Except.ok.inj hread
    exact ⟨text, by rw [hcode], rfl⟩
  · rename_i code hcode
    split at hread
    · rename_i text hobject
      refine ⟨text, by simp [hcode, hobject, Json.string?], ?_⟩
      split at hread
      · obtain ⟨refs, -, rfl⟩ := map_eq_ok.mp hread
        rfl
      · obtain rfl := Except.ok.inj hread
        rfl
    · cases hread
  · cases hread

/-- Documents with the same code have templates of the same text. -/
theorem text_eq_of_codeText?_eq {t' : Template} (hread : template document = .ok t)
    (hplain : template plain = .ok t') (hcode : codeText? document = codeText? plain) :
    t.text = t'.text := by
  obtain ⟨text, hgiven, htext⟩ := exists_text_of_template hread
  obtain ⟨text', hgiven', htext'⟩ := exists_text_of_template hplain
  obtain rfl : text = text' := Option.some.inj (hgiven.symm.trans (hcode.trans hgiven'))
  rw [htext, htext']

/-- A template has the offsets that its document lists. -/
theorem offsetsOf_of_listsExactly (hread : template document = .ok t)
    (hlists : ListsExactly document library starts) : t.offsetsOf library = starts := by
  obtain ⟨file, hstarts, hother⟩ := hlists
  refine List.ext_getElem? fun i => ?_
  cases hentry : positionsOf? document file library with
  | some positions =>
    rw [getElem?_offsetsOf hread hentry (fun other hlt => hother other hlt.ne) i, hstarts]
  | none =>
    have hnone : starts[i]? = none := by
      rw [← hstarts, offsetAt?]
      simp [hentry]
    rw [hnone]
    by_contra hsome
    obtain ⟨offset, hoffset⟩ := Option.ne_none_iff_exists'.mp hsome
    obtain ⟨under, hunder⟩ := exists_offsetAt?_eq hread library
    obtain ⟨positions, hpositions, -⟩ := Option.bind_eq_some_iff.mp (hunder i offset hoffset)
    by_cases hsame : under = file
    · rw [hsame, hentry] at hpositions
      cases hpositions
    · rw [hother under hsame] at hpositions
      cases hpositions

/-- A document without references lists no offsets. -/
theorem offsetsOf_of_referencesOf? (hread : template document = .ok t)
    (hnone : referencesOf? document = none) (library : String) : t.offsetsOf library = [] := by
  rcases template_eq_ok hread with ⟨-, hreferences⟩ | ⟨files, hfiles, -⟩
  · simp [Template.offsetsOf, hreferences]
  · rw [hnone] at hfiles
    cases hfiles

/-- Linking a library where its hashed placeholders are listed, with or without its source, and
replacing these placeholders in the same text write the same address at the same places, and both
count them. -/
theorem link_listed_eq_replaced (hplain : ofJson name plain = .ok a)
    (hnone : referencesOf? plain = none) (hlisted : ofJson other listed = .ok b)
    (hcode : codeText? listed = codeText? plain) (hlists : ListsExactly listed library starts)
    (hstands : ∀ place, hashedPlaceholder (qualifiedName source library) <+:
      a.bytecode.text.drop place ↔ ∃ start ∈ starts, place = 2 * start.toNat)
    (hapart : starts.Pairwise FarApart)
    (hlegacy : ¬ legacyPlaceholder library.toList <:+: a.bytecode.text) (unit : String)
    (address : Address) :
    ∃ text, Overwritten address.hex (starts.map (2 * ·.toNat)) a.bytecode.text text ∧
      a.bytecode.link unit library (some source) address =
        (.ok starts.length, { a.bytecode with text }) ∧
      ∀ known : Option String, known = none ∨ known = some source →
        b.bytecode.link unit library known address =
          (.ok starts.length, { b.bytecode with text }) := by
  obtain ⟨hplainTemplate, htext⟩ := ofJson_eq_ok hplain
  obtain ⟨hlistedTemplate, -⟩ := ofJson_eq_ok hlisted
  have hsame := text_eq_of_codeText?_eq hlistedTemplate hplainTemplate hcode
  have hoffsets := offsetsOf_of_listsExactly hlistedTemplate hlists
  have hplaces : ∀ known, known = none ∨ known = some source →
      ∀ pattern ∈ Template.placeholders library known, ∀ place,
        pattern <+: a.bytecode.text.drop place → ∃ start ∈ starts, place = 2 * start.toNat := by
    rintro known hknown pattern hpattern place hbegins
    rcases List.mem_cons.mp hpattern with rfl | hpattern
    · exact absurd (hbegins.isInfix.trans (List.drop_suffix place _).isInfix) hlegacy
    · rcases hknown with rfl | rfl
      · cases hpattern
      · obtain rfl := List.mem_singleton.mp hpattern
        exact (hstands place).mp hbegins
  have hrange : b.bytecode.InRange library := by
    intro start hstart
    rw [hoffsets] at hstart
    have hbegins := ((hstands _).mpr ⟨start, hstart, rfl⟩).length_le
    rw [length_hashedPlaceholder, List.length_drop] at hbegins
    simp only [hsame, placeholderLength] at hbegins ⊢
    omega
  have hreplaced : ∀ place,
      (∃ pattern ∈ Template.placeholders library (some source),
        pattern <+: a.bytecode.text.drop place) ↔ place ∈ starts.map (2 * ·.toNat) := by
    intro place
    constructor
    · rintro ⟨pattern, hpattern, hbegins⟩
      obtain ⟨start, hstart, rfl⟩ := hplaces _ (Or.inr rfl) pattern hpattern place hbegins
      exact List.mem_map_of_mem hstart
    · intro hplace
      obtain ⟨start, hstart, rfl⟩ := List.mem_map.mp hplace
      exact ⟨_, by simp [Template.placeholders], (hstands _).mpr ⟨start, hstart, rfl⟩⟩
  have hplacesApart : (starts.map (2 * ·.toNat)).Pairwise Apart :=
    List.pairwise_map.mpr (hapart.imp FarApart.apart)
  obtain ⟨text, hlink, hover⟩ := Template.link_of_placeholders htext
    (offsetsOf_of_referencesOf? hplainTemplate hnone library) hreplaced hplacesApart unit address
  refine ⟨text, hover, by rw [hlink, List.length_map], fun known hknown => ?_⟩
  have hlistedPlaces : ∀ pattern ∈ Template.placeholders library known, ∀ place,
      pattern <+: b.bytecode.text.drop place →
        ∃ start ∈ b.bytecode.offsetsOf library, place = 2 * start.toNat := by
    rw [hsame, hoffsets]
    exact hplaces known hknown
  obtain ⟨text', hlink', hover'⟩ :=
    Template.link_at_placeholders (hsame ▸ htext) hrange hlistedPlaces unit address
  rw [hoffsets, hsame] at hover'
  rw [hlink', hoffsets, hover'.unique hover]

/-- Code with two placeholders of `Lib` from `a.sol`, one behind the other. -/
def twoInARow : String :=
  "0x60__$e729d9a97314752e6acc6da2b0760e0a56$____$e729d9a97314752e6acc6da2b0760e0a56$__00"

/-- The document of the code without references. -/
def plainTwo : Json :=
  .object [("bytecode", .string twoInARow)]

/-- The document of the code that lists the two placeholders, the later one first. -/
def listedTwo : Json :=
  .object [("bytecode", .object [("object", .string twoInARow),
    ("linkReferences", .object [("a.sol", .object [("Lib",
      .array [.object [("start", .ofNat 21), ("length", .ofNat 20)],
        .object [("start", .ofNat 1), ("length", .ofNat 20)]])])])])]

/-- The document lists the two starts. -/
theorem listsExactly_listedTwo : ListsExactly listedTwo "Lib" [21, 1] := by
  refine ⟨"a.sol", fun i => ?_, fun other hother => ?_⟩
  · match i with
    | 0 | 1 => rfl
    | i + 2 => rfl
  · by_contra hsome
    obtain ⟨positions, hpositions⟩ := Option.ne_none_iff_exists'.mp hsome
    rw [positionsOf?_eq] at hpositions
    obtain ⟨files, hfiles, hpositions⟩ := Option.bind_eq_some_iff.mp hpositions
    obtain ⟨libraries, hlibraries, -⟩ := Option.bind_eq_some_iff.mp hpositions
    obtain rfl := Option.some.inj hfiles
    have hmember := List.mem_singleton.mp (Json.mem_of_get?_eq_some hlibraries)
    exact hother (Prod.mk.inj hmember).1

set_option maxRecDepth 10000 in
/-- Without and with the source of the library, both placeholders are filled where they are listed,
and so they are where they are not. -/
theorem link_listed_eq_replaced_of_twoInARow :
    ∃ a b text, ofJson "App" plainTwo = .ok a ∧ ofJson "App" listedTwo = .ok b ∧
      ListsExactly listedTwo "Lib" [21, 1] ∧
      Overwritten (Address.repeating 7).hex [42, 2] a.bytecode.text text ∧
      a.bytecode.link "App" "Lib" (some "a.sol") (.repeating 7) =
        (.ok 2, { a.bytecode with text }) ∧
      b.bytecode.link "App" "Lib" none (.repeating 7) = (.ok 2, { b.bytecode with text }) ∧
      b.bytecode.link "App" "Lib" (some "a.sol") (.repeating 7) =
        (.ok 2, { b.bytecode with text }) := by
  obtain ⟨a, hplain, htext⟩ : ∃ a, ofJson "App" plainTwo = .ok a ∧
      a.bytecode.text = twoInARow.toList.drop 2 := ⟨_, rfl, rfl⟩
  obtain ⟨b, hlisted⟩ : ∃ b, ofJson "App" listedTwo = .ok b := ⟨_, rfl⟩
  have hstands : ∀ place, hashedPlaceholder (qualifiedName "a.sol" "Lib") <+:
      a.bytecode.text.drop place ↔ ∃ start ∈ ([21, 1] : List UInt64), place = 2 * start.toNat := by
    intro place
    rw [hashedPlaceholder_lib, htext]
    by_cases hlt : place < 84
    · revert place
      decide +kernel
    · have hnil : (twoInARow.toList.drop 2).drop place = [] :=
        List.drop_eq_nil_of_le (Nat.le_of_not_lt hlt)
      have hbefore : ∀ start ∈ ([21, 1] : List UInt64), 2 * start.toNat < 84 := by
        rw [List.forall_mem_cons, List.forall_mem_singleton]
        exact ⟨by decide, by decide⟩
      refine iff_of_false (by simp [hnil]) ?_
      rintro ⟨start, hstart, rfl⟩
      exact hlt (hbefore start hstart)
  have hlegacy : ¬ legacyPlaceholder "Lib".toList <:+: a.bytecode.text := by
    rw [htext]
    decide +kernel
  obtain ⟨text, hover, hreplaced, hlinked⟩ := link_listed_eq_replaced hplain rfl hlisted rfl
    listsExactly_listedTwo hstands (by simp [FarApart]) hlegacy "App" (.repeating 7)
  exact ⟨a, b, text, hplain, hlisted, listsExactly_listedTwo, hover, hreplaced,
    hlinked none (Or.inl rfl), hlinked (some "a.sol") (Or.inr rfl)⟩

end Artifact

end Rollout
