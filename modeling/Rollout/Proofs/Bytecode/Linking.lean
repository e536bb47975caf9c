import Mathlib.Data.Set.Function
import Rollout.Proofs.Bytecode.Slots

/-!
# Linking slot by slot

A placeholder is the slot of a tag: the older form takes the first characters of the library's name
for a tag, the newer one a part of a hash. So linking a library fills the slots of its tags with the
digits of its address and touches nothing else.
-/

namespace Rollout

/-- The tag of a library in the older form: the first characters of its name, without underscores
at their end. -/
def legacyTag (library : List Char) : List Char :=
  (library.take (placeholderLength - 4)).rdropWhile (· == '_')

/-- The tag of a library in the newer form. -/
def hashedTag (qualifiedName : List Char) : List Char :=
  '$' :: (keccak256 (utf8 qualifiedName)).hex.take 34 ++ ['$']

/-- The underscores at the end of a name count among those that fill the placeholder. -/
theorem legacyPlaceholder_eq_slot (library : List Char) :
    legacyPlaceholder library = slot (legacyTag library) := by
  let name := library.take (placeholderLength - 4)
  let left := name.rtakeWhile (· == '_')
  have hleft : left = List.replicate left.length '_' :=
    List.eq_replicate_of_mem fun c hc => by simpa using List.mem_rtakeWhile_imp hc
  have hname : legacyTag library ++ List.replicate left.length '_' = name := by
    rw [← hleft]
    exact List.rdropWhile_append_rtakeWhile
  have hlength : (legacyTag library).length + left.length = name.length := by
    simpa using congrArg List.length hname
  have hshort : name.length ≤ placeholderLength - 4 := List.length_take_le _ _
  have hpadding : placeholderLength - 2 - (legacyTag library).length =
      left.length + (placeholderLength - 2 - name.length) := by
    simp only [placeholderLength] at hshort ⊢
    omega
  rw [slot, hpadding, ← List.replicate_append_replicate, ← List.append_assoc,
    List.append_assoc _ (legacyTag library), hname]
  rfl

/-- A hash between dollar signs takes as many characters as a tag can have. -/
theorem hashedPlaceholder_eq_slot (qualifiedName : List Char) :
    hashedPlaceholder qualifiedName = slot (hashedTag qualifiedName) := by
  have hlength : (hashedTag qualifiedName).length = 36 := by simp [hashedTag]
  rw [slot, hlength]
  simp [hashedPlaceholder, hashedTag, placeholderLength]

/-- The tag of a hash is a tag. -/
theorem isTag_hashedTag (qualifiedName : List Char) : IsTag (hashedTag qualifiedName) := by
  have hdigits : IsDigits ((keccak256 (utf8 qualifiedName)).hex.take 34) :=
    fun c hc => isDigits_hex _ c (List.mem_of_mem_take hc)
  have hunderscore : '_' ∉ hashedTag qualifiedName := by
    simpa [hashedTag] using fun hmem => hdigits.ne_underscore hmem rfl
  refine ⟨by simp [hashedTag], by simp [hashedTag], ?_, ?_, by simp [hashedTag], fun _ => ?_⟩
  · intro hlast
    exact hunderscore (List.mem_of_getLast? hlast)
  · intro hsingle
    exact hunderscore (hsingle.subset List.mem_cons_self)
  · exact ⟨'$', by simp [hashedTag], by decide⟩

/-- The newer form of placeholder is always a slot. -/
theorem isSlot_hashedPlaceholder (qualifiedName : List Char) :
    IsSlot (hashedPlaceholder qualifiedName) :=
  ⟨_, isTag_hashedTag qualifiedName, hashedPlaceholder_eq_slot qualifiedName⟩

namespace Template

variable {library : String} {pieces : List (List Char)}

/-- The placeholders of a library whose name has a tag occur among digits and slots as pieces
only. -/
theorem occursAsPiece_of_mem_placeholders (htag : IsTag (legacyTag library.toList))
    (hpieces : ∀ x ∈ pieces, IsDigits x ∨ IsSlot x) (source : Option String) :
    ∀ pattern ∈ placeholders library source, OccursAsPiece pattern pieces := by
  intro pattern hpattern
  rcases List.mem_cons.mp hpattern with rfl | hpattern
  · rw [legacyPlaceholder_eq_slot]
    exact htag.occursAsPiece hpieces
  · obtain ⟨source, -, rfl⟩ : ∃ s, source = some s ∧
        hashedPlaceholder (qualifiedName s library) = pattern := by simpa using hpattern
    rw [hashedPlaceholder_eq_slot]
    exact (isTag_hashedTag _).occursAsPiece hpieces

end Template

/-- The address of a library, with the source by which the library is known. -/
structure Binding where
  library : String
  source : Option String
  address : Address

namespace Template

/-- Bind addresses one after the other. -/
def linkAll (t : Template) (unit : String) (bindings : List Binding) : Template :=
  bindings.foldl (fun t b => (t.link unit b.library b.source b.address).2) t

end Template

/-- A library name that is told from the underscores around it, and that a placeholder spells in
full. -/
structure IsPlainName (name : String) : Prop where
  ne_empty : name ≠ ""
  length_le : name.toList.length ≤ 35
  isAlphanum_or_underscore : ∀ c ∈ name.toList, c.isAlphanum ∨ c = '_'
  single : ¬ ['_', '_'] <:+: name.toList
  head?_ne : name.toList.head? ≠ some '_'
  getLast?_ne : name.toList.getLast? ≠ some '_'

namespace IsPlainName

variable {name other : String}

/-- A plain name is its own tag. -/
theorem legacyTag_eq (hname : IsPlainName name) : legacyTag name.toList = name.toList := by
  have hlength := hname.length_le
  rw [legacyTag, List.take_of_length_le (by simp only [placeholderLength]; omega),
    List.rdropWhile_eq_self_iff]
  intro hne hlast
  exact hname.getLast?_ne (by rw [List.getLast?_eq_some_getLast hne, beq_iff_eq.mp hlast])

/-- A plain name is a tag. -/
theorem isTag (hname : IsPlainName name) : IsTag name.toList where
  ne_nil h := hname.ne_empty (String.toList_eq_nil_iff.mp h)
  head?_ne := hname.head?_ne
  getLast?_ne := hname.getLast?_ne
  single := hname.single
  length_le := hname.length_le.trans (by decide)
  exists_not_isDigit h := absurd (h ▸ hname.length_le) (by decide)

/-- The older placeholder of a plain name is its slot. -/
theorem legacyPlaceholder_eq (hname : IsPlainName name) :
    legacyPlaceholder name.toList = slot name.toList := by
  rw [legacyPlaceholder_eq_slot, hname.legacyTag_eq]

/-- Plain names that are different have different placeholders. -/
theorem legacyPlaceholder_inj (hname : IsPlainName name) (hother : IsPlainName other) :
    legacyPlaceholder name.toList = legacyPlaceholder other.toList ↔ name = other := by
  rw [hname.legacyPlaceholder_eq, hother.legacyPlaceholder_eq, hname.isTag.slot_inj hother.isTag,
    String.toList_inj]

/-- No plain name has a placeholder that looks like that of a hash. -/
theorem legacyPlaceholder_ne (hname : IsPlainName name) (qualifiedName : List Char) :
    legacyPlaceholder name.toList ≠ hashedPlaceholder qualifiedName := by
  rw [hname.legacyPlaceholder_eq, hashedPlaceholder_eq_slot, Ne,
    hname.isTag.slot_inj (isTag_hashedTag _)]
  intro h
  have hdollar := hname.isAlphanum_or_underscore '$' (by rw [h]; exact List.mem_cons_self)
  revert hdollar
  decide

end IsPlainName

set_option maxRecDepth 10000 in
/-- The placeholder that holds the hash of a library's qualified name. -/
theorem hashedPlaceholder_lib : hashedPlaceholder (qualifiedName "a.sol" "Lib") =
    "__$e729d9a97314752e6acc6da2b0760e0a56$__".toList := by
  decide +kernel

/-- A piece of code that is not linked yet. -/
inductive Piece where
  | digits (text : List Char)
  /-- A placeholder of the older form. -/
  | legacy (library : String)
  /-- A placeholder of the newer form. -/
  | hashed (library : String)

namespace Piece

/-- The text of a piece. A hash takes the source of the library into account. -/
def text (source : String → String) : Piece → List Char
  | digits text => text
  | legacy library => legacyPlaceholder library.toList
  | hashed library => hashedPlaceholder (qualifiedName (source library) library)

/-- The library whose address belongs in the piece. -/
def library? : Piece → Option String
  | digits _ => none
  | legacy library | hashed library => some library

/-- The piece when an address has been bound for a library. -/
def bind (library : String) (address : Address) (x : Piece) : Piece :=
  if x.library? = some library then digits address.hex else x

/-- The piece consists of hexadecimal digits, or it is for one of the libraries. -/
def IsOver (names : Set String) : Piece → Prop
  | digits text => IsDigits text
  | legacy library | hashed library => library ∈ names

/-- The code of these pieces, without any offset. -/
def code (source : String → String) (pieces : List Piece) : Template :=
  ⟨pieces.flatMap (text source), []⟩

variable {names : Set String} {source : String → String} {library other : String} {x : Piece}
  {pieces : List Piece}

/-- A piece stays one when a library is linked. -/
theorem IsOver.bind (hx : x.IsOver names) (library : String) (address : Address) :
    (x.bind library address).IsOver names := by
  unfold Piece.bind
  split
  · exact isDigits_hex address
  · exact hx

/-- A piece of the library holds the digits of the address. -/
theorem bind_of_eq (hx : x.library? = some library) (address : Address) :
    x.bind library address = digits address.hex :=
  if_pos hx

/-- All other pieces stay as they are. -/
theorem bind_of_ne (hx : x.library? ≠ some library) (address : Address) :
    x.bind library address = x :=
  if_neg hx

/-- Libraries can be linked in either order. -/
theorem bind_comm (hne : library ≠ other) (a b : Address) (x : Piece) :
    (x.bind library a).bind other b = (x.bind other b).bind library a := by
  have hdigits (name : String) (a : Address) : (digits a.hex).library? ≠ some name := by
    simp [library?]
  by_cases hlibrary : x.library? = some library
  · have hother : x.library? ≠ some other := by
      rw [hlibrary]
      exact fun h => hne (Option.some.inj h)
    rw [bind_of_eq hlibrary, bind_of_ne (hdigits other a), bind_of_ne hother, bind_of_eq hlibrary]
  · by_cases hother : x.library? = some other
    · rw [bind_of_ne hlibrary, bind_of_eq hother, bind_of_ne (hdigits library b)]
    · rw [bind_of_ne hlibrary, bind_of_ne hother, bind_of_ne hlibrary]

/-- A piece holds digits when its library has been linked. -/
theorem IsOver.isDigits_foldl_bind (hx : x.IsOver names) {bindings : List Binding}
    (hlibrary : ∀ name, x.library? = some name → ∃ b ∈ bindings, b.library = name) :
    IsDigits ((bindings.foldl (fun x b => x.bind b.library b.address) x).text source) := by
  induction bindings generalizing x with
  | nil =>
    cases x with
    | digits text => exact hx
    | legacy name | hashed name => simpa using hlibrary name rfl
  | cons b bindings ih =>
    refine ih (hx.bind _ _) fun name hname => ?_
    change (x.bind b.library b.address).library? = some name at hname
    by_cases hsame : x.library? = some b.library
    · rw [bind_of_eq hsame] at hname
      cases hname
    · rw [bind_of_ne hsame] at hname
      obtain ⟨b', hb', rfl⟩ := hlibrary name hname
      rcases List.mem_cons.mp hb' with rfl | hb'
      · exact absurd hname hsame
      · exact ⟨b', hb', rfl⟩

section

variable (hnames : ∀ name ∈ names, IsPlainName name)
  (hhashed : ∀ name ∈ names, ∀ other ∈ names,
    hashedPlaceholder (qualifiedName (source name) name) =
      hashedPlaceholder (qualifiedName (source other) other) → name = other)

include hnames

/-- The text of a piece is that of digits or of a slot. -/
theorem IsOver.isDigits_or_isSlot (hx : x.IsOver names) :
    IsDigits (x.text source) ∨ IsSlot (x.text source) := by
  cases x with
  | digits text => exact Or.inl hx
  | legacy name =>
    exact Or.inr ⟨_, (hnames name hx).isTag, (hnames name hx).legacyPlaceholder_eq⟩
  | hashed name => exact Or.inr (isSlot_hashedPlaceholder _)

include hhashed

/-- The placeholders of a library are those of its own pieces. -/
theorem IsOver.text_mem_placeholders (hx : x.IsOver names) (hlibrary : library ∈ names) :
    x.text source ∈ Template.placeholders library (some (source library)) ↔
      x.library? = some library := by
  have hplain := hnames library hlibrary
  have hmem : x.text source ∈ Template.placeholders library (some (source library)) ↔
      x.text source = legacyPlaceholder library.toList ∨
        x.text source = hashedPlaceholder (qualifiedName (source library) library) := by
    simp [Template.placeholders]
  cases x with
  | digits text =>
    refine iff_of_false (fun hplaceholder => ?_) (by simp [library?])
    exact (isFramed_of_mem_placeholders _ hplaceholder).not_isDigits hx
  | legacy name =>
    have hname := hnames name hx
    rw [hmem]
    simp [Piece.text, library?, hname.legacyPlaceholder_inj hplain, hname.legacyPlaceholder_ne]
  | hashed name =>
    have hhash : hashedPlaceholder (qualifiedName (source name) name) =
        hashedPlaceholder (qualifiedName (source library) library) ↔ name = library :=
      ⟨hhashed name hx library hlibrary, fun h => by rw [h]⟩
    rw [hmem]
    simp [Piece.text, library?, hhash, (hplain.legacyPlaceholder_ne _).symm]

/-- Linking a library binds its address in its own pieces. -/
theorem link_code (hpieces : ∀ x ∈ pieces, x.IsOver names) (hlibrary : library ∈ names)
    (unit : String) (address : Address) :
    (code source pieces).link unit library (some (source library)) address =
      (.ok (pieces.countP (·.library? = some library)),
        code source (pieces.map (bind library address))) := by
  have hplain := hnames library hlibrary
  have htag : IsTag (legacyTag library.toList) := by
    rw [hplain.legacyTag_eq]
    exact hplain.isTag
  have htexts : ∀ text ∈ pieces.map (Piece.text source), IsDigits text ∨ IsSlot text := by
    rw [List.forall_mem_map]
    exact fun x hx => (hpieces x hx).isDigits_or_isSlot hnames
  have hown (x : Piece) (hx : x ∈ pieces) :=
    (hpieces x hx).text_mem_placeholders hnames hhashed hlibrary
  have hcount : (pieces.map (Piece.text source)).countP
      (· ∈ Template.placeholders library (some (source library))) =
        pieces.countP (·.library? = some library) := by
    rw [List.countP_map]
    exact List.countP_congr fun x hx => by simpa using hown x hx
  have hfill : (pieces.map (Piece.text source)).map
      (fill (Template.placeholders library (some (source library))) address.hex) =
        (pieces.map (bind library address)).map (Piece.text source) := by
    rw [List.map_map, List.map_map]
    refine List.map_congr_left fun x hx => ?_
    by_cases hsame : x.library? = some library
    · simp only [Function.comp_apply, fill, if_pos ((hown x hx).mpr hsame), bind_of_eq hsame]
      rfl
    · simp only [Function.comp_apply, fill, if_neg (mt (hown x hx).mp hsame), bind_of_ne hsame]
  have hoccurs := Template.occursAsPiece_of_mem_placeholders htag htexts (some (source library))
  rw [code, code, List.flatMap_def, List.flatMap_def, Template.link_flatten hoccurs, hcount, hfill]

/-- Linking libraries one after the other binds their addresses in turn. -/
theorem linkAll_code (hpieces : ∀ x ∈ pieces, x.IsOver names) (unit : String)
    {bindings : List Binding}
    (hbindings : ∀ b ∈ bindings, b.library ∈ names ∧ b.source = some (source b.library)) :
    (code source pieces).linkAll unit bindings =
      code source
        (pieces.map fun x => bindings.foldl (fun x b => x.bind b.library b.address) x) := by
  induction bindings generalizing pieces with
  | nil => simp [Template.linkAll]
  | cons b bindings ih =>
    obtain ⟨⟨hlibrary, hsource⟩, hbindings⟩ := List.forall_mem_cons.mp hbindings
    have hbound : ∀ x ∈ pieces.map (bind b.library b.address), x.IsOver names := by
      rw [List.forall_mem_map]
      exact fun x hx => (hpieces x hx).bind _ _
    have hrest := ih hbound hbindings
    rw [Template.linkAll, List.foldl_cons, hsource,
      link_code hnames hhashed hpieces hlibrary unit b.address]
    rw [List.map_map] at hrest
    exact hrest

/-- Linking a library of the set in code over the set returns the number of its pieces and writes
the digits of the address in their place, and nothing else changes. So different libraries can be
linked in either order, and when all of them have been linked, in whatever order, only digits are
left. -/
theorem linked_pieces (hpieces : ∀ x ∈ pieces, x.IsOver names) :
    (∀ library ∈ names, ∀ (unit : String) (address : Address),
      (code source pieces).link unit library (some (source library)) address =
        (.ok (pieces.countP (·.library? = some library)),
          code source (pieces.map (bind library address)))) ∧
    (∀ library ∈ names, ∀ other ∈ names, library ≠ other → ∀ (unit : String) (a b : Address),
      (((code source pieces).link unit library (some (source library)) a).2.link unit other
        (some (source other)) b).2 =
      (((code source pieces).link unit other (some (source other)) b).2.link unit library
        (some (source library)) a).2) ∧
    ∀ (unit : String) (bindings : List Binding),
      (∀ b ∈ bindings, b.library ∈ names ∧ b.source = some (source b.library)) →
      (∀ name ∈ names, ∃ b ∈ bindings, b.library = name) →
      IsDigits ((code source pieces).linkAll unit bindings).text := by
  have hbound (name : String) (a : Address) : ∀ x ∈ pieces.map (bind name a), x.IsOver names := by
    rw [List.forall_mem_map]
    exact fun x hx => (hpieces x hx).bind name a
  refine ⟨fun library hlibrary => link_code hnames hhashed hpieces hlibrary,
    fun library hlibrary other hother hne unit a b => ?_, fun unit bindings hbindings hall => ?_⟩
  · rw [link_code hnames hhashed hpieces hlibrary, link_code hnames hhashed hpieces hother,
      link_code hnames hhashed (hbound library a) hother,
      link_code hnames hhashed (hbound other b) hlibrary, List.map_map, List.map_map]
    exact congrArg (fun f => code source (pieces.map f)) (funext (bind_comm hne a b))
  · rw [linkAll_code hnames hhashed hpieces unit hbindings]
    intro c hc
    obtain ⟨_, hmem, hc⟩ := List.mem_flatMap.mp hc
    obtain ⟨x, hx, rfl⟩ := List.mem_map.mp hmem
    refine (hpieces x hx).isDigits_foldl_bind (fun name hname => hall name ?_) c hc
    cases x <;> cases hname <;> exact hpieces _ hx

end

/-- The digits between two slots spell the name of a library, but they are no slot of it, and the
slots of the other library stay as they are. -/
theorem linked_pieces_of_feeAndLib :
    let source := fun _ => "a.sol"
    let pieces := [digits ['6', '0'], legacy "fee", digits ['f', 'e', 'e'], hashed "Lib",
      hashed "fee", legacy "Lib", legacy "fee"]
    (IsPlainName "fee" ∧ IsPlainName "Lib" ∧
      hashedPlaceholder (qualifiedName (source "fee") "fee") ≠
        hashedPlaceholder (qualifiedName (source "Lib") "Lib")) ∧
    (∀ (unit : String) (address : Address),
      (code source pieces).link unit "fee" (some (source "fee")) address =
        (.ok 3, code source [digits ['6', '0'], digits address.hex, digits ['f', 'e', 'e'],
          hashed "Lib", digits address.hex, legacy "Lib", digits address.hex])) ∧
    (∀ (unit : String) (a b : Address),
      (((code source pieces).link unit "fee" (some (source "fee")) a).2.link unit "Lib"
        (some (source "Lib")) b).2 =
      (((code source pieces).link unit "Lib" (some (source "Lib")) b).2.link unit "fee"
        (some (source "fee")) a).2) ∧
    ∀ (unit : String) (a b : Address),
      IsDigits ((code source pieces).linkAll unit
        [⟨"Lib", some (source "Lib"), a⟩, ⟨"fee", some (source "fee"), b⟩]).text := by
  intro source pieces
  have hfee : IsPlainName "fee" := ⟨by decide, by decide, by simp, by decide, by decide, by decide⟩
  have hlib : IsPlainName "Lib" := ⟨by decide, by decide, by simp, by decide, by decide, by decide⟩
  have hdiffer : hashedPlaceholder (qualifiedName (source "fee") "fee") ≠
      hashedPlaceholder (qualifiedName (source "Lib") "Lib") := by
    rw [hashedPlaceholder_lib]
    decide +kernel
  let names : Set String := {"fee", "Lib"}
  have hnames : ∀ name ∈ names, IsPlainName name := by simp [names, hfee, hlib]
  have hhashed : ∀ name ∈ names, ∀ other ∈ names,
      hashedPlaceholder (qualifiedName (source name) name) =
        hashedPlaceholder (qualifiedName (source other) other) → name = other := by
    rintro name (rfl | rfl) other (rfl | rfl) hsame
    · rfl
    · exact absurd hsame hdiffer
    · exact absurd hsame.symm hdiffer
    · rfl
  have hpieces : ∀ x ∈ pieces, x.IsOver names := by
    simp [pieces, names, IsOver, IsDigits]
    decide
  obtain ⟨hlink, hcommute, hall⟩ := linked_pieces hnames hhashed hpieces
  exact ⟨⟨hfee, hlib, hdiffer⟩, hlink "fee" (by simp [names]),
    hcommute "fee" (by simp [names]) "Lib" (by simp [names]) (by decide),
    fun unit a b => hall unit _ (by simp [names]) (by simp [names])⟩

end Piece

end Rollout
