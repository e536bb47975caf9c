import Rollout.Proofs.Artifact.LinkPositions
import Rollout.Proofs.Bytecode.InPlace
import Rollout.Proofs.Address

/-!
# Linked artifacts

The offsets of an artifact are positions in its code before anything is linked. They are right for
as long as the code is linked, because no link moves a character: the text of an artifact keeps its
length and its kind of characters, and every byte of the code that is taken in the end stands where
two characters of the text stood at the start.
-/

namespace Rollout

/-- What is written at a place and does not reach into a later place can be read there. -/
theorem Overwritten.prefix_drop {new text text' : List Char} {places before after : List ℕ}
    {place : ℕ} (hover : Overwritten new places text text')
    (hlength : new.length = placeholderLength) (hplaces : places = before ++ place :: after)
    (hapart : ∀ later ∈ after, Apart place later) : new <+: text'.drop place := by
  rw [List.prefix_iff_getElem?]
  intro j hj
  have hcovers : Covers place (place + j) := ⟨by omega, by omega⟩
  rw [List.getElem?_drop, hover.written before place after (place + j) hplaces hcovers,
    Nat.add_sub_cancel_left, List.getElem?_eq_getElem hj]
  intro later hlater hcovered
  have hside := hapart later hlater
  simp only [Apart, Covers] at hside hcovers hcovered
  omega

/-- The text of a template has two characters for each byte of its code. -/
theorem Template.length_of_toBytes {t : Template} {unit : String} {code : List UInt8}
    (hcode : t.toBytes unit = .ok code) : t.text.length = 2 * code.length := by
  have hspelled := Hex.decode?_eq_some.mp (decode?_of_toBytes hcode)
  simpa using congrArg List.length hspelled

namespace Artifact

variable {name library : String} {document : Json} {a : Artifact} {t : Template}
  {bindings : List Binding}

/-- A digit is a character of code. -/
theorem isCodeCharacter_of_isDigit {c : Char} (hc : Hex.isDigit c) : isCodeCharacter c := by
  have hrange := Hex.range_of_isDigit hc
  have halphanum : c.isAlphanum = true := isAlphanum_iff_range.mpr (by omega)
  simp only [isCodeCharacter, halphanum, Bool.true_or]

/-- However the code of an artifact has been linked, failures included, its text has kept its length,
has only characters of code and holds what it held at the start wherever no address of a linked
library belongs. A library whose offsets were in range at the start can still be linked, and its
address then stands at each of its offsets that no later one of them comes near, in the text as in
the bytes of the code. These bytes are half as many as the characters of the text at the start, and
each of them is spelled by the two characters at twice its position. -/
theorem linked_in_place (hread : ofJson name document = .ok a)
    (hlinked : a.bytecode.Linked bindings t) :
    t.text.length = a.bytecode.text.length ∧
    (∀ c ∈ t.text, isCodeCharacter c) ∧
    t.references = a.bytecode.references ∧
    (∀ i, (∀ b ∈ bindings, ∀ place, a.bytecode.IsPlaceOf b.library b.source place →
      ¬ Covers place i) → t.text[i]? = a.bytecode.text[i]?) ∧
    (∀ library, a.bytecode.InRange library →
      ∀ (unit : String) (source : Option String) (address : Address),
        ∃ count t', t.link unit library source address = (.ok count, t') ∧
          ∀ before offset after, a.bytecode.offsetsOf library = before ++ offset :: after →
            (∀ later ∈ after, FarApart offset later) →
            address.hex <+: t'.text.drop (2 * offset.toNat) ∧
            ∀ code, t'.toBytes unit = .ok code → address.bytes <+: code.drop offset.toNat) ∧
    ∀ unit code, t.toBytes unit = .ok code →
      2 * code.length = a.bytecode.text.length ∧
      t.text.map Hex.digit? = (Hex.encode code).map Hex.digit? := by
  obtain ⟨-, hcharacters⟩ := isCodeCharacter_of_ofJson hread
  have htext : IsSingleByte a.bytecode.text := fun c hc =>
    utf8Size_of_isCodeCharacter (hcharacters c hc)
  have hplace := hlinked.inPlace htext
  refine ⟨hplace.length_eq,
    hplace.forall_mem _ (fun c hc => isCodeCharacter_of_isDigit hc) hcharacters,
    hplace.references_eq, hplace.getElem?_eq, fun library hrange unit source address => ?_,
    fun unit code hcode => ⟨?_, Hex.decode?_eq_some.mp (Template.decode?_of_toBytes hcode)⟩⟩
  · have hsingle := hplace.isSingleByte htext
    obtain ⟨count, text, hlink, -⟩ :=
      Template.link_eq_ok hsingle (hplace.inRange hrange) unit source address
    refine ⟨count, _, hlink, fun before offset after hoffsets hapart => ?_⟩
    have hholds := Template.Holds.of_link_eq_ok hsingle hlink
    have hplaces : (t.offsetsOf library).map (2 * ·.toNat) =
        before.map (2 * ·.toNat) ++ 2 * offset.toNat :: after.map (2 * ·.toNat) := by
      rw [hplace.offsetsOf_eq, hoffsets, List.map_append, List.map_cons]
    have hbegins := hholds.overwritten.prefix_drop (FixedBytes.length_hex address) hplaces
      (List.forall_mem_map.mpr fun later hlater => (hapart later hlater).apart)
    exact ⟨hbegins, fun code hcode => Template.prefix_drop_of_toBytes hcode hbegins⟩
  · rw [← Template.length_of_toBytes hcode, hplace.length_eq]

/-- Code with an offset of `Math`, an offset of `Far` that is out of range and a placeholder of
`Lib`. -/
def mixed : Json :=
  .object [("bytecode", .object [
    ("object", .string (String.ofList
      (List.replicate 40 '0' ++ legacyPlaceholder "Lib".toList))),
    ("linkReferences", .object [
      ("m.sol", .object [("Far", onePosition 30), ("Math", onePosition 0)])])])]

set_option maxRecDepth 4000 in
/-- A link that fails, one of a name beyond the basic characters and one of a placeholder leave the
offset of `Math` where it was. -/
theorem linked_in_place_of_mixed :
    ∃ a t, ofJson "App" mixed = .ok a ∧
      a.bytecode.Linked [⟨"Far", none, .repeating 9⟩, ⟨"Löb", none, .repeating 9⟩,
        ⟨"Lib", none, .repeating 8⟩] t ∧
      (a.bytecode.link "App" "Far" none (.repeating 9)).1 =
        .error (.offsetOutOfRange "App" "Far") ∧
      t.text.length = 80 ∧
      ∃ count t' code, t.link "App" "Math" none (.repeating 7) = (.ok count, t') ∧
        t'.toBytes "App" = .ok code ∧ (Address.repeating 7).bytes <+: code ∧
        2 * code.length = 80 := by
  obtain ⟨a, far, t, t', code, hread, hlength, hoffsets, hfar, ht, hlink, hcode⟩ :
      ∃ a far t t' code, ofJson "App" mixed = .ok a ∧ a.bytecode.text.length = 80 ∧
        a.bytecode.offsetsOf "Math" = [0] ∧
        a.bytecode.link "App" "Far" none (.repeating 9) =
          (.error (.offsetOutOfRange "App" "Far"), far) ∧
        ((far.link "App" "Löb" none (.repeating 9)).2.link "App" "Lib" none (.repeating 8)).2 = t ∧
        t.link "App" "Math" none (.repeating 7) = (.ok 1, t') ∧ t'.toBytes "App" = .ok code :=
    ⟨_, _, _, _, _, rfl, rfl, rfl, rfl, rfl, rfl, rfl⟩
  let calls : List Binding :=
    [⟨"Far", none, .repeating 9⟩, ⟨"Löb", none, .repeating 9⟩, ⟨"Lib", none, .repeating 8⟩]
  have hlinked : a.bytecode.Linked calls t := by
    rw [← ht]
    exact ((Template.Linked.nil.of_link hfar).concat "App" ⟨"Löb", none, .repeating 9⟩).concat "App"
      ⟨"Lib", none, .repeating 8⟩
  have hlast := hlinked.of_link hlink
  have hrange : a.bytecode.InRange "Math" := by
    intro offset hoffset
    rw [hoffsets, List.mem_singleton] at hoffset
    rw [hlength, hoffset]
    decide
  obtain ⟨htext, -, -, -, hstays, -⟩ := linked_in_place hread hlinked
  obtain ⟨-, -, -, -, -, hbytes⟩ := linked_in_place hread hlast
  obtain ⟨count, t'', hlink', hplaces⟩ := hstays "Math" hrange "App" none (.repeating 7)
  obtain ⟨-, rfl⟩ := Prod.mk.inj (hlink.symm.trans hlink')
  have hbegins := (hplaces [] 0 [] hoffsets (by simp)).2 code hcode
  exact ⟨a, t, hread, hlinked, by rw [hfar], htext.trans hlength, 1, t', code, hlink, hcode,
    hbegins, (hbytes "App" code hcode).1.trans hlength⟩

end Artifact

end Rollout
