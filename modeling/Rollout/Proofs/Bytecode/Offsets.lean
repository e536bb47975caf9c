import Rollout.Proofs.Bytecode.Linking
import Rollout.Proofs.Outcome

/-!
# Linking at offsets

An address that is written at an offset takes the place of as many characters as it has, in a text
of one byte for each character. It stays there when addresses are written at other offsets and when
placeholders are replaced, because a placeholder begins and ends with an underscore and cannot
reach across the digits of an address.
-/

namespace Rollout

/-- Every character of the text takes one byte. -/
def IsSingleByte (text : List Char) : Prop :=
  ∀ c ∈ text, c.utf8Size = 1

/-- The text with a part of it written over, from a position on. -/
def splice (new text : List Char) (i : ℕ) : List Char :=
  text.take i ++ new ++ text.drop (i + new.length)

variable {text text' part new pattern : List Char} {patterns : List (List Char)}
  {i count start : ℕ} {offsets : List UInt64}

/-- A digit takes one byte. -/
theorem utf8Size_of_isDigit {c : Char} (hc : Hex.isDigit c) : c.utf8Size = 1 := by
  have hrange := Hex.range_of_isDigit hc
  refine Char.utf8Size_eq_one_iff.mpr (UInt32.le_iff_toNat_le.mpr ?_)
  change c.toNat ≤ 127
  omega

/-- Digits take one byte each. -/
theorem IsDigits.isSingleByte {digits : List Char} (hdigits : IsDigits digits) :
    IsSingleByte digits := fun c hc => utf8Size_of_isDigit (hdigits c hc)

/-- A text of single bytes can be cut anywhere. -/
theorem splitAtByte?_eq_some (htext : IsSingleByte text) (hi : i ≤ text.length) :
    splitAtByte? i text = some (text.take i, text.drop i) := by
  induction text generalizing i with
  | nil =>
    obtain rfl : i = 0 := by simpa using hi
    rfl
  | cons c text ih =>
    obtain ⟨hc, htext⟩ := List.forall_mem_cons.mp htext
    cases i with
    | zero => rfl
    | succ i =>
      have hrest : splitAtByte? i text = some (text.take i, text.drop i) :=
        ih htext (by simpa using hi)
      simp [splitAtByte?, hc, hrest]

/-- Inside a text of single bytes, writing over a part is splicing. -/
theorem overwrite?_eq_some (htext : IsSingleByte text) (hnew : new.length = placeholderLength)
    (hi : i + placeholderLength ≤ text.length) :
    overwrite? text i new = some (splice new text i) := by
  have hbefore : splitAtByte? i text = some (text.take i, text.drop i) :=
    splitAtByte?_eq_some htext (by omega)
  have hafter : splitAtByte? placeholderLength (text.drop i) =
      some ((text.drop i).take placeholderLength, text.drop (i + placeholderLength)) := by
    rw [← List.drop_drop]
    refine splitAtByte?_eq_some (fun c hc => htext c (List.mem_of_mem_drop hc)) ?_
    rw [List.length_drop]
    omega
  simp only [overwrite?, hbefore, Option.bind_some, hafter, Option.map_some, splice, hnew]

/-- Splicing keeps the length. -/
theorem length_splice (hi : i + new.length ≤ text.length) :
    (splice new text i).length = text.length := by
  simp only [splice, List.length_append, List.length_take, List.length_drop]
  omega

/-- Splicing keeps a text one of single bytes. -/
theorem IsSingleByte.splice (htext : IsSingleByte text) (hnew : IsSingleByte new) (i : ℕ) :
    IsSingleByte (splice new text i) := by
  intro c hc
  rcases List.mem_append.mp hc with hc | hc
  · rcases List.mem_append.mp hc with hc | hc
    · exact htext c (List.mem_of_mem_take hc)
    · exact hnew c hc
  · exact htext c (List.mem_of_mem_drop hc)

/-- What has been spliced in stands at its position. -/
theorem prefix_drop_splice (hi : i + new.length ≤ text.length) :
    new <+: (splice new text i).drop i := by
  have hlength : (text.take i).length = i := by
    rw [List.length_take]
    omega
  rw [splice, List.append_assoc, List.drop_left' hlength]
  exact List.prefix_append _ _

/-- Splicing changes no character before or behind. -/
theorem getElem?_splice {j : ℕ} (hi : i + new.length ≤ text.length)
    (hj : j < i ∨ i + new.length ≤ j) : (splice new text i)[j]? = text[j]? := by
  have hbefore : (text.take i).length = i := by
    rw [List.length_take]
    omega
  have hmiddle : (text.take i ++ new).length = i + new.length := by
    rw [List.length_append, hbefore]
  rw [splice]
  rcases hj with hj | hj
  · rw [List.append_assoc, List.getElem?_append_left (by omega), List.getElem?_take_of_lt hj]
  · rw [List.getElem?_append_right (by omega), hmiddle, List.getElem?_drop]
    congr 1
    omega

/-- A part stays where it is when something else is spliced in before it or behind it. -/
theorem prefix_drop_splice_of_apart (hi : i + new.length ≤ text.length)
    (hpart : part <+: text.drop start)
    (hapart : start + part.length ≤ i ∨ i + new.length ≤ start) :
    part <+: (splice new text i).drop start := by
  rw [List.prefix_iff_getElem?] at hpart ⊢
  intro j hj
  rw [List.getElem?_drop, getElem?_splice hi (by omega), ← List.getElem?_drop]
  exact hpart j hj

/-- A part without underscores stays in front of a text. -/
theorem Replaces.isPrefix_of (hreplaces : Replaces pattern new text text' count)
    (hframed : IsFramed pattern) (hpart : '_' ∉ part) (hbegins : part <+: text) :
    part <+: text' := by
  induction hreplaces generalizing part with
  | nil => exact hbegins
  | kept _ _ ih =>
    cases part with
    | nil => exact List.nil_prefix
    | cons d part =>
      obtain ⟨rfl, hrest⟩ := List.cons_prefix_cons.mp hbegins
      exact List.cons_prefix_cons.mpr ⟨rfl, ih (List.not_mem_of_not_mem_cons hpart) hrest⟩
  | replaced =>
    cases part with
    | nil => exact List.nil_prefix
    | cons d part =>
      obtain ⟨rest, hrest⟩ := hbegins
      have hhead := congrArg List.head? hrest
      rw [List.head?_append_of_ne_nil _ hframed.ne_nil, hframed.head?_eq] at hhead
      exact absurd (Option.some.inj hhead) (List.ne_of_not_mem_cons hpart).symm

/-- A part without underscores stays where it is, if it is as long as the pattern. -/
theorem Replaces.prefix_drop (hreplaces : Replaces pattern new text text' count)
    (hframed : IsFramed pattern) (hnew : new.length = placeholderLength) (hpart : '_' ∉ part)
    (hlong : placeholderLength ≤ part.length) (hbegins : part <+: text.drop start) :
    part <+: text'.drop start := by
  induction hreplaces generalizing start with
  | nil => exact hbegins
  | kept hc hrest ih =>
    cases start with
    | zero => exact (Replaces.kept hc hrest).isPrefix_of hframed hpart hbegins
    | succ start => exact ih hbegins
  | @replaced text text' _ _ ih =>
    by_cases hinside : start < pattern.length
    · rw [List.drop_append_of_le_length hinside.le] at hbegins
      have hends : pattern.drop start <+: part := by
        refine List.prefix_of_prefix_length_le (List.prefix_append _ _) hbegins ?_
        rw [List.length_drop, hframed.length_eq]
        omega
      have hlast : '_' ∈ pattern.drop start := by
        refine List.mem_of_getLast? ?_
        rw [List.getLast?_drop, if_neg (by omega), hframed.getLast?_eq]
      exact absurd (hends.subset hlast) hpart
    · have hpattern := hframed.length_eq
      have htext : (pattern ++ text).drop start = text.drop (start - placeholderLength) := by
        rw [List.drop_append, List.drop_eq_nil_of_le (by omega), List.nil_append, hpattern]
      have htext' : (new ++ text').drop start = text'.drop (start - placeholderLength) := by
        rw [List.drop_append, List.drop_eq_nil_of_le (by omega), List.nil_append, hnew]
      rw [htext] at hbegins
      rw [htext']
      exact ih hbegins

/-- What holds of all characters of a text and of the new text holds after replacing. -/
theorem Replaces.forall_mem {P : Char → Prop} (hreplaces : Replaces pattern new text text' count)
    (hnew : ∀ c ∈ new, P c) (htext : ∀ c ∈ text, P c) : ∀ c ∈ text', P c := by
  induction hreplaces with
  | nil => exact htext
  | kept _ _ ih =>
    rw [List.forall_mem_cons] at htext ⊢
    exact ⟨htext.1, ih htext.2⟩
  | replaced _ ih =>
    rw [List.forall_mem_append] at htext ⊢
    exact ⟨hnew, ih htext.2⟩

/-- The other text is as long, has one byte for each character if the text has, and holds every part
of a kind where the text holds it. -/
structure Keeps (kind : List Char → ℕ → Prop) (text text' : List Char) : Prop where
  length_eq : text'.length = text.length
  isSingleByte : IsSingleByte text → IsSingleByte text'
  prefix_drop : ∀ part start, kind part start → part <+: text.drop start → part <+: text'.drop start

namespace Keeps

variable {kind other : List Char → ℕ → Prop}

/-- Every text keeps what it holds. -/
theorem refl (kind : List Char → ℕ → Prop) (text : List Char) : Keeps kind text text :=
  ⟨rfl, id, fun _ _ _ => id⟩

/-- What is kept twice is kept. -/
theorem trans {text'' : List Char} (hfirst : Keeps kind text text')
    (hsecond : Keeps kind text' text'') : Keeps kind text text'' where
  length_eq := hsecond.length_eq.trans hfirst.length_eq
  isSingleByte htext := hsecond.isSingleByte (hfirst.isSingleByte htext)
  prefix_drop part start hkind hbegins :=
    hsecond.prefix_drop part start hkind (hfirst.prefix_drop part start hkind hbegins)

/-- What is kept of a kind is kept of a narrower one. -/
theorem mono (hkeeps : Keeps kind text text')
    (hother : ∀ part start, other part start → kind part start) : Keeps other text text' where
  length_eq := hkeeps.length_eq
  isSingleByte := hkeeps.isSingleByte
  prefix_drop part start hkind := hkeeps.prefix_drop part start (hother part start hkind)

end Keeps

section

variable (hnew : IsDigits new) (hlength : new.length = placeholderLength)

include hnew hlength

/-- Replacing placeholders by an address keeps the parts without underscores that are as long. -/
theorem keeps_replacePatterns (hframed : ∀ pattern ∈ patterns, IsFramed pattern)
    (text : List Char) : Keeps (fun part _ => '_' ∉ part ∧ placeholderLength ≤ part.length) text
      (Template.replacePatterns new patterns text).1 := by
  induction patterns generalizing text with
  | nil => exact Keeps.refl _ text
  | cons pattern patterns ih =>
    obtain ⟨hpattern, hframed⟩ := List.forall_mem_cons.mp hframed
    have hreplaces := replaces_replaceAll hpattern.ne_nil new text
    refine Keeps.trans ⟨?_, ?_, ?_⟩ (ih hframed (replaceAll pattern new text).1)
    · exact hreplaces.length_eq (hlength.trans hpattern.length_eq.symm)
    · exact hreplaces.forall_mem hnew.isSingleByte
    · rintro part start ⟨hpart, hlong⟩ hbegins
      exact hreplaces.prefix_drop hpattern hlength hpart hlong hbegins

/-- Writing an address inside a text of single bytes is splicing. -/
theorem writeOffsets_eq (htext : IsSingleByte text)
    (hrange : ∀ offset ∈ offsets, 2 * offset.toNat + placeholderLength ≤ text.length) :
    Template.writeOffsets new offsets text =
      (offsets.foldl (fun text offset => splice new text (2 * offset.toNat)) text, true) := by
  induction offsets generalizing text with
  | nil => rfl
  | cons offset offsets ih =>
    obtain ⟨hfirst, hrange⟩ := List.forall_mem_cons.mp hrange
    have hover := overwrite?_eq_some htext hlength hfirst
    rw [← hlength] at hfirst
    have hrest := ih (htext.splice hnew.isSingleByte (2 * offset.toNat)) (by
      rwa [length_splice hfirst])
    simp only [Template.writeOffsets, hover, hrest, List.foldl_cons]

/-- Splices keep the parts that lie before or behind all of them. -/
theorem keeps_foldl_splice
    (hrange : ∀ offset ∈ offsets, 2 * offset.toNat + placeholderLength ≤ text.length) :
    Keeps (fun part start => ∀ offset ∈ offsets, start + part.length ≤ 2 * offset.toNat ∨
        2 * offset.toNat + placeholderLength ≤ start) text
      (offsets.foldl (fun text offset => splice new text (2 * offset.toNat)) text) := by
  induction offsets generalizing text with
  | nil => exact Keeps.refl _ text
  | cons offset offsets ih =>
    obtain ⟨hfirst, hrange⟩ := List.forall_mem_cons.mp hrange
    rw [← hlength] at hfirst
    have hrange : ∀ other ∈ offsets, 2 * other.toNat + placeholderLength ≤
        (splice new text (2 * offset.toNat)).length := by
      rwa [length_splice hfirst]
    refine Keeps.trans ⟨length_splice hfirst, fun htext => htext.splice hnew.isSingleByte _, ?_⟩
      ((ih hrange).mono fun part start hapart => (List.forall_mem_cons.mp hapart).2)
    intro part start hapart hbegins
    have hside := (List.forall_mem_cons.mp hapart).1
    rw [← hlength] at hside
    exact prefix_drop_splice_of_apart hfirst hbegins hside

end

/-- Two offsets are at least as far apart as an address is long. -/
def FarApart (x y : UInt64) : Prop :=
  x.toNat + 20 ≤ y.toNat ∨ y.toNat + 20 ≤ x.toNat

/-- An address is held at each of the offsets, if they lie apart. -/
theorem prefix_drop_foldl_splice (address : Address)
    (hrange : ∀ offset ∈ offsets, 2 * offset.toNat + placeholderLength ≤ text.length)
    (hapart : offsets.Pairwise FarApart) :
    ∀ offset ∈ offsets, address.hex <+: (offsets.foldl
      (fun text offset => splice address.hex text (2 * offset.toNat)) text).drop
        (2 * offset.toNat) := by
  have hlength : address.hex.length = placeholderLength := FixedBytes.length_hex address
  induction offsets generalizing text with
  | nil => simp
  | cons first offsets ih =>
    obtain ⟨hfirst, hrange⟩ := List.forall_mem_cons.mp hrange
    obtain ⟨hsides, hapart⟩ := List.pairwise_cons.mp hapart
    rw [← hlength] at hfirst
    have hrange : ∀ offset ∈ offsets, 2 * offset.toNat + placeholderLength ≤
        (splice address.hex text (2 * first.toNat)).length := by
      rwa [length_splice hfirst]
    intro offset hoffset
    rcases List.mem_cons.mp hoffset with rfl | hoffset
    · refine (keeps_foldl_splice (isDigits_hex address) hlength hrange).prefix_drop _ _
        (fun other hother => ?_) (prefix_drop_splice hfirst)
      have hside := hsides other hother
      simp only [FarApart, placeholderLength] at hside hlength ⊢
      omega
    · exact ih hrange hapart offset hoffset

namespace Template

variable {t : Template} {library unit : String} {source : Option String} {address : Address}

/-- The offsets of a library, none of which is out of range. -/
def InRange (t : Template) (library : String) : Prop :=
  ∀ offset ∈ t.offsetsOf library, 2 * offset.toNat + placeholderLength ≤ t.text.length

/-- Offsets in range of a text are in range of one that is as long. -/
theorem InRange.withText (hrange : t.InRange library) (hlength : text.length = t.text.length) :
    InRange { t with text } library := by
  intro offset hoffset
  rw [hlength]
  exact hrange offset hoffset

/-- A part that is as long as an address and has no underscore, at an offset that lies apart from
those of a library. -/
def IsApart (t : Template) (library : String) (part : List Char) (start : ℕ) : Prop :=
  ('_' ∉ part ∧ part.length = placeholderLength) ∧
    ∃ x : UInt64, start = 2 * x.toNat ∧ ∀ offset ∈ t.offsetsOf library, FarApart x offset

/-- Digits that are as many as those of an address are a part of this kind. -/
theorem isApart_of_isDigits {digits : List Char} (hdigits : IsDigits digits)
    (hlength : digits.length = placeholderLength) {x : UInt64}
    (hfar : ∀ offset ∈ t.offsetsOf library, FarApart x offset) :
    t.IsApart library digits (2 * x.toNat) :=
  ⟨⟨fun hmem => hdigits.ne_underscore hmem rfl, hlength⟩, x, rfl, hfar⟩

/-- Linking a library whose offsets are in range is no failure. It writes the address at all of them
if they lie apart, and keeps the parts that lie apart from them. -/
theorem link_eq_ok (htext : IsSingleByte t.text) (hrange : t.InRange library) (unit : String)
    (source : Option String) (address : Address) :
    ∃ count text, t.link unit library source address = (.ok count, { t with text }) ∧
      ((t.offsetsOf library).Pairwise FarApart →
        ∀ offset ∈ t.offsetsOf library, address.hex <+: text.drop (2 * offset.toNat)) ∧
      Keeps (t.IsApart library) t.text text := by
  have hdigits : IsDigits address.hex := isDigits_hex address
  have hlength : address.hex.length = placeholderLength := FixedBytes.length_hex address
  have hwritten := writeOffsets_eq hdigits hlength htext hrange
  have hframed : ∀ pattern ∈ placeholders library source, IsFramed pattern :=
    isFramed_of_mem_placeholders
  have hpatterns := keeps_replacePatterns hdigits hlength hframed
  refine ⟨_, _, by simp only [link, hwritten]; rfl, fun hapart offset hoffset => ?_,
    ((keeps_foldl_splice hdigits hlength hrange).mono ?_).trans ((hpatterns _).mono ?_)⟩
  · exact (hpatterns _).prefix_drop _ _ ⟨fun hmem => hdigits.ne_underscore hmem rfl, hlength.ge⟩
      (prefix_drop_foldl_splice address hrange hapart offset hoffset)
  · rintro part start ⟨⟨-, hpart⟩, x, rfl, hfar⟩ offset hoffset
    have hside := hfar offset hoffset
    simp only [FarApart, placeholderLength] at hside hpart ⊢
    omega
  · rintro part start ⟨⟨hplain, hpart⟩, -⟩
    exact ⟨hplain, hpart.ge⟩

/-- Linking libraries whose offsets are in range keeps the parts that lie apart from all of them. -/
theorem linkAll_eq (unit : String) {bindings : List Binding} (htext : IsSingleByte t.text)
    (hrange : ∀ b ∈ bindings, t.InRange b.library) :
    ∃ text, t.linkAll unit bindings = { t with text } ∧
      Keeps (fun part start => ∀ b ∈ bindings, t.IsApart b.library part start) t.text text := by
  induction bindings generalizing t with
  | nil => exact ⟨t.text, rfl, Keeps.refl _ _⟩
  | cons b bindings ih =>
    obtain ⟨hfirst, hrange⟩ := List.forall_mem_cons.mp hrange
    obtain ⟨count, text, hlink, -, hkeeps⟩ := link_eq_ok htext hfirst unit b.source b.address
    have hrange : ∀ b ∈ bindings, InRange { t with text } b.library :=
      fun b hb => (hrange b hb).withText hkeeps.length_eq
    obtain ⟨text', hlinked, hkept⟩ := ih (hkeeps.isSingleByte htext) hrange
    refine ⟨text', ?_, Keeps.trans (hkeeps.mono ?_) (hkept.mono ?_)⟩
    · rw [linkAll, List.foldl_cons, hlink]
      exact hlinked
    · exact fun part start hapart => (List.forall_mem_cons.mp hapart).1
    · exact fun part start hapart => (List.forall_mem_cons.mp hapart).2

end Template

namespace Hex

/-- The digits behind a number of bytes spell the rest of the bytes. -/
theorem decode?_drop {bytes : List UInt8} (hdecode : decode? text = some bytes) (n : ℕ) :
    decode? (text.drop (2 * n)) = some (bytes.drop n) := by
  induction n generalizing text bytes with
  | zero => exact hdecode
  | succ n ih =>
    match text with
    | [] =>
      cases hdecode
      rfl
    | [_] => cases hdecode
    | high :: low :: rest =>
      simp only [decode?, Option.bind_eq_bind, Option.bind_eq_some_iff, Option.pure_def,
        Option.some.injEq] at hdecode
      obtain ⟨h, -, l, -, bytes, hrest, rfl⟩ := hdecode
      exact ih hrest

/-- A text that begins with written bytes spells them first. -/
theorem prefix_of_decode?_append {written bytes : List UInt8} {rest : List Char}
    (hdecode : decode? (encode written ++ rest) = some bytes) : written <+: bytes := by
  induction written generalizing bytes with
  | nil => exact List.nil_prefix
  | cons byte written ih =>
    have high : byte.toNat / 16 < 16 := by have := byte.toNat_lt; omega
    have low : byte.toNat % 16 < 16 := Nat.mod_lt _ (by decide)
    have whole : 16 * (byte.toNat / 16) + byte.toNat % 16 = byte.toNat := Nat.div_add_mod _ _
    simp only [encode_cons, ofByte, List.cons_append, List.nil_append, decode?,
      digit?_digitChar high, digit?_digitChar low, Option.bind_eq_bind, Option.bind_some,
      Option.bind_eq_some_iff, Option.pure_def, whole, UInt8.ofNat_toNat,
      Option.some.injEq] at hdecode
    obtain ⟨bytes, hrest, rfl⟩ := hdecode
    exact List.cons_prefix_cons.mpr ⟨rfl, ih hrest⟩

end Hex

/-- The code that is taken from a template is spelled by its text. -/
theorem Template.decode?_of_toBytes {t : Template} {unit : String} {code : List UInt8}
    (hcode : t.toBytes unit = .ok code) : Hex.decode? t.text = some code := by
  unfold toBytes at hcode
  split at hcode
  · cases hcode
  · have hdecoded := mapError_eq_ok.mp hcode
    unfold Hex.decode at hdecoded
    split at hdecoded
    · rename_i bytes hbytes
      rw [hbytes, Except.ok.inj hdecoded]
    · cases hdecoded

/-- The bytes of an address stand in the code where its digits stand in the text. -/
theorem Template.prefix_drop_of_toBytes {t : Template} {unit : String} {code : List UInt8}
    (hcode : t.toBytes unit = .ok code) {address : Address}
    (hbegins : address.hex <+: t.text.drop (2 * start)) : address.bytes <+: code.drop start := by
  obtain ⟨rest, hrest⟩ := hbegins
  have hdrop := Hex.decode?_drop (decode?_of_toBytes hcode) start
  rw [← hrest] at hdrop
  exact Hex.prefix_of_decode?_append hdrop

end Rollout
