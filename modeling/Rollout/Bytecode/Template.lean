import Rollout.Address

/-!
# Code with open places

Code that uses a library holds forty characters in place of the twenty bytes of its address. The
older form spells the library's name between underscores; the newer one a part of the hash of its
qualified name.

A template is the hexadecimal text of creation code in which the addresses of libraries are still
open. Linking writes an address at the listed offsets of a library and then over every placeholder
that names it. Code can be taken from a template only when no placeholder is left.
-/

namespace Rollout

/-! ## Library placeholders -/

/-- The characters that stand for one address. -/
def placeholderLength : Nat := 40

/-- The placeholder that spells the first characters of a library's name. -/
def legacyPlaceholder (library : List Char) : List Char :=
  let name := library.take (placeholderLength - 4)
  ['_', '_'] ++ name ++ List.replicate (placeholderLength - 2 - name.length) '_'

/-- The placeholder that holds a part of the hash of a library's qualified name. -/
def hashedPlaceholder (qualifiedName : List Char) : List Char :=
  ['_', '_', '$'] ++ (keccak256 (utf8 qualifiedName)).hex.take 34 ++ ['$', '_', '_']

/-- The qualified name of a library is its source and its name. -/
def qualifiedName (source library : String) : List Char :=
  source.toList ++ ':' :: library.toList

/-- A placeholder is as long as the text of an address. -/
theorem length_legacyPlaceholder (library : List Char) :
    (legacyPlaceholder library).length = placeholderLength := by
  simp only [legacyPlaceholder, placeholderLength, List.length_append, List.length_replicate,
    List.length_take, List.length_cons, List.length_nil]
  omega

/-- A placeholder is as long as the text of an address. -/
theorem length_hashedPlaceholder (name : List Char) :
    (hashedPlaceholder name).length = placeholderLength := by
  simp [hashedPlaceholder, placeholderLength]

/-! ## Bytecode templates -/

/-- Why code cannot be completed. -/
inductive LinkError where
  /-- `unit` needs an address that is not known yet. -/
  | unresolved (unit dependency : String)
  /-- The code of `unit` still holds this placeholder. -/
  | unlinkedPlaceholder (unit placeholder : String)
  | invalidBytecode (unit : String) (cause : Hex.Refusal)
  | offsetOutOfRange (unit library : String)
  deriving DecidableEq, Repr

/-- The wording of a link error. -/
def LinkError.message : LinkError → String
  | .unresolved unit dependency =>
    s!"'{unit}' needs the address of '{dependency}', which is not deployed yet"
  | .unlinkedPlaceholder unit placeholder =>
    s!"bytecode of '{unit}' still contains unlinked placeholder '{placeholder}'"
  | .invalidBytecode unit cause =>
    s!"bytecode of '{unit}' is not valid hex: {cause.message}"
  | .offsetOutOfRange unit library =>
    s!"link reference for '{library}' in '{unit}' is out of range"

/-- The byte offsets in the code at which the address of a library belongs. -/
structure LinkReference where
  library : String
  offsets : List UInt64
  deriving DecidableEq

/-- The text of creation code, and where addresses belong in it. -/
structure Template where
  /-- Hexadecimal digits and placeholders, as they were given. -/
  text : List Char
  references : List LinkReference
  deriving DecidableEq

/-- Cut a text after a number of bytes of its UTF-8 form, which must not fall inside a
character. -/
def splitAtByte? : Nat → List Char → Option (List Char × List Char)
  | 0, text => some ([], text)
  | _ + 1, [] => none
  | n + 1, c :: text =>
    if c.utf8Size ≤ n + 1 then
      (splitAtByte? (n + 1 - c.utf8Size) text).map fun (before, rest) => (c :: before, rest)
    else none

/-- Write over the bytes of a text from an offset on, as many as a placeholder has. -/
def overwrite? (text : List Char) (offset : Nat) (new : List Char) : Option (List Char) :=
  (splitAtByte? offset text).bind fun (before, rest) =>
    (splitAtByte? placeholderLength rest).map fun (_, after) => before ++ new ++ after

/-- Replace the occurrences of a pattern from left to right and count them; `skip` characters of
the occurrence before are still to be passed over. -/
def replaceFrom (pattern new : List Char) : Nat → List Char → List Char × Nat
  | _, [] => ([], 0)
  | skip + 1, _ :: text => replaceFrom pattern new skip text
  | 0, c :: text =>
    if pattern.isPrefixOf (c :: text) then
      let (rest, count) := replaceFrom pattern new (pattern.length - 1) text
      (new ++ rest, count + 1)
    else
      let (rest, count) := replaceFrom pattern new 0 text
      (c :: rest, count)

/-- Replace all occurrences of a pattern, none of which overlaps the one before, and count them. -/
def replaceAll (pattern new text : List Char) : List Char × Nat :=
  replaceFrom pattern new 0 text

/-- The first forty characters from the first two underscores on. -/
def firstPlaceholder? : List Char → Option (List Char)
  | '_' :: '_' :: text => some (('_' :: '_' :: text).take placeholderLength)
  | _ :: text => firstPlaceholder? text
  | [] => none

namespace Template

/-- The text without the marks at its front, however many there are. -/
def dropMarks : List Char → List Char
  | '0' :: 'x' :: text => dropMarks text
  | text => text

/-- The template of a text as a compiler writes it. -/
def ofText (text : List Char) (references : List LinkReference) : Template :=
  ⟨dropMarks text, references⟩

/-- The offsets of the first reference that names a library. -/
def offsetsOf (t : Template) (library : String) : List UInt64 :=
  ((t.references.find? (·.library == library)).map (·.offsets)).getD []

/-- Write an address at each of the offsets in turn. The first offset that is out of range stops
the work, and what was written before it stays. -/
def writeOffsets (address : List Char) : List UInt64 → List Char → List Char × Bool
  | [], text => (text, true)
  | offset :: offsets, text =>
    match overwrite? text (2 * offset.toNat) address with
    | none => (text, false)
    | some text => writeOffsets address offsets text

/-- The placeholders of a library: the hashed one needs the library's source. -/
def placeholders (library : String) (source : Option String) : List (List Char) :=
  legacyPlaceholder library.toList ::
    (source.map fun source => hashedPlaceholder (qualifiedName source library)).toList

/-- Replace several patterns one after the other, and count all occurrences. -/
def replacePatterns (address : List Char) : List (List Char) → List Char → List Char × Nat
  | [], text => (text, 0)
  | pattern :: patterns, text =>
    let (text, count) := replaceAll pattern address text
    let (text, counts) := replacePatterns address patterns text
    (text, count + counts)

/-- Bind the address of a library, on behalf of `unit`. The outcome is the number of places
written; no place at all is no failure. -/
def link (t : Template) (unit library : String) (source : Option String) (address : Address) :
    Except LinkError Nat × Template :=
  let offsets := t.offsetsOf library
  match writeOffsets address.hex offsets t.text with
  | (text, false) => (.error (.offsetOutOfRange unit library), { t with text })
  | (text, true) =>
    let (text, count) := replacePatterns address.hex (placeholders library source) text
    (.ok (offsets.length + count), { t with text })

/-- The code of `unit`, once all its libraries are linked. -/
def toBytes (t : Template) (unit : String) : Except LinkError (List UInt8) :=
  match firstPlaceholder? t.text with
  | some placeholder => .error (.unlinkedPlaceholder unit (String.ofList placeholder))
  | none => (Hex.decode t.text).mapError (.invalidBytecode unit)

end Template

end Rollout
