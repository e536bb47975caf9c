/-!
# Blanks and lists

Settings and signatures are read with blanks around them ignored. Settings use every blank of the
Unicode standard; the argument and signature grammars use only the space and the tab.

Written types, signatures and literals share one form of list: items set apart by commas up to a
closing bracket. Blanks may follow the opening bracket and each comma and precede the closing
bracket, and one comma may stand behind the last item. An item may itself hold lists, but only up
to a fixed depth.
-/

namespace Rollout

/-! ## Blank characters -/

/-- The characters with the Unicode property `White_Space`. -/
def isBlank (c : Char) : Bool :=
  let n := c.toNat
  (0x09 ≤ n && n ≤ 0x0d) || n == 0x20 || n == 0x85 || n == 0xa0 || n == 0x1680 ||
    (0x2000 ≤ n && n ≤ 0x200a) || n == 0x2028 || n == 0x2029 || n == 0x202f || n == 0x205f ||
    n == 0x3000

/-- The blanks inside one line of an argument or a signature. -/
def isInlineBlank (c : Char) : Bool :=
  c == ' ' || c == '\t'

/-- The text without its leading blanks. -/
def trimLeft (text : List Char) : List Char :=
  text.dropWhile isBlank

/-- The text without its trailing blanks. -/
def trimRight (text : List Char) : List Char :=
  (text.reverse.dropWhile isBlank).reverse

/-- The text without the blanks around it. -/
def trim (text : List Char) : List Char :=
  trimRight (trimLeft text)

/-! ## Bracketed lists -/

/-- A reader takes a value from the front of a text and leaves the rest. -/
abbrev TextReader (α : Type) := List Char → Option (α × List Char)

/-- The text after blanks inside a line. -/
def skipInlineBlanks (text : List Char) : List Char :=
  text.dropWhile isInlineBlank

/-- The longest run of characters at the front, at least one of them. -/
def spanSome? (belongs : Char → Bool) (text : List Char) : Option (List Char × List Char) :=
  if text.takeWhile belongs = [] then none
  else some (text.takeWhile belongs, text.dropWhile belongs)

/-- The text behind the closing bracket, which blanks may precede. -/
def closing? (close : Char) (text : List Char) : Option (List Char) :=
  match skipInlineBlanks text with
  | c :: rest => if c = close then some rest else none
  | [] => none

/-- The number of lists inside each other in which an item may stand. -/
def maxNesting : Nat := 79

/-- The reader of an item that stands one list deeper. When no further level is left, no item can
be read there. -/
def deeper {α : Type} (read : (levels : Nat) → TextReader α) : (levels : Nat) → TextReader α
  | 0, _ => none
  | levels + 1, text => read levels text

/-- One item and all that follow it, up to the closing bracket; at most `fuel` of them. -/
def readItems {α : Type} (close : Char) (read : TextReader α) :
    (fuel : Nat) → List Char → Option (List α × List Char)
  | 0, _ => none
  | fuel + 1, text => do
    let (item, rest) ← read text
    match rest with
    | ',' :: rest =>
      match closing? close rest with
      | some rest => return ([item], rest)
      | none => do
        let (items, rest) ← readItems close read fuel (skipInlineBlanks rest)
        return (item :: items, rest)
    | _ => (closing? close rest).map ([item], ·)

/-- The items of a list behind its opening bracket. -/
def readBracketed {α : Type} (close : Char) (read : TextReader α) (text : List Char) :
    Option (List α × List Char) :=
  match closing? close text with
  | some rest => some ([], rest)
  | none => readItems close read (text.length + 1) (skipInlineBlanks text)

end Rollout
