import Rollout.Abi.Parameter
import Rollout.Address

/-!
# Function signatures

A function is given by a readable signature: its name and parameters, perhaps with visibility,
mutability and results. The selector is the beginning of the hash of the name and the spelled out
parameter types.
-/

namespace Rollout

/-- How a function treats the state. -/
inductive Mutability where
  | nonpayable
  | view
  | pure
  | payable
  deriving DecidableEq, Repr

/-- The name of a mutability. -/
def Mutability.name : Mutability → String
  | .nonpayable => "nonpayable"
  | .view => "view"
  | .pure => "pure"
  | .payable => "payable"

/-- A function that can be called. -/
structure Signature where
  name : String
  inputs : List Parameter
  outputs : List Parameter
  mutability : Mutability

namespace Signature

/-- The text behind a word, if it begins with the word. -/
def skipWord? (word : String) (text : List Char) : Option (List Char) :=
  if word.toList.isPrefixOf text then some (text.drop word.length) else none

/-- An identifier behind blanks; the blanks are taken in any case. -/
def readWord (text : List Char) : Option (List Char) × List Char :=
  match TypeText.readIdentifier? (skipInlineBlanks text) with
  | some (word, rest) => (some word, rest)
  | none => (none, skipInlineBlanks text)

/-- The next word, unless one of the given words comes first and another one may follow it. -/
def readWordAfter (skipped : List String) (text : List Char) : Option (List Char) × List Char :=
  let (word, rest) := readWord text
  if word.any fun word => String.ofList word ∈ skipped then readWord rest else (word, rest)

/-- The name of a parameter behind its place of storage and the word for indexed parameters. -/
def readParameterName (text : List Char) : String × List Char :=
  let (word, rest) := readWordAfter ["storage", "memory", "calldata"] text
  let (name, rest) := if word = some "indexed".toList then readWord rest else (word, rest)
  (String.ofList (name.getD []), rest)

/-- A parameter at the front of a text, its type nested in at most `levels` further lists. -/
def readParameter? (levels : Nat) : TextReader Parameter := fun text =>
  (TypeText.read? levels text).map fun (type, rest) =>
    let (name, rest) := readParameterName rest
    (Parameter.ofTypeText name type, rest)

/-- A list of parameters in parentheses, which is the outermost list. -/
def readParameters? : TextReader (List Parameter)
  | '(' :: text => readBracketed ')' (deeper readParameter? maxNesting) text
  | _ => none

/-- The first of several words that stands behind blanks, with its meaning. Without such a word
nothing is taken. -/
def readOneOf {α : Type} (words : List (String × α)) (text : List Char) : Option α × List Char :=
  match words with
  | [] => (none, text)
  | (word, meaning) :: words =>
    match skipWord? word (skipInlineBlanks text) with
    | some rest => (some meaning, rest)
    | none => readOneOf words text

/-- The words for visibility, which mean nothing further. -/
def visibilities : List (String × Unit) :=
  [("internal", ()), ("external", ()), ("private", ()), ("public", ())]

/-- The words for mutability. -/
def mutabilities : List (String × Mutability) :=
  [("pure", .pure), ("view", .view), ("payable", .payable)]

/-- The results at the end of a signature, behind an optional colon and an optional word. -/
def readResults (text : List Char) : List Parameter × List Char :=
  let text := skipInlineBlanks text
  let text := (skipWord? ":" text).getD text
  let text := skipInlineBlanks ((skipWord? "returns" text).getD text)
  (readParameters? text).getD ([], text)

/-- The signature without the word that may introduce it. The word counts only before a blank. -/
def dropIntroduction (text : List Char) : List Char :=
  match skipWord? "function" text with
  | some (c :: rest) => if isBlank c then trimLeft rest else text
  | _ => text

/-- Read a signature. -/
def parse? (s : String) : Option Signature := do
  let (name, rest) ← TypeText.readName? (dropIntroduction s.toList)
  let (inputs, rest) ← readParameters? (skipInlineBlanks rest)
  let (_, rest) := readOneOf visibilities rest
  let (mutability, rest) := readOneOf mutabilities rest
  let (outputs, rest) := readResults rest
  if skipInlineBlanks rest = [] then
    some { name, inputs, outputs, mutability := mutability.getD .nonpayable }
  else none

/-- The name with the spelled out types of its parameters. -/
def canonical (f : Signature) : String :=
  f.name ++ "(" ++ ",".intercalate (f.inputs.map Parameter.typeText) ++ ")"

/-- The four bytes that select a function in a call. -/
def selector (f : Signature) : FixedBytes 4 :=
  ⟨(keccak256 (utf8 f.canonical.toList)).bytes.take 4, by simp [FixedBytes.length_bytes]⟩

end Signature

end Rollout
