import Rollout.Text.CodePoints
import Rollout.Text.Bracketed
import Rollout.Text.Numerals

/-!
# Variables and settings files

Settings come from named variables. A value that is not valid text counts as no value.

A settings file holds one setting a line: a key, an equals sign and a value. Values may be quoted,
also over several lines, and may refer to other settings. A setting never replaces a variable that
is already set, and the first faulty line ends the reading.
-/

namespace Rollout

/-! ## The environment -/

/-- The bytes of each variable that is set. -/
abbrev Environment := String → Option (List UInt8)

namespace Environment

/-- No variable is set. -/
def empty : Environment := fun _ => none

/-- The text of a variable. -/
def text? (env : Environment) (key : String) : Option String :=
  (env key).bind ofUtf8?

/-- Set a variable. -/
def set (env : Environment) (key : String) (value : List UInt8) : Environment := fun other =>
  if other = key then some value else env other

end Environment

end Rollout

namespace Rollout.EnvFile

/-! ## Lines -/

/-- Where the end of a line leaves the quoting. -/
inductive Quoting where
  | complete
  | escape
  | single
  | singleEscape
  | double
  | doubleEscape
  /-- After a blank, where a comment may begin. -/
  | blank
  | comment
  deriving DecidableEq

/-- The opening of quotes, escapes and other text outside of quotes. -/
def Quoting.unquoted (c : Char) : Quoting :=
  if c = '\\' then .escape
  else if c = '"' then .double
  else if c = '\x27' then .single
  else .complete

/-- The quoting after one more character. -/
def Quoting.next (q : Quoting) (c : Char) : Quoting :=
  match q with
  | .complete => if isBlank c && c ≠ '\n' && c ≠ '\r' then .blank else unquoted c
  | .blank => unquoted c
  | .escape => .complete
  | .single => if c = '\\' then .singleEscape else if c = '\x27' then .complete else .single
  | .singleEscape => .single
  | .double => if c = '\\' then .doubleEscape else if c = '"' then .complete else .double
  | .doubleEscape => .double
  | .comment => .comment

/-- The quoting at the end of a line, and the line without its comment. -/
def scan : Quoting → List Char → Quoting × List Char
  | q, [] => (q, [])
  | q, c :: text =>
    if q = .blank ∧ c = '#' then (.comment, [])
    else
      let (q, kept) := scan (q.next c) text
      (q, c :: kept)

/-- Cut bytes behind every line end. -/
def cutLines : List UInt8 → List (List UInt8)
  | [] => []
  | byte :: rest =>
    if byte = 0x0a then [byte] :: cutLines rest
    else
      match cutLines rest with
      | [] => [[byte]]
      | line :: lines => (byte :: line) :: lines

/-! ## Values -/

/-- A reference to another setting that is being read. -/
inductive Reference where
  | none
  | plain (name : List Char)
  | braced (name : List Char)
  deriving DecidableEq

/-- A value read up to some character. -/
structure Value where
  output : List Char
  inSingle : Bool
  inDouble : Bool
  escaped : Bool
  /-- A blank came, after which only a comment may follow. -/
  closing : Bool
  /-- A comment has begun. -/
  ended : Bool
  reference : Reference

/-- Nothing read yet. -/
def Value.start : Value :=
  ⟨[], false, false, false, false, false, .none⟩

/-- Take in a character of a reference. The name without braces ends at the first character that is
neither a letter nor a number. -/
def Value.stepReference (lookup : List Char → List Char) (v : Value) (c : Char) : Value :=
  match v.reference with
  | .none => v
  | .plain name =>
    if isAlphanumeric c then { v with reference := .plain (name ++ [c]) }
    else if c = '\x7b' ∧ name = [] then { v with reference := .braced [] }
    else if c = '$' then { v with output := v.output ++ lookup name, reference := .plain [] }
    else { v with output := v.output ++ lookup name ++ [c], reference := .none }
  | .braced name =>
    if c = '\x7d' then { v with output := v.output ++ lookup name, reference := .none }
    else { v with reference := .braced (name ++ [c]) }

/-- Take in a character behind a backslash. -/
def Value.stepEscaped (v : Value) (c : Char) : Option Value :=
  if c ∈ ['\\', '\x27', '"', '$', ' '] then
    some { v with output := v.output ++ [c], escaped := false }
  else if c = 'n' then some { v with output := v.output ++ ['\n'], escaped := false }
  else none

/-- Take in one character. -/
def Value.step (lookup : List Char → List Char) (v : Value) (c : Char) : Option Value :=
  if v.ended then some v
  else if v.closing then
    if c = ' ' ∨ c = '\t' then some v
    else if c = '#' then some { v with ended := true }
    else none
  else if v.escaped then v.stepEscaped c
  else if v.inSingle then
    some (if c = '\x27' then { v with inSingle := false } else { v with output := v.output ++ [c] })
  else if v.reference ≠ .none then some (v.stepReference lookup c)
  else if c = '$' then some { v with reference := .plain [] }
  else if c = '\\' then some { v with escaped := true }
  else if v.inDouble then
    some (if c = '"' then { v with inDouble := false } else { v with output := v.output ++ [c] })
  else if c = '\x27' then some { v with inSingle := true }
  else if c = '"' then some { v with inDouble := true }
  else if c = ' ' ∨ c = '\t' then some { v with closing := true }
  else some { v with output := v.output ++ [c] }

/-- The value at the end of its text; no quote and no brace may be open. -/
def Value.finish (lookup : List Char → List Char) (v : Value) : Option (List Char) :=
  if v.inSingle || v.inDouble then none
  else
    match v.reference with
    | .none => some v.output
    | .plain name => some (v.output ++ lookup name)
    | .braced _ => none

/-- Read a value. -/
def readValue? (lookup : List Char → List Char) (text : List Char) : Option (List Char) :=
  (text.foldlM (Value.step lookup) Value.start).bind (Value.finish lookup)

/-! ## Settings -/

/-- The key at the front of a text. -/
def readKey? : List Char → Option (List Char × List Char)
  | [] => none
  | c :: text =>
    let inKey (c : Char) : Bool := c.isAlphanum || c == '_' || c == '.'
    if c.isAlpha || c == '_' then some (c :: text.takeWhile inKey, text.dropWhile inKey) else none

/-- The text behind an equals sign. -/
def skipEquals? : List Char → Option (List Char)
  | '=' :: text => some text
  | _ => none

/-- The key of a line and the text of its value. The word `export` may come first. -/
def readHead? (line : List Char) : Option (List Char × List Char) := do
  let (key, rest) ← readKey? line
  match skipEquals? (trimLeft rest) with
  | some value => return (key, trimLeft value)
  | none =>
    if key = "export".toList then
      let (key, rest) ← readKey? (trimLeft rest)
      let value ← skipEquals? (trimLeft rest)
      return (key, trimLeft value)
    else none

/-- The text is missing or a comment. -/
def isVoid (text : List Char) : Bool :=
  match text with
  | [] => true
  | c :: _ => c == '#'

/-- What the lines so far have set. -/
structure Loaded where
  env : Environment
  /-- The settings of the file, the last one first. -/
  settings : List (String × String)

/-- The text that a reference stands for: the variable, or else the earlier setting. -/
def Loaded.lookup (l : Loaded) (name : List Char) : List Char :=
  let name := String.ofList name
  (((l.env.text? name).or (l.settings.lookup name)).getD "").toList

/-- Take over a setting, unless its variable is set already. -/
def Loaded.add (l : Loaded) (key : List Char) (value : List Char) : Loaded where
  env :=
    if (l.env.text? (String.ofList key)).isSome then l.env
    else l.env.set (String.ofList key) (utf8 value)
  settings := (String.ofList key, String.ofList value) :: l.settings

/-- Take over a line. A faulty line gives nothing. -/
def Loaded.line? (l : Loaded) (text : List Char) : Option Loaded :=
  let line := trim text
  if isVoid line then some l
  else do
    let (key, value) ← readHead? line
    if isVoid value then return l.add key []
    else
      let value ← readValue? l.lookup value
      return l.add key value

/-- Take over the lines of a file. A quotation that is open continues on the next line. -/
def loadLines : Loaded → (pending : List Char) → Quoting → List (List UInt8) → Loaded
  | l, _, _, [] => l
  | l, pending, q, bytes :: lines =>
    match ofUtf8? bytes with
    | none => l
    | some text =>
      if (trimLeft (pending ++ text.toList)).head? = some '#' then loadLines l [] .complete lines
      else
        let (q, kept) := scan q text.toList
        if q = .complete ∨ q = .comment then
          match l.line? (pending ++ kept) with
          | some l => loadLines l [] .complete lines
          | none => l
        else loadLines l (pending ++ kept) q lines

/-- The content without the mark that may introduce a text file. -/
def dropByteOrderMark : List UInt8 → List UInt8
  | 0xef :: 0xbb :: 0xbf :: rest => rest
  | bytes => bytes

/-- The environment with the settings of a file. -/
def load (env : Environment) (content : List UInt8) : Environment :=
  (loadLines ⟨env, []⟩ [] .complete (cutLines (dropByteOrderMark content))).env

end Rollout.EnvFile
