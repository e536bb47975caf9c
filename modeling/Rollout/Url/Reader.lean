import Rollout.Url.Host

/-!
# URLs

A URL in its parts, and the one text in which it is written. Web schemes have a host and a path
that begins with a slash; other schemes may have a text in place of a path.

A URL is read from its scheme on; there is no other URL that it could be relative to. Blanks around
it and line ends inside of it are ignored, web schemes take a backslash for a slash, and the dots in
a path are resolved.
-/

namespace Rollout

/-! ## Parts of a URL -/

/-- What follows the host of a URL. -/
inductive Url.Path where
  /-- A text without structure. -/
  | plain (text : List Char)
  | segments (list : List (List Char))
  deriving DecidableEq

/-- A URL in its parts, each of them encoded. -/
structure Url where
  scheme : List Char
  user : List Char
  /-- The password, empty when there is none. -/
  password : List Char
  host? : Option Url.Host
  /-- The number behind the host, where it is not the usual one of the scheme. -/
  portNumber? : Option Nat
  path : Url.Path
  query? : Option (List Char)
  fragment? : Option (List Char)
  deriving DecidableEq

namespace Url

/-- The name and the password before the host. -/
def credentials (u : Url) : List Char :=
  if u.user = [] ∧ u.password = [] then []
  else if u.password = [] then u.user ++ ['@']
  else u.user ++ ':' :: u.password ++ ['@']

/-- What stands between the scheme and the path. -/
def authority (u : Url) : List Char :=
  match u.host? with
  | none => []
  | some host =>
    ['/', '/'] ++ u.credentials ++ host.text ++
      (u.portNumber?.map fun n => ':' :: Decimal.digits n).getD []

/-- The path. Without a host a path must not look like one. -/
def pathText (u : Url) : List Char :=
  match u.path with
  | .plain text => text
  | .segments list =>
    let text := list.flatMap fun segment => '/' :: segment
    if u.host? = none ∧ ['/', '/'].isPrefixOf text then ['/', '.'] ++ text else text

/-- The text of a URL. -/
def text (u : Url) : String :=
  String.ofList <|
    u.scheme ++ ':' :: u.authority ++ u.pathText ++
      (u.query?.map ('?' :: ·)).getD [] ++ (u.fragment?.map ('#' :: ·)).getD []

end Url

end Rollout

namespace Rollout.Url

/-! ## Reading a URL -/

/-- How a scheme is read. -/
inductive Family where
  /-- A scheme of the web, with the number that a host without one stands for. -/
  | web (usualNumber : Nat)
  | file
  | other
  deriving DecidableEq

/-- The family of a scheme. -/
def Family.ofScheme (scheme : List Char) : Family :=
  match String.ofList scheme with
  | "http" | "ws" => .web 80
  | "https" | "wss" => .web 443
  | "ftp" => .web 21
  | "file" => .file
  | _ => .other

/-- A backslash counts as a slash. -/
def Family.takesBackslash (f : Family) : Bool :=
  f ≠ .other

/-- The character separates the segments of a path. -/
def Family.isSlash (f : Family) (c : Char) : Bool :=
  c == '/' || (c == '\\' && f.takesBackslash)

/-- The text without the blanks and controls around it. -/
def cleaned (s : String) : List Char :=
  let isOutside (c : Char) : Bool := c.toNat ≤ 0x20
  ((s.toList.dropWhile isOutside).reverse.dropWhile isOutside).reverse

/-- A character that a text is broken with. It means nothing. -/
def isGap (c : Char) : Bool :=
  c ∈ ['\t', '\n', '\r']

/-- The text without its gaps. -/
def closeGaps (text : List Char) : List Char :=
  text.filter fun c => !isGap c

/-- The text behind the gaps at its front. -/
def skipGaps (text : List Char) : List Char :=
  text.dropWhile isGap

/-- The character may stand in a scheme behind its first letter. -/
def isSchemeRest (c : Char) : Bool :=
  c.isAlphanum || c ∈ ['+', '-', '.']

/-- The scheme in small letters, and the text behind its colon. -/
def scheme? (text : List Char) : Option (List Char × List Char) :=
  let belongs (c : Char) : Bool := isSchemeRest c || isGap c
  let scheme := closeGaps (text.takeWhile belongs)
  match text.dropWhile belongs with
  | ':' :: rest =>
    if scheme.head?.any Char.isAlpha then some (scheme.map Char.toLower, rest) else none
  | _ => none

/-- The fragment of a text and what comes before it. -/
def cutFragment (text : List Char) : List Char × Option (List Char) :=
  match text.dropWhile (· ≠ '#') with
  | _ :: fragment => (text.takeWhile (· ≠ '#'), some (encodePart inFragment (closeGaps fragment)))
  | [] => (text, none)

/-- The query of a text without fragment and what comes before it. -/
def cutQuery (family : Family) (text : List Char) : List Char × Option (List Char) :=
  let encoded := if family.takesBackslash then inWebQuery else inQuery
  match text.dropWhile (· ≠ '?') with
  | _ :: query => (text.takeWhile (· ≠ '?'), some (encodePart encoded (closeGaps query)))
  | [] => (text, none)

/-! ## Paths -/

/-- The segment means the directory itself. -/
def isSingleDot (segment : List Char) : Bool :=
  String.ofList (segment.map Char.toLower) ∈ [".", "%2e"]

/-- The segment means the directory above. -/
def isDoubleDot (segment : List Char) : Bool :=
  String.ofList (segment.map Char.toLower) ∈ ["..", ".%2e", "%2e.", "%2e%2e"]

/-- The segment names a drive, such as the letter `c` and a colon. -/
def isDrive (segment : List Char) : Bool :=
  match segment with
  | [letter, mark] => letter.isAlpha && (mark == ':' || mark == '|')
  | _ => false

/-- The drive and the rest of a segment that has a gap between them. -/
def cutDrive? (segment : List Char) : Option (List Char × List Char) :=
  match skipGaps segment with
  | letter :: behind =>
    match skipGaps behind with
    | ':' :: rest =>
      if letter.isAlpha && rest.head?.any isGap && closeGaps rest ≠ [] then
        some ([letter, ':'], closeGaps rest)
      else none
    | _ => none
  | [] => none

/-- A path whose segments are entered one after the other. -/
structure Trail where
  segments : List (List Char) := []
  /-- A drive was entered first. The drive is on no host. -/
  onDrive : Bool := false

namespace Trail

/-- Leave the last directory, unless it is a drive. -/
def leave (t : Trail) : Trail :=
  if t.segments.getLast?.any isDrive then t else { t with segments := t.segments.dropLast }

/-- Close the path behind a directory. -/
def close (t : Trail) (isLast : Bool) : Trail :=
  if isLast then { t with segments := t.segments ++ [[]] } else t

/-- Enter the first segment of a file's path, which may be a drive. -/
def begin (segment : List Char) : Trail :=
  match cutDrive? segment with
  | some (drive, rest) => { segments := [drive, encodePart inPath rest] }
  | none =>
    let segment := encodePart inPath (closeGaps segment)
    if isDrive segment then { segments := [segment.take 1 ++ [':']], onDrive := true }
    else { segments := [segment] }

/-- Enter one segment; `isLast` says that no slash follows. -/
def enter (family : Family) (t : Trail) (segment : List Char) (isLast : Bool) : Trail :=
  let name := closeGaps segment
  if isDoubleDot name then t.leave.close isLast
  else if isSingleDot name then t.close isLast
  else if family = .file ∧ t.segments = [] then begin segment
  else { t with segments := t.segments ++ [encodePart inPath name] }

/-- Enter segments in order. -/
def enterAll (family : Family) : Trail → List (List Char) → Trail
  | t, [] => t
  | t, [segment] => t.enter family segment true
  | t, segment :: segments => enterAll family (t.enter family segment false) segments

/-- The trail through the segments of a text. A file has no empty segments in front. -/
def ofText (family : Family) (text : List Char) : Trail :=
  let t := enterAll family {} (text.splitOnP family.isSlash)
  if family = .file then
    match t.segments.dropWhile (· = []) with
    | [] => { t with segments := [[]] }
    | segments => { t with segments }
  else t

/-- The trail behind a host, which a slash may introduce. Only outside of the web it may be
missing. -/
def behindHost (family : Family) (text : List Char) : Trail :=
  match skipGaps text with
  | [] => if family = .other then {} else { segments := [[]] }
  | c :: rest => ofText family (if family.isSlash c then rest else text)

end Trail

/-! ## Hosts -/

/-- The authority at the front of a text: all up to the first slash. -/
def cutAuthority (family : Family) (text : List Char) : List Char × List Char :=
  (text.takeWhile fun c => !family.isSlash c, text.dropWhile fun c => !family.isSlash c)

/-- The credentials before the last at sign of an authority, if there is one, and the host with
its number. -/
def cutCredentials (authority : List Char) : Option (List Char) × List Char :=
  if authority.contains '@' then
    let behind := (authority.reverse.takeWhile (· ≠ '@')).reverse
    (some (authority.take (authority.length - behind.length - 1)), behind)
  else (none, authority)

/-- The host up to the colon before its number; colons between brackets belong to the host. -/
def cutHost : (bracketed : Bool) → List Char → List Char × List Char
  | _, [] => ([], [])
  | bracketed, c :: text =>
    if c = ':' ∧ bracketed = false then ([], c :: text)
    else
      let (host, rest) := cutHost (c = '[' || (bracketed && c ≠ ']')) text
      (c :: host, rest)

/-- The number behind a host and what follows it. A missing number and the usual one are left out,
and a number ends with its digits or at a slash of either kind. -/
def readPortNumber? (family : Family) (text : List Char) : Option (Option Nat × List Char) :=
  match text with
  | ':' :: text =>
    let digits := text.takeWhile Char.isDigit
    let rest := text.dropWhile Char.isDigit
    let number := Decimal.value digits
    if 0xffff < number ∨ rest.head?.any (· ≠ '\\') then none
    else if digits = [] ∨ family = .web number then some (none, rest)
    else some (some number, rest)
  | _ => some (none, text)

/-- A host with its number and what follows them. Only outside of the web it may be empty, and then
it has neither written credentials nor a number. -/
def readHost? (family : Family) (hasCredentials : Bool) (text : List Char) :
    Option (Host × Option Nat × List Char) := do
  let (name, rest) := cutHost false text
  let host ← if family = .other then Host.parseOpaque? name else Host.parse? name
  if name = [] ∧ (family ≠ .other ∨ hasCredentials = true ∨ rest ≠ []) then none
  else
    let (number, rest) ← readPortNumber? family rest
    return (host, number, rest)

/-- The part of a URL between its scheme and its query. -/
structure Middle where
  user : List Char
  password : List Char
  host? : Option Host
  portNumber? : Option Nat
  path : Path

/-- A path without a host. -/
def Middle.ofPath (path : Path) : Middle :=
  ⟨[], [], none, none, path⟩

/-- Read what follows the two slashes before an authority; `isWhole` says that neither a query nor a
fragment follows. An at sign in front has a host behind it, unless nothing at all follows. -/
def readAuthority? (family : Family) (text : List Char) (isWhole : Bool) : Option Middle := do
  let (authority, rest) := cutAuthority family text
  let (credentials, hostText) := cutCredentials authority
  if credentials = some [] ∧ hostText = [] ∧ (rest ≠ [] ∨ isWhole = false) then none
  else
    let user := (credentials.getD []).takeWhile (· ≠ ':')
    let password := ((credentials.getD []).dropWhile (· ≠ ':')).drop 1
    let (host, number, behind) ← readHost? family (user ≠ [] || password ≠ []) hostText
    return {
      user := encodePart inCredentials user
      password := encodePart inCredentials password
      host? := some host
      portNumber? := number
      path := .segments (Trail.behindHost family (behind ++ rest)).segments }

/-- The path of a file on a host, which is left out before a drive. -/
def Middle.ofFile (host : Host) (trail : Trail) : Middle :=
  ⟨[], [], some (if trail.onDrive then .name [] else host), none, .segments trail.segments⟩

/-- Read what follows the two slashes before the host of a file. A drive is no host, and behind a
host that is empty or the local one the slash counts as a first segment. -/
def readFileHost? (text : List Char) : Option Middle :=
  let (hostText, path) := cutAuthority .file text
  let name := closeGaps hostText
  if isDrive name then some (.ofFile (.name []) (.ofText .file text))
  else if name = [] then some (.ofFile (.name []) (.ofText .file path))
  else
    (Host.parse? name).map fun host =>
      if host = .name "localhost".toList then .ofFile (.name []) (.ofText .file path)
      else .ofFile host (.behindHost .file path)

/-- Read a file: one slash introduces its path, two slashes a host. -/
def readFile? (text : List Char) : Option Middle :=
  let isSlash : Char → Bool := Family.file.isSlash
  match skipGaps text with
  | c :: rest =>
    if isSlash c then
      match skipGaps rest with
      | d :: behind =>
        if isSlash d then readFileHost? behind else some (.ofFile (.name []) (.ofText .file rest))
      | [] => some (.ofFile (.name []) (.ofText .file rest))
    else some (.ofFile (.name []) (.ofText .file text))
  | [] => some (.ofFile (.name []) (.ofText .file []))

/-- Read what follows the colon of a scheme, up to the query. Only the path of a file tells where
its gaps are. -/
def readMiddle? (family : Family) (text : List Char) (isWhole : Bool) : Option Middle :=
  match family with
  | .web _ => readAuthority? family ((closeGaps text).dropWhile family.isSlash) isWhole
  | .file => readFile? text
  | .other =>
    match closeGaps text with
    | '/' :: '/' :: rest => readAuthority? .other rest isWhole
    | '/' :: rest => some (.ofPath (.segments (Trail.ofText .other rest).segments))
    | text => some (.ofPath (.plain (encodePart isControl text)))

/-- Read a URL. -/
def parse? (s : String) : Option Url := do
  let (scheme, text) ← scheme? (cleaned s)
  let family := Family.ofScheme scheme
  let (text, fragment) := cutFragment text
  let (text, query) := cutQuery family text
  let middle ← readMiddle? family text (query.isNone && fragment.isNone)
  return {
    scheme
    user := middle.user
    password := middle.password
    host? := middle.host?
    portNumber? := middle.portNumber?
    path := middle.path
    query? := query
    fragment? := fragment }

end Rollout.Url
