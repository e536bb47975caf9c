import Rollout.Proofs.Json.Literals

/-!
# Documents read back

A document is written with blanks between its parts, which the reader passes over. Reading what was
written gives the same value, whatever the blanks are and whatever shape the reader expects, as
long as every number is plain and no byte string is written as too long an array.
-/

namespace Rollout

namespace Json

/-- Only blanks set items apart, and a colon stands between a key and its value. -/
structure Layout.IsBlank (layout : Layout) : Prop where
  newline_blank : ∀ level, ∀ c ∈ layout.newline level, isSpace c = true
  colon_eq : ∃ blanks, layout.colon = ':' :: blanks ∧ ∀ c ∈ blanks, isSpace c = true

/-- The pretty layout has line ends and spaces. -/
theorem isBlank_pretty : Layout.pretty.IsBlank where
  newline_blank level := by
    simp +contextual [Layout.pretty, isSpace]
  colon_eq := ⟨[' '], rfl, by simp [isSpace]⟩

/-- The compact layout has no blanks at all. -/
theorem isBlank_compact : Layout.compact.IsBlank where
  newline_blank level := by simp [Layout.compact]
  colon_eq := ⟨[], rfl, by simp⟩

/-- A value that a reader of this shape can read back from its text: its numbers are plain, its
strings are readable, and no array has more items than the byte string in whose place it stands. -/
inductive Legible : Shape → Json → Prop
  | null {shape : Shape} : Legible shape .null
  | bool {shape : Shape} (value : Bool) : Legible shape (.bool value)
  | number {shape : Shape} {x : Numeral} (hplain : x.IsPlain) : Legible shape (.number x)
  | string {shape : Shape} (s : String) : Legible shape (.string s)
  | array {shape : Shape} {items : List Json}
      (hlength : ∀ n, shape = .bytes n → items.length ≤ n)
      (hitems : ∀ i item, items[i]? = some item → Legible (shape.item i) item) :
    Legible shape (.array items)
  | object {shape : Shape} {members : List (String × Json)}
      (hmembers : ∀ member ∈ members, Legible (shape.member (some member.1)) member.2) :
    Legible shape (.object members)

/-- A digit or a minus, which the text of a plain number consists of. -/
def IsPlainChar (c : Char) : Prop :=
  c = '-' ∨ c.isDigit = true

/-- The text of a plain number has digits and perhaps a minus. -/
theorem isPlainChar_of_mem_numeral {x : Numeral} (hplain : x.IsPlain) {c : Char}
    (hc : c ∈ numeral x) : IsPlainChar c := by
  rw [Numeral.numeral_eq hplain, List.mem_append] at hc
  rcases hc with hminus | hdigit
  · split at hminus
    · exact Or.inl (List.mem_singleton.mp hminus)
    · cases hminus
  · exact Or.inr (Decimal.isDigit_of_mem_digits hdigit)

/-- A digit or a minus is a character of a number. -/
theorem IsPlainChar.isNumberChar {c : Char} (hc : IsPlainChar c) : isNumberChar c = true := by
  rcases hc with rfl | hdigit
  · rfl
  · simp [Json.isNumberChar, hdigit]

/-- A blank is no character of a number. -/
theorem isNumberChar_of_isSpace {c : Char} (hc : isSpace c = true) : isNumberChar c = false := by
  simp only [isSpace, Bool.or_eq_true, beq_iff_eq] at hc
  rcases hc with ((rfl | rfl) | rfl) | rfl <;> rfl

/-- A character of a number is no blank. -/
theorem IsPlainChar.isSpace {c : Char} (hc : IsPlainChar c) : isSpace c = false := by
  by_contra hblank
  have hnumber := isNumberChar_of_isSpace (Bool.not_eq_false _ ▸ hblank)
  rw [hc.isNumberChar] at hnumber
  cases hnumber

/-- The text of a legible value begins neither with a blank nor with a closing bracket. -/
theorem Legible.exists_write_eq_cons {shape : Shape} {j : Json} (hj : Legible shape j)
    (layout : Layout) (level : ℕ) :
    ∃ c text, write layout level j = c :: text ∧ isSpace c = false ∧ c ≠ ']' := by
  cases hj with
  | null => exact ⟨_, _, rfl, rfl, by decide⟩
  | bool value => cases value <;> exact ⟨_, _, rfl, rfl, by decide⟩
  | @number _ x hplain =>
    have hchars : ∀ c ∈ numeral x, IsPlainChar c := fun c => isPlainChar_of_mem_numeral hplain
    cases hcons : numeral x with
    | nil =>
      have hparse := Numeral.parse?_numeral hplain
      rw [hcons] at hparse
      cases hparse
    | cons c text =>
      rw [hcons, List.forall_mem_cons] at hchars
      refine ⟨c, text, by rw [write, hcons], hchars.1.isSpace, ?_⟩
      rintro rfl
      exact absurd hchars.1 (by unfold IsPlainChar; decide)
  | string s => exact ⟨_, _, rfl, rfl, by decide⟩
  | @array _ items => cases items <;> exact ⟨_, _, rfl, rfl, by decide⟩
  | @object _ members => cases members <;> exact ⟨_, _, rfl, rfl, by decide⟩

namespace Reader

variable {layout : Layout} {frames : List Frame} {shape : Shape}

/-- A reader that passes over blanks and takes every other character as structure. -/
def IsOpen (r : Reader) : Prop :=
  ∀ c, r.step c = r.stepOpen c

/-- Behind the text of a value, the value is complete, or it is a number that may go on. -/
inductive HasRead (frames : List Frame) : Json → Reader → Prop
  | complete (j : Json) : HasRead frames j (accept frames j)
  | number {x : Numeral} {chars : List Char} (hparse : Numeral.parse? chars.reverse = some x) :
    HasRead frames (.number x) ⟨frames, .number chars⟩

/-- Behind a complete value, blanks may stand. -/
theorem isOpen_accept (frames : List Frame) (j : Json) : (accept frames j).IsOpen := by
  intro c
  unfold accept
  split <;> rfl

/-- Blanks are passed over where they may stand. -/
theorem feed_blank {r : Reader} (hopen : r.IsOpen) {blanks : List Char}
    (hblanks : ∀ c ∈ blanks, isSpace c = true) : r.feed blanks = some r := by
  induction blanks with
  | nil => rfl
  | cons c blanks ih =>
    rw [List.forall_mem_cons] at hblanks
    rw [feed_cons, hopen, stepOpen, if_pos hblanks.1, Option.bind_some, ih hblanks.2]

/-- The first character behind a value that cannot go on is taken as if the value were
complete. -/
theorem HasRead.step_eq {j : Json} {r : Reader} (hread : HasRead frames j r) {c : Char}
    (hc : isNumberChar c = false) : r.step c = (accept frames j).stepOpen c := by
  cases hread with
  | complete => exact isOpen_accept frames j c
  | number hparse => simp [step, hc, acceptNumber, hparse]

/-- Behind a value, blanks are passed over and the next mark is taken as structure. -/
theorem HasRead.feed_mark {j : Json} {r : Reader} (hread : HasRead frames j r)
    {blanks : List Char} (hblanks : ∀ c ∈ blanks, isSpace c = true) {c : Char}
    (hnumber : isNumberChar c = false) (hspace : isSpace c = false) (text : List Char) :
    r.feed (blanks ++ c :: text) =
      (stepNeed (accept frames j).frames (accept frames j).need c).bind (·.feed text) := by
  have hmark : (accept frames j).stepOpen c =
      stepNeed (accept frames j).frames (accept frames j).need c := if_neg (by simp [hspace])
  cases blanks with
  | nil => rw [List.nil_append, feed_cons, hread.step_eq hnumber, hmark]
  | cons b blanks =>
    rw [List.forall_mem_cons] at hblanks
    rw [List.cons_append, feed_cons, hread.step_eq (isNumberChar_of_isSpace hblanks.1), stepOpen,
      if_pos hblanks.1, Option.bind_some, feed_append, feed_blank (isOpen_accept _ _) hblanks.2,
      Option.bind_some, feed_cons, isOpen_accept, hmark]

/-- A digit or a minus begins a number. -/
theorem stepValue_of_isPlainChar {c : Char} (hc : IsPlainChar c) :
    stepValue frames c = some ⟨frames, .number [c]⟩ := by
  have hother : c ≠ '"' ∧ c ≠ '[' ∧ c ≠ '\x7b' ∧ c ≠ 't' ∧ c ≠ 'f' ∧ c ≠ 'n' := by
    refine ⟨?_, ?_, ?_, ?_, ?_, ?_⟩ <;> rintro rfl <;>
      exact absurd hc (by unfold IsPlainChar; decide)
  obtain ⟨hquote, hbracket, hbrace, ht, hf, hn⟩ := hother
  unfold IsPlainChar at hc
  simp only [stepValue, hquote, hbracket, hbrace, ht, hf, hn, hc, ↓reduceIte]

/-- A plain number is taken in. -/
theorem exists_feed_numeral {x : Numeral} (hplain : x.IsPlain) :
    ∃ r, feed ⟨frames, .value⟩ (numeral x) = some r ∧ HasRead frames (.number x) r := by
  have hchars : ∀ c ∈ numeral x, IsPlainChar c := fun c => isPlainChar_of_mem_numeral hplain
  have hparse := Numeral.parse?_numeral hplain
  cases hcons : numeral x with
  | nil =>
    rw [hcons] at hparse
    cases hparse
  | cons c text =>
    rw [hcons, List.forall_mem_cons] at hchars
    have hfirst : step ⟨frames, .value⟩ c = some ⟨frames, .number [c]⟩ := by
      rw [← stepValue_of_isPlainChar hchars.1]
      exact if_neg (by simp [hchars.1.isSpace])
    have hrest := @feed_number frames text (fun d hd => (hchars.2 d hd).isNumberChar) [c]
    refine ⟨_, by rw [feed_cons, hfirst, Option.bind_some, hrest], HasRead.number ?_⟩
    simpa [hcons] using hparse

/-- Where a value of this shape is expected, its text is taken in as the value. -/
def Reads (layout : Layout) (shape : Shape) (j : Json) : Prop :=
  ∀ frames level, expected frames = shape →
    ∃ r, feed ⟨frames, .value⟩ (write layout level j) = some r ∧ HasRead frames j r

/-- Behind an opening bracket, the text of a value is taken in as elsewhere. -/
theorem feed_firstItem {s : Shape} {j : Json} (hj : Legible s j) (level : ℕ) :
    feed ⟨frames, .firstItem⟩ (write layout level j) =
      feed ⟨frames, .value⟩ (write layout level j) := by
  obtain ⟨c, text, hwrite, hspace, hbracket⟩ := hj.exists_write_eq_cons layout level
  have hstep : step ⟨frames, .firstItem⟩ c = step ⟨frames, .value⟩ c := by
    simp [step, stepOpen, stepNeed, hspace, hbracket]
  rw [hwrite, feed_cons, feed_cons, hstep]

/-- Blanks and a value behind them are taken in as the value. -/
theorem Reads.exists_feed (hlayout : layout.IsBlank) {j : Json} (hreads : Reads layout shape j)
    (frames : List Frame) (hexpected : expected frames = shape) (level : ℕ) :
    ∃ r, feed ⟨frames, .value⟩ (layout.newline level ++ write layout level j) = some r ∧
      HasRead frames j r := by
  have hopen : IsOpen ⟨frames, .value⟩ := fun _ => rfl
  rw [feed_append, feed_blank hopen (hlayout.newline_blank level)]
  exact hreads frames level hexpected

/-- The items behind the last one that was read are taken in, with the closing bracket. -/
theorem feed_writeItems (hlayout : layout.IsBlank) {items done : List Json} {last : Json}
    {r : Reader} (hread : HasRead (.array shape done :: frames) last r)
    (hlength : ∀ n, shape = .bytes n → done.length + 1 + items.length ≤ n)
    (hitems : ∀ i item, items[i]? = some item →
      Reads layout (shape.item (done.length + 1 + i)) item) (level : ℕ) :
    r.feed (writeItems layout level items) =
      some (accept frames (.array (done.reverse ++ last :: items))) := by
  induction items generalizing done last r with
  | nil =>
    rw [writeItems, hread.feed_mark (hlayout.newline_blank level) rfl rfl]
    simp [accept, stepNeed, stepSeparator]
  | cons item items ih =>
    have hfull : shape.isFull (last :: done) = false := by
      cases shape with
      | bytes n =>
        have hn := hlength n rfl
        simp only [List.length_cons] at hn
        simp only [Shape.isFull, List.length_cons, beq_eq_false_iff_ne]
        omega
      | any | list | record => rfl
    have hcomma (text : List Char) : r.feed (',' :: text) =
        feed ⟨.array shape (last :: done) :: frames, .value⟩ text := by
      rw [← List.nil_append (',' :: text), hread.feed_mark (by simp) rfl rfl]
      simp [accept, stepNeed, stepSeparator, hfull]
    obtain ⟨r', hfeed, hread'⟩ := (hitems 0 item rfl).exists_feed hlayout
      (.array shape (last :: done) :: frames) rfl (level + 1)
    have hrest := ih hread'
      (fun n hn => by
        have hn := hlength n hn
        simp only [List.length_cons] at hn ⊢
        omega)
      (fun i item' hi => by
        have hlater := hitems (i + 1) item' (by simpa using hi)
        rwa [Nat.add_comm i 1, ← Nat.add_assoc] at hlater)
    rw [writeItems, List.cons_append, List.cons_append, hcomma, feed_append, hfeed,
      Option.bind_some, hrest, List.reverse_cons, List.append_assoc]
    rfl

/-- Blanks, a key, the colon and a value are taken in as the value of the key. -/
theorem Reads.exists_feed_member (hlayout : layout.IsBlank) {key : String} {j : Json}
    (hreads : Reads layout (shape.member (some key)) j) (frames : List Frame)
    (done : List (Option String × Json)) {need : Need} (hneed : need = .key ∨ need = .firstKey)
    (level : ℕ) :
    ∃ r, feed ⟨.object shape done :: frames, need⟩
        (layout.newline level ++ (quote key.toList ++ (layout.colon ++ write layout level j))) =
          some r ∧
      HasRead (.member shape done (some key) :: frames) j r := by
  have hopen : IsOpen ⟨.object shape done :: frames, need⟩ := by
    intro c
    rcases hneed with rfl | rfl <;> rfl
  have hmark : step ⟨.object shape done :: frames, need⟩ '"' =
      some ⟨.object shape done :: frames, .text true [] .plain⟩ := by
    rcases hneed with rfl | rfl <;> rfl
  have hquote : feed ⟨.object shape done :: frames, need⟩ (quote key.toList) =
      some ⟨.object shape done :: frames, .colon (some key)⟩ := by
    rw [quote, List.cons_append, feed_cons, hmark, Option.bind_some, feed_quote, if_pos rfl]
  obtain ⟨blanks, hcolon, hblanks⟩ := hlayout.colon_eq
  have hcolonmark : step ⟨.object shape done :: frames, .colon (some key)⟩ ':' =
      some ⟨.member shape done (some key) :: frames, .value⟩ := rfl
  have hvalue : IsOpen ⟨.member shape done (some key) :: frames, .value⟩ := fun _ => rfl
  obtain ⟨r, hfeed, hread⟩ := hreads (.member shape done (some key) :: frames) level rfl
  refine ⟨r, ?_, hread⟩
  rw [feed_append, feed_blank hopen (hlayout.newline_blank level), Option.bind_some, feed_append,
    hquote, Option.bind_some, hcolon, List.cons_append, feed_cons, hcolonmark, Option.bind_some,
    feed_append, feed_blank hvalue hblanks, Option.bind_some, hfeed]

/-- The members behind the last one that was read are taken in, with the closing brace. -/
theorem feed_writeMembers (hlayout : layout.IsBlank) {members : List (String × Json)}
    {done : List (Option String × Json)} {key : String} {last : Json} {r : Reader}
    (hread : HasRead (.member shape done (some key) :: frames) last r)
    (hmembers : ∀ member ∈ members, Reads layout (shape.member (some member.1)) member.2)
    (level : ℕ) :
    r.feed (writeMembers layout level members) =
      some (accept frames (ofMembers (done.reverse ++ (some key, last) ::
        members.map fun member => (some member.1, member.2)))) := by
  induction members generalizing done key last r with
  | nil =>
    rw [writeMembers, hread.feed_mark (hlayout.newline_blank level) rfl rfl]
    simp [accept, stepNeed, stepSeparator]
  | cons member members ih =>
    obtain ⟨key', item⟩ := member
    rw [List.forall_mem_cons] at hmembers
    have hcomma (text : List Char) : r.feed (',' :: text) =
        feed ⟨.object shape ((some key, last) :: done) :: frames, .key⟩ text := by
      rw [← List.nil_append (',' :: text), hread.feed_mark (by simp) rfl rfl]
      simp [accept, stepNeed, stepSeparator]
    obtain ⟨r', hfeed, hread'⟩ := hmembers.1.exists_feed_member hlayout frames
      ((some key, last) :: done) (Or.inl rfl) (level + 1)
    have htext : writeMembers layout level ((key', item) :: members) =
        ',' :: ((layout.newline (level + 1) ++ (quote key'.toList ++ (layout.colon ++
          write layout (level + 1) item))) ++ writeMembers layout level members) := by
      simp [writeMembers]
    rw [htext, hcomma, feed_append, hfeed, Option.bind_some, ih hread' hmembers.2,
      List.reverse_cons, List.append_assoc]
    rfl

end Reader

/-- Members with readable keys make an object. -/
theorem ofMembers_map_some (members : List (String × Json)) :
    ofMembers (members.map fun member => (some member.1, member.2)) = .object members := by
  have hkeys : (members.map fun member => (some member.1, member.2)).mapM
      (fun member : Option String × Json => member.1.map (·, member.2)) = some members := by
    induction members with
    | nil => rfl
    | cons member members ih => simp [List.mapM_cons, ih]
  simp only [ofMembers, hkeys]

namespace Reader

variable {layout : Layout} {frames : List Frame} {shape : Shape}

/-- A legible array is taken in. -/
theorem reads_array (hlayout : layout.IsBlank) {items : List Json}
    (hlength : ∀ n, shape = .bytes n → items.length ≤ n)
    (hlegible : ∀ i item, items[i]? = some item → Legible (shape.item i) item)
    (hitems : ∀ i item, items[i]? = some item → Reads layout (shape.item i) item) :
    Reads layout shape (.array items) := by
  intro frames level hexpected
  refine ⟨accept frames (.array items), ?_, HasRead.complete _⟩
  have hbracket : step ⟨frames, .value⟩ '[' =
      some ⟨.array shape [] :: frames, .firstItem⟩ := by
    rw [← hexpected]
    rfl
  cases items with
  | nil => rw [write, feed_cons, hbracket]; rfl
  | cons item items =>
    have hopen : IsOpen ⟨.array shape [] :: frames, .firstItem⟩ := fun _ => rfl
    obtain ⟨r, hfeed, hread⟩ := hitems 0 item rfl (.array shape [] :: frames) (level + 1) rfl
    have hrest := feed_writeItems hlayout hread
      (fun n hn => by simpa [Nat.add_comm] using hlength n hn)
      (fun i item' hi => by
        have hlater := hitems (i + 1) item' (by simpa using hi)
        rwa [Nat.add_comm] at hlater) level
    rw [write, List.cons_append, List.cons_append, feed_cons, hbracket, Option.bind_some,
      List.append_assoc, feed_append, feed_blank hopen (hlayout.newline_blank _),
      Option.bind_some, feed_append, feed_firstItem (hlegible 0 item rfl), hfeed,
      Option.bind_some, hrest]
    rfl

/-- A legible object is taken in. -/
theorem reads_object (hlayout : layout.IsBlank) {members : List (String × Json)}
    (hmembers : ∀ member ∈ members, Reads layout (shape.member (some member.1)) member.2) :
    Reads layout shape (.object members) := by
  intro frames level hexpected
  refine ⟨accept frames (.object members), ?_, HasRead.complete _⟩
  have hbrace : step ⟨frames, .value⟩ '\x7b' =
      some ⟨.object shape [] :: frames, .firstKey⟩ := by
    rw [← hexpected]
    rfl
  cases members with
  | nil => rw [write, feed_cons, hbrace]; rfl
  | cons member members =>
    obtain ⟨key, item⟩ := member
    rw [List.forall_mem_cons] at hmembers
    obtain ⟨r, hfeed, hread⟩ := hmembers.1.exists_feed_member hlayout frames [] (Or.inr rfl)
      (level + 1)
    have htext : write layout level (.object ((key, item) :: members)) =
        '\x7b' :: ((layout.newline (level + 1) ++ (quote key.toList ++ (layout.colon ++
          write layout (level + 1) item))) ++ writeMembers layout level members) := by
      simp [write]
    rw [htext, feed_cons, hbrace, Option.bind_some, feed_append, hfeed, Option.bind_some,
      feed_writeMembers hlayout hread hmembers.2]
    exact congrArg (fun j => some (accept frames j)) (ofMembers_map_some ((key, item) :: members))

end Reader

/-- Where a value is expected, the text of a legible one is taken in as the value. -/
theorem Legible.reads {layout : Layout} (hlayout : layout.IsBlank) {shape : Shape} {j : Json}
    (hj : Legible shape j) : Reader.Reads layout shape j := by
  induction hj with
  | null => exact fun frames level _ => ⟨_, rfl, Reader.HasRead.complete _⟩
  | bool value =>
    cases value <;> exact fun frames level _ => ⟨_, rfl, Reader.HasRead.complete _⟩
  | number hplain =>
    intro frames level _
    rw [write]
    exact Reader.exists_feed_numeral hplain
  | string s =>
    intro frames level _
    have hmark : Reader.step ⟨frames, .value⟩ '"' = some ⟨frames, .text false [] .plain⟩ := rfl
    refine ⟨_, ?_, Reader.HasRead.complete _⟩
    rw [write, quote, List.cons_append, Reader.feed_cons, hmark, Option.bind_some,
      Reader.feed_quote]
    rfl
  | array hlength hlegible ih => exact Reader.reads_array hlayout hlength hlegible ih
  | object _ ih => exact Reader.reads_object hlayout ih

/-- A document is read back from its text, whatever the blanks of its layout are. -/
theorem parseAs?_write {layout : Layout} (hlayout : layout.IsBlank) {shape : Shape} {j : Json}
    (hj : Legible shape j) : parseAs? shape (String.ofList (write layout 0 j)) = some j := by
  obtain ⟨r, hfeed, hread⟩ := hj.reads hlayout [.document shape] 0 rfl
  have hfinish : r.finish = some j := by
    cases hread with
    | complete => rfl
    | number hparse => simp [Reader.finish, hparse]
  rw [parseAs?, String.toList_ofList]
  exact (congrArg (·.bind Reader.finish) hfeed).trans hfinish

/-- A document is read back from its pretty text. -/
theorem parseAs?_pretty {shape : Shape} {j : Json} (hj : Legible shape j) :
    parseAs? shape (pretty j) = some j :=
  parseAs?_write isBlank_pretty hj

/-- A document is read back from its text on one line. -/
theorem parseAs?_compact {shape : Shape} {j : Json} (hj : Legible shape j) :
    parseAs? shape (compact j) = some j :=
  parseAs?_write isBlank_compact hj

end Json

end Rollout
