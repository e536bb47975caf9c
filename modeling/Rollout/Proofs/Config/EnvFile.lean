import Mathlib.Data.List.Infix
import Mathlib.Data.Option.Basic
import Rollout.Config.Environment

/-!
# What a settings file passes on

The values of a settings file may refer to variables, and so a variable can decide the values of
others. The name of a variable with an underscore can only be referred to in braces, and then it
stands in the file. All variables that no reference in the file names can be changed without an
effect on any other variable.
-/

namespace Rollout

/-- A text is written as the bytes that spell it. -/
theorem utf8_of_ofUtf8? {bytes : List UInt8} {text : String} (h : ofUtf8? bytes = some text) :
    utf8 text.toList = bytes := by
  have hstored : (utf8 text.toList).toByteArray = text.toByteArray := text.utf8Encode_toList
  unfold ofUtf8? String.fromUTF8? at h
  split at h
  · cases h
    have hbytes : (utf8 _).toByteArray.data.toList = bytes.toByteArray.data.toList :=
      congrArg (fun b : ByteArray => b.data.toList) hstored
    simpa using hbytes
  · cases h

/-- An underscore is neither a letter nor a number. -/
theorem isAlphanumeric_underscore : isAlphanumeric '_' = false := by
  rw [isAlphanumeric, CodePoints.contains, ← Array.any_toList]
  decide +kernel

/-- A brace is neither a letter nor a number. -/
theorem isAlphanumeric_brace : isAlphanumeric '\x7b' = false := by
  rw [isAlphanumeric, CodePoints.contains, ← Array.any_toList]
  decide +kernel

namespace EnvFile

variable {lookup lookup' : List Char → List Char} {v v' : Value} {c : Char} {done text : List Char}

/-! ## References -/

/-- The text that refers to a name in braces. -/
def mention (name : List Char) : List Char :=
  '$' :: '\x7b' :: name ++ ['\x7d']

/-- Nothing but a reference is being read. -/
structure Value.IsIdle (v : Value) : Prop where
  ended : v.ended = false
  closing : v.closing = false
  escaped : v.escaped = false
  inSingle : v.inSingle = false

/-- A reference that is being read stands at the end of the text so far. -/
inductive Value.Tracks (v : Value) (done : List Char) : Prop
  | none (hreference : v.reference = .none)
  | plain {name : List Char} (hreference : v.reference = .plain name) (hidle : v.IsIdle)
      (hname : ∀ c ∈ name, isAlphanumeric c = true) (hdone : '$' :: name <:+ done)
  | braced {name : List Char} (hreference : v.reference = .braced name) (hidle : v.IsIdle)
      (hdone : '$' :: '\x7b' :: name <:+ done)

/-- While a reference is being read, every character goes to it. -/
theorem Value.IsIdle.step_eq (hidle : v.IsIdle) (hreference : v.reference ≠ .none) :
    v.step lookup c = some (v.stepReference lookup c) := by
  simp [step, hidle.ended, hidle.closing, hidle.escaped, hidle.inSingle, hreference]

/-- An escaped character does not touch the reference. -/
theorem Value.stepEscaped_reference (hstep : v.stepEscaped c = some v') :
    v'.reference = v.reference := by
  unfold stepEscaped at hstep
  split at hstep
  · cases hstep
    rfl
  · split at hstep
    · cases hstep
      rfl
    · cases hstep

/-- A reference begins with a dollar sign, when nothing else is being read. -/
theorem Value.step_of_none (hnone : v.reference = .none) (hstep : v.step lookup c = some v') :
    v'.reference = .none ∨ c = '$' ∧ v'.IsIdle ∧ v'.reference = .plain [] := by
  rw [step] at hstep
  by_cases hended : v.ended = true
  · rw [if_pos hended] at hstep
    cases hstep
    exact Or.inl hnone
  rw [if_neg hended] at hstep
  by_cases hclosing : v.closing = true
  · rw [if_pos hclosing] at hstep
    left
    split at hstep
    · cases hstep
      exact hnone
    · split at hstep
      · cases hstep
        exact hnone
      · cases hstep
  rw [if_neg hclosing] at hstep
  by_cases hescaped : v.escaped = true
  · rw [if_pos hescaped] at hstep
    exact Or.inl ((stepEscaped_reference hstep).trans hnone)
  rw [if_neg hescaped] at hstep
  by_cases hsingle : v.inSingle = true
  · rw [if_pos hsingle] at hstep
    left
    split at hstep <;> cases hstep <;> exact hnone
  rw [if_neg hsingle, if_neg (not_not.mpr hnone)] at hstep
  by_cases hdollar : c = '$'
  · rw [if_pos hdollar] at hstep
    cases hstep
    refine Or.inr ⟨hdollar, ⟨?_, ?_, ?_, ?_⟩, rfl⟩
    · simpa using hended
    · simpa using hclosing
    · simpa using hescaped
    · simpa using hsingle
  rw [if_neg hdollar] at hstep
  left
  repeat' split at hstep
  all_goals
    cases hstep
    exact hnone

/-- Reading on keeps track of the reference. -/
theorem Value.Tracks.step (h : v.Tracks done) (hstep : v.step lookup c = some v') :
    v'.Tracks (done ++ [c]) := by
  have hsuffix {text : List Char} (hdone : text <:+ done) : text ++ [c] <:+ done ++ [c] := by
    obtain ⟨front, rfl⟩ := hdone
    exact ⟨front, by simp⟩
  cases h with
  | none hreference =>
    rcases step_of_none hreference hstep with hnone | ⟨rfl, hidle, hplain⟩
    · exact Tracks.none hnone
    · exact Tracks.plain hplain hidle (by simp) (List.suffix_append done ['$'])
  | @plain name hreference hidle hname hdone =>
    rw [hidle.step_eq (by simp [hreference])] at hstep
    cases hstep
    have hidle' (output : List Char) (reference : Reference) :
        { v with output, reference }.IsIdle :=
      ⟨hidle.ended, hidle.closing, hidle.escaped, hidle.inSingle⟩
    simp only [stepReference, hreference]
    split
    · rename_i hc
      refine Tracks.plain rfl (hidle' _ _) ?_ (hsuffix hdone)
      simpa [or_imp, forall_and, hc] using hname
    · split
      · rename_i hbrace
        obtain ⟨rfl, rfl⟩ := hbrace
        exact Tracks.braced rfl (hidle' _ _) (hsuffix hdone)
      · split
        · rename_i hdollar
          exact Tracks.plain rfl (hidle' _ _) (by simp) (hdollar ▸ List.suffix_append done ['$'])
        · exact Tracks.none rfl
  | @braced name hreference hidle hdone =>
    rw [hidle.step_eq (by simp [hreference])] at hstep
    cases hstep
    simp only [stepReference, hreference]
    split
    · exact Tracks.none rfl
    · exact Tracks.braced rfl ⟨hidle.ended, hidle.closing, hidle.escaped, hidle.inSingle⟩
        (hsuffix hdone)

/-- A name without braces consists of letters and numbers. -/
theorem Value.Tracks.plain_name {name : List Char} (h : v.Tracks done)
    (hreference : v.reference = .plain name) : ∀ c ∈ name, isAlphanumeric c = true := by
  cases h with
  | none hnone => simp [hreference] at hnone
  | plain hplain _ hname _ =>
    cases hreference.symm.trans hplain
    exact hname
  | braced hbraced _ _ => simp [hreference] at hbraced

/-- A name in an open brace stands at the end of the text so far. -/
theorem Value.Tracks.braced_suffix {name : List Char} (h : v.Tracks done)
    (hreference : v.reference = .braced name) : '$' :: '\x7b' :: name <:+ done := by
  cases h with
  | none hnone => simp [hreference] at hnone
  | plain hplain _ _ _ => simp [hreference] at hplain
  | braced hbraced _ hdone =>
    cases hreference.symm.trans hbraced
    exact hdone

/-- One character leads to the same value when the reference that it ends stands for the same. -/
theorem Value.step_congr (hplain : ∀ name, v.reference = .plain name → lookup name = lookup' name)
    (hbraced : ∀ name, v.reference = .braced name → c = '\x7d' → lookup name = lookup' name) :
    v.step lookup c = v.step lookup' c := by
  have hreference : v.stepReference lookup c = v.stepReference lookup' c := by
    unfold stepReference
    cases href : v.reference with
    | none => rfl
    | plain name => simp only [hplain name href]
    | braced name =>
      by_cases hc : c = '\x7d'
      · simp only [hbraced name href hc]
      · simp only [hc, if_false]
  simp only [step, hreference]

/-- A text leads to the same value when all references stand for the same. -/
theorem Value.Tracks.foldlM_step_congr
    (hplain : ∀ name, (∀ c ∈ name, isAlphanumeric c = true) → lookup name = lookup' name)
    (hbraced : ∀ name, mention name <:+: done ++ text → lookup name = lookup' name)
    (h : v.Tracks done) : text.foldlM (Value.step lookup) v = text.foldlM (Value.step lookup') v ∧
      ∀ v', text.foldlM (Value.step lookup) v = some v' → v'.Tracks (done ++ text) := by
  induction text generalizing v done with
  | nil =>
    simp only [List.foldlM_nil, List.append_nil, true_and]
    intro v' hv'
    cases hv'
    exact h
  | cons c text ih =>
    have hstep : v.step lookup c = v.step lookup' c := by
      refine step_congr (fun name hreference => ?_) (fun name hreference hc => ?_)
      · exact hplain name (h.plain_name hreference)
      · obtain ⟨front, hfront⟩ := h.braced_suffix hreference
        refine hbraced name ⟨front, text, ?_⟩
        rw [← hfront, hc]
        simp only [mention, List.cons_append, List.append_assoc, List.nil_append]
    rw [List.foldlM_cons, List.foldlM_cons, ← hstep]
    cases hv : v.step lookup c with
    | none => simp
    | some v₁ =>
      rw [List.append_cons] at hbraced ⊢
      exact ih hbraced (h.step hv)

/-- A value is the same when all its references stand for the same. -/
theorem readValue?_congr
    (hplain : ∀ name, (∀ c ∈ name, isAlphanumeric c = true) → lookup name = lookup' name)
    (hbraced : ∀ name, mention name <:+: text → lookup name = lookup' name) :
    readValue? lookup text = readValue? lookup' text := by
  have hstart : Value.start.Tracks [] := Value.Tracks.none rfl
  have hbraced' : ∀ name, mention name <:+: [] ++ text → lookup name = lookup' name := hbraced
  obtain ⟨hsame, htracks⟩ := hstart.foldlM_step_congr hplain hbraced'
  rw [readValue?, readValue?, ← hsame]
  cases hv : text.foldlM (Value.step lookup) Value.start with
  | none => rfl
  | some v =>
    simp only [Option.bind_some, Value.finish]
    cases htracks v hv with
    | none hreference => simp only [hreference]
    | plain hreference _ hname _ => simp only [hreference, hplain _ hname]
    | braced hreference _ _ => simp only [hreference]

/-- The characters of a name in braces are collected. -/
theorem Value.IsIdle.foldlM_step_braced {name name' : List Char} (hidle : v.IsIdle)
    (hreference : v.reference = .braced name') (hname : '\x7d' ∉ name) :
    name.foldlM (Value.step lookup) v = some { v with reference := .braced (name' ++ name) } := by
  induction name generalizing v name' with
  | nil =>
    rw [List.foldlM_nil, List.append_nil, ← hreference]
    rfl
  | cons c name ih =>
    obtain ⟨hc, hname⟩ := List.ne_and_not_mem_of_not_mem_cons hname
    have hstep : v.step lookup c = some { v with reference := .braced (name' ++ [c]) } := by
      rw [hidle.step_eq (by simp [hreference])]
      simp only [stepReference, hreference, if_neg (Ne.symm hc)]
    have hidle' : { v with reference := .braced (name' ++ [c]) }.IsIdle :=
      ⟨hidle.ended, hidle.closing, hidle.escaped, hidle.inSingle⟩
    rw [List.foldlM_cons, hstep, Option.bind_eq_bind, Option.bind_some, ih hidle' rfl hname,
      List.append_assoc, List.singleton_append]

/-- A name in braces stands for its text. -/
theorem readValue?_mention {name : List Char} (hname : '\x7d' ∉ name) :
    readValue? lookup (mention name) = some (lookup name) := by
  have hidle (reference : Reference) : { Value.start with reference }.IsIdle :=
    ⟨rfl, rfl, rfl, rfl⟩
  have hdollar :
      Value.start.step lookup '$' = some { Value.start with reference := .plain [] } := rfl
  have hbrace : Value.step lookup { Value.start with reference := .plain [] } '\x7b' =
      some { Value.start with reference := .braced [] } := by
    rw [(hidle _).step_eq (by simp)]
    simp [Value.stepReference, isAlphanumeric_brace]
  have hclosed : Value.step lookup { Value.start with reference := .braced name } '\x7d' =
      some { Value.start with output := lookup name } := by
    rw [(hidle _).step_eq (by simp)]
    rfl
  have hread : (mention name).foldlM (Value.step lookup) Value.start =
      some { Value.start with output := lookup name } := by
    rw [mention, List.cons_append, List.cons_append, List.foldlM_cons, hdollar]
    rw [Option.bind_eq_bind, Option.bind_some, List.foldlM_cons, hbrace]
    rw [Option.bind_eq_bind, Option.bind_some, List.foldlM_append,
      (hidle _).foldlM_step_braced rfl hname]
    rw [Option.bind_eq_bind, Option.bind_some, List.foldlM_cons, List.nil_append, hclosed]
    rfl
  rw [readValue?, hread]
  rfl

/-! ## Lines -/

/-- The settings so far are the same, and so are the variables outside of a set. -/
structure Loaded.Agree (hidden : String → Prop) (l l' : Loaded) : Prop where
  env_eq : ∀ key, ¬ hidden key → l.env key = l'.env key
  settings_eq : l.settings = l'.settings

variable {hidden : String → Prop} {l l' : Loaded}

/-- A name outside of the set stands for the same. -/
theorem Loaded.Agree.lookup_eq (h : l.Agree hidden l') {name : List Char}
    (hname : ¬ hidden (String.ofList name)) : l.lookup name = l'.lookup name := by
  simp only [Loaded.lookup, Environment.text?, h.env_eq _ hname, h.settings_eq]

/-- The same setting is taken over in the same way. -/
theorem Loaded.Agree.add (h : l.Agree hidden l') (key value : List Char) :
    (l.add key value).Agree hidden (l'.add key value) := by
  have hadded (l : Loaded) (key' : String) (hne : key' ≠ String.ofList key) :
      (l.add key value).env key' = l.env key' := by
    unfold Loaded.add
    split
    · rfl
    · exact if_neg hne
  refine ⟨fun key' hkey' => ?_, by simp only [Loaded.add, h.settings_eq]⟩
  by_cases heq : key' = String.ofList key
  · subst heq
    have hsame := h.env_eq _ hkey'
    have htext : l.env.text? (String.ofList key) = l'.env.text? (String.ofList key) := by
      rw [Environment.text?, Environment.text?, hsame]
    unfold Loaded.add
    rw [htext]
    split
    · exact hsame
    · simp only [Environment.set, if_true]
  · rw [hadded l key' heq, hadded l' key' heq, h.env_eq key' hkey']

/-- The text of a value stands in its line. -/
theorem infix_of_readHead? {line key value : List Char} (h : readHead? line = some (key, value)) :
    value <:+: line := by
  have hleft (text : List Char) : trimLeft text <:+ text := List.dropWhile_suffix _
  have hkey {text key rest : List Char} (h : readKey? text = some (key, rest)) : rest <:+ text := by
    unfold readKey? at h
    split at h
    · cases h
    · rename_i c text
      dsimp only at h
      split at h
      · cases h
        exact (List.dropWhile_suffix _).trans (List.suffix_cons c text)
      · cases h
  have hequals {text value : List Char} (h : skipEquals? text = some value) : value <:+ text := by
    unfold skipEquals? at h
    split at h
    · cases h
      exact List.suffix_cons '=' _
    · cases h
  refine List.IsSuffix.isInfix ?_
  unfold readHead? at h
  simp only [Option.bind_eq_bind, Option.bind_eq_some_iff, Prod.exists] at h
  obtain ⟨key₁, rest, hfirst, h⟩ := h
  have hrest := (hleft rest).trans (hkey hfirst)
  split at h
  · rename_i value₁ hvalue
    cases h
    exact ((hleft value₁).trans (hequals hvalue)).trans hrest
  · split at h
    · obtain ⟨⟨key₂, rest₂⟩, hsecond, h⟩ := Option.bind_eq_some_iff.mp h
      obtain ⟨value₂, hvalue, h⟩ := Option.bind_eq_some_iff.mp h
      cases h
      exact ((hleft value₂).trans (hequals hvalue)).trans
        (((hleft rest₂).trans (hkey hsecond)).trans hrest)
    · cases h

/-- A line that mentions no variable of the set is taken over in the same way. -/
theorem Loaded.Agree.line? (hnames : ∀ key, hidden key → '_' ∈ key.toList)
    (hfree : ∀ key, hidden key → ¬ mention key.toList <:+: text) (h : l.Agree hidden l') :
    Option.Rel (Loaded.Agree hidden) (l.line? text) (l'.line? text) := by
  have htrim : trim text <:+: text := by
    have hright : trim text <+: trimLeft text := by
      rw [← List.reverse_suffix, trim, trimRight, List.reverse_reverse]
      exact List.dropWhile_suffix _
    exact hright.isInfix.trans (List.dropWhile_suffix _).isInfix
  have hplain : ∀ name, (∀ c ∈ name, isAlphanumeric c = true) → l.lookup name = l'.lookup name := by
    intro name hname
    refine h.lookup_eq fun hhidden => ?_
    have hunderscore := hnames _ hhidden
    rw [String.toList_ofList] at hunderscore
    simpa [isAlphanumeric_underscore] using hname '_' hunderscore
  have hbraced : ∀ name, mention name <:+: text → l.lookup name = l'.lookup name := by
    intro name hmention
    refine h.lookup_eq fun hhidden => hfree _ hhidden ?_
    rwa [String.toList_ofList]
  unfold Loaded.line?
  dsimp only
  split
  · exact Option.Rel.some h
  · cases hhead : readHead? (trim text) with
    | none => exact Option.Rel.none
    | some head =>
      obtain ⟨key, value⟩ := head
      have hvalue : value <:+: text := (infix_of_readHead? hhead).trans htrim
      have hsame : readValue? l.lookup value = readValue? l'.lookup value :=
        readValue?_congr hplain fun name hmention => hbraced name (hmention.trans hvalue)
      simp only [Option.bind_eq_bind, Option.bind_some]
      split
      · exact Option.Rel.some (h.add key [])
      · rw [hsame]
        cases readValue? l'.lookup value with
        | none => exact Option.Rel.none
        | some value => exact Option.Rel.some (h.add key value)

/-- What is kept of a line is its beginning, and all of it unless a comment begins. -/
theorem isPrefix_scan (q : Quoting) (text : List Char) : (scan q text).2 <+: text ∧
    ((scan q text).1 = .comment ∨ (scan q text).2 = text) := by
  induction text generalizing q with
  | nil => exact ⟨List.prefix_rfl, Or.inr rfl⟩
  | cons c text ih =>
    unfold scan
    split
    · exact ⟨⟨c :: text, rfl⟩, Or.inl rfl⟩
    · obtain ⟨hbegins, hkept⟩ := ih (q.next c)
      exact ⟨(List.prefix_cons_inj c).mpr hbegins, hkept.imp_right (congrArg (c :: ·))⟩

/-- A text that stands in another one is written within it. -/
theorem isInfix_utf8 {text text' : List Char} (h : text <:+: text') :
    utf8 text <:+: utf8 text' := by
  obtain ⟨front, back, rfl⟩ := h
  exact ⟨utf8 front, utf8 back, by simp only [utf8_append]⟩

/-- Lines that mention no variable of the set are taken over in the same way. -/
theorem Loaded.Agree.loadLines (hnames : ∀ key, hidden key → '_' ∈ key.toList)
    {pending : List Char} {q : Quoting} {lines : List (List UInt8)}
    (hfree : ∀ key, hidden key →
      ¬ utf8 (mention key.toList) <:+: utf8 pending ++ lines.flatten)
    (h : l.Agree hidden l') :
    (loadLines l pending q lines).Agree hidden (loadLines l' pending q lines) := by
  induction lines generalizing l l' pending q with
  | nil => exact h
  | cons bytes lines ih =>
    unfold EnvFile.loadLines
    cases htext : ofUtf8? bytes with
    | none => exact h
    | some text =>
      have hbytes := utf8_of_ofUtf8? htext
      have hrest : ∀ key, hidden key →
          ¬ utf8 (mention key.toList) <:+: utf8 [] ++ lines.flatten := by
        intro key hhidden hmention
        refine hfree key hhidden (hmention.trans ⟨utf8 pending ++ bytes, [], ?_⟩)
        simp [utf8]
      have hline : ∀ kept, kept <+: text.toList → ∀ key, hidden key →
          ¬ mention key.toList <:+: pending ++ kept := by
        intro kept hkept key hhidden hmention
        have hwhole : pending ++ kept <+: pending ++ text.toList :=
          (List.prefix_append_right_inj pending).mpr hkept
        have hwritten := isInfix_utf8 (hmention.trans hwhole.isInfix)
        rw [utf8_append, hbytes] at hwritten
        refine hfree key hhidden (hwritten.trans ⟨[], lines.flatten, ?_⟩)
        simp
      dsimp only
      split
      · exact ih hrest h
      · obtain ⟨hbegins, hkept⟩ := isPrefix_scan q text.toList
        generalize scan q text.toList = scanned at hbegins hkept ⊢
        obtain ⟨q', kept⟩ := scanned
        dsimp only at hbegins hkept ⊢
        split
        · have hrel := h.line? hnames (hline kept hbegins)
          generalize l.line? (pending ++ kept) = r, l'.line? (pending ++ kept) = r' at hrel ⊢
          cases hrel with
          | none => exact h
          | some hagree => exact ih hrest hagree
        · rename_i hopen
          obtain rfl := hkept.resolve_left fun hcomment => hopen (Or.inr hcomment)
          refine ih (fun key hhidden hmention => hfree key hhidden ?_) h
          rwa [utf8_append, hbytes, List.append_assoc, ← List.flatten_cons] at hmention

/-- Cut lines are the whole content. -/
theorem flatten_cutLines (bytes : List UInt8) : (cutLines bytes).flatten = bytes := by
  induction bytes with
  | nil => rfl
  | cons byte rest ih =>
    unfold cutLines
    split
    · simp [ih]
    · split
      · rename_i hnil
        rw [hnil] at ih
        simp [← ih]
      · rename_i hcons
        rw [hcons] at ih
        simp [← ih]

/-- A settings file that mentions no variable of a set gives all variables outside of the set the
same values, whatever those in the set are. -/
theorem load_congr {env env' : Environment} {content : List UInt8}
    (hnames : ∀ key, hidden key → '_' ∈ key.toList)
    (hfree : ∀ key, hidden key → ¬ utf8 (mention key.toList) <:+: content)
    (hsame : ∀ key, ¬ hidden key → env key = env' key) {key : String} (hkey : ¬ hidden key) :
    load env content key = load env' content key := by
  have hdrop : dropByteOrderMark content <:+ content := by
    unfold dropByteOrderMark
    split
    · exact ⟨[0xef, 0xbb, 0xbf], rfl⟩
    · exact List.suffix_rfl
  have hstart : Loaded.Agree hidden ⟨env, []⟩ ⟨env', []⟩ := ⟨hsame, rfl⟩
  refine (hstart.loadLines hnames fun key hhidden hmention => ?_).env_eq key hkey
  rw [flatten_cutLines] at hmention
  exact hfree key hhidden (List.IsInfix.trans hmention hdrop.isInfix)

/-- A line that mentions a name as its value takes over what the name stands for. -/
theorem Loaded.line?_of_mention {key name : List Char} (hshown : isVoid (trim text) = false)
    (hhead : readHead? (trim text) = some (key, mention name)) (hname : '\x7d' ∉ name) :
    l.line? text = some (l.add key (l.lookup name)) := by
  have hvalue : isVoid (mention name) = false := rfl
  simp only [Loaded.line?, hshown, hhead, Option.bind_eq_bind, Option.bind_some, hvalue,
    readValue?_mention hname, Bool.false_eq_true, if_false]
  rfl

/-- A file with one line gives what the line gives. -/
theorem load_of_line? {env : Environment} {content : List UInt8} {line : String} {l : Loaded}
    (hcut : cutLines (dropByteOrderMark content) = [utf8 line.toList])
    (hcomment : (trimLeft line.toList).head? ≠ some '#')
    (hscan : scan .complete line.toList = (.complete, line.toList))
    (hline : Loaded.line? ⟨env, []⟩ line.toList = some l) : load env content = l.env := by
  rw [load, hcut, EnvFile.loadLines, ofUtf8?_utf8]
  simp only [List.nil_append, if_neg hcomment, hscan, true_or, if_true, hline, EnvFile.loadLines]

end EnvFile

end Rollout
