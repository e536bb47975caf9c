import Rollout.Proofs.Address
import Rollout.Proofs.Abi.PlainSignature
import Rollout.Proofs.Json.Literals
import Rollout.Proofs.Session.Saved
import Rollout.Session.Basic

/-!
# Exported addresses

An exported file is read as settings: a line is a key and a value around its first equals sign, and
the last line with a key counts. Keys forget the case of letters, and they cannot tell the
underscores of a name from those between its words, so units whose names differ in nothing else may
share a key. The file then gives the address of the one that was recorded last.
-/

namespace Rollout

/-- The setting on a line: the key in front of the first equals sign and the value behind it. -/
def setting? (line : List Char) : Option (String × String) :=
  match line.dropWhile (· ≠ '=') with
  | [] => none
  | _ :: value => some (String.ofList (line.takeWhile (· ≠ '=')), String.ofList value)

/-- The settings of a text, line by line. -/
def settings (text : String) : List (String × String) :=
  (text.toList.splitOn '\n').filterMap setting?

/-- The value of a key, which a later line overrides. -/
def valueOf? (text key : String) : Option String :=
  ((settings text).reverse.find? (·.1 == key)).map (·.2)

/-- A line with a key and a value is their setting. -/
theorem setting?_append {key : List Char} (hkey : '=' ∉ key) (value : List Char) :
    setting? (key ++ '=' :: value) = some (String.ofList key, String.ofList value) := by
  have hbelongs : ∀ c ∈ key, decide (c ≠ '=') = true := by
    intro c hc
    exact decide_eq_true fun heq => hkey (heq ▸ hc)
  rw [setting?, List.dropWhile_append_of_pos hbelongs, List.takeWhile_append_of_pos hbelongs,
    List.dropWhile_cons_of_neg (by simp), List.takeWhile_cons_of_neg (by simp), List.append_nil]

/-- The settings of a text that begins with a line are its setting and those of the later lines. -/
theorem filterMap_setting?_line {key value : List Char} (hkey : '=' ∉ key)
    (hkeyLine : '\n' ∉ key) (hvalueLine : '\n' ∉ value) (rest : List Char) :
    ((key ++ '=' :: (value ++ '\n' :: rest)).splitOn '\n').filterMap setting? =
      (String.ofList key, String.ofList value) :: (rest.splitOn '\n').filterMap setting? := by
  have hline : '\n' ∉ key ++ '=' :: value := by
    simp [hkeyLine, hvalueLine]
  have htext : key ++ '=' :: (value ++ '\n' :: rest) = (key ++ '=' :: value) ++ '\n' :: rest := by
    simp
  rw [htext, List.splitOn_append_cons_self_of_not_mem hline,
    List.filterMap_cons_some (setting?_append hkey value)]

/-- The last setting with a key decides its value. -/
theorem valueOf?_of_last {text key value : String} {before after : List (String × String)}
    (hsettings : settings text = before ++ (key, value) :: after)
    (hlast : ∀ setting ∈ after, setting.1 ≠ key) : valueOf? text key = some value := by
  have hafter : after.reverse.find? (·.1 == key) = none := by
    refine List.find?_eq_none.mpr fun setting hsetting => ?_
    simpa using hlast setting (List.mem_reverse.mp hsetting)
  rw [valueOf?, hsettings, List.reverse_append, List.reverse_cons, List.append_assoc,
    List.find?_append, hafter]
  simp

namespace Session

/-- The key of a unit in an exported file. -/
def addressKey (name : String) : String :=
  envKey name ++ "_ADDRESS"

/-- The letters, digits and signs of a name in capitals, without its underscores. -/
def spelling (name : String) : List Char :=
  (name.toList.filter (· ≠ '_')).map Char.toUpper

/-- Only a capital letter is the capital of another character. -/
theorem eq_of_toUpper_eq {c d : Char} (hd : d.isUpper = false) (hupper : c.toUpper = d) :
    c = d := by
  unfold Char.toUpper at hupper
  split at hupper
  · rename_i hlower
    have hlow : 97 ≤ c.val.toNat := UInt32.le_iff_toNat_le.mp hlower.1
    have hhigh : c.val.toNat ≤ 122 := UInt32.le_iff_toNat_le.mp hlower.2
    have hshift : ('A'.val - 'a'.val).toNat = 4294967264 := rfl
    have hval : d.val.toNat = c.val.toNat - 32 := by
      rw [← hupper, UInt32.toNat_add, hshift]
      omega
    have hcapital : d.isUpper = true := by
      refine decide_eq_true ⟨UInt32.le_iff_toNat_le.mpr ?_, UInt32.le_iff_toNat_le.mpr ?_⟩
      · change 65 ≤ d.val.toNat
        omega
      · change d.val.toNat ≤ 90
        omega
    cases hd.symm.trans hcapital
  · exact hupper

/-- The characters of a key are the capitals of the name's characters, and underscores. -/
theorem mem_keyFrom {previous : Option Char} {text : List Char} {c : Char}
    (hc : c ∈ keyFrom previous text) : c = '_' ∨ ∃ d ∈ text, c = d.toUpper := by
  induction text generalizing previous with
  | nil => cases hc
  | cons d text ih =>
    rcases List.mem_append.mp hc with hc | hc
    · have hcases : c = '_' ∨ c = d.toUpper := by
        split at hc <;> simp_all
      exact hcases.imp_right fun h => ⟨d, List.mem_cons_self, h⟩
    · rcases ih hc with h | ⟨e, he, h⟩
      · exact Or.inl h
      · exact Or.inr ⟨e, List.mem_cons_of_mem _ he, h⟩

/-- Without its underscores a key is the spelling of the name. -/
theorem filter_keyFrom (previous : Option Char) (text : List Char) :
    (keyFrom previous text).filter (· ≠ '_') = (text.filter (· ≠ '_')).map Char.toUpper := by
  induction text generalizing previous with
  | nil => rfl
  | cons c text ih =>
    have hhead : (if beginsWord previous c text.head? then ['_', c.toUpper] else [c.toUpper]).filter
        (· ≠ '_') = ([c].filter (· ≠ '_')).map Char.toUpper := by
      by_cases hc : c = '_'
      · subst hc
        split <;> rfl
      · have hupper : c.toUpper ≠ '_' := fun h => hc (eq_of_toUpper_eq rfl h)
        split <;> simp [hc, hupper]
    rw [keyFrom, List.filter_append, hhead, ih, ← List.map_append, ← List.filter_append,
      List.singleton_append]

/-- Units share a key only if their names differ in nothing but case and underscores. -/
theorem spelling_eq_of_envKey_eq {name other : String} (hkey : envKey name = envKey other) :
    spelling name = spelling other := by
  have hsame : keyFrom none name.toList = keyFrom none other.toList := String.ofList_injective hkey
  rw [spelling, spelling, ← filter_keyFrom none name.toList, hsame, filter_keyFrom]

/-- A character of the key of an identifier may stand in an identifier, or is a capital. -/
theorem isIdentifierRest_of_mem_addressKey {name : String}
    (hname : TypeText.isIdentifier name.toList = true) {c : Char}
    (hc : c ∈ (addressKey name).toList) (hcapital : c.isUpper = false) :
    TypeText.isIdentifierRest c = true := by
  have hending : "_ADDRESS".toList.all TypeText.isIdentifierRest = true := rfl
  obtain ⟨first, others, htext, hfirst, hothers⟩ := TypeText.exists_cons_of_isIdentifier hname
  have hmem : ∀ d ∈ name.toList, TypeText.isIdentifierRest d = true := by
    rw [htext]
    exact List.forall_mem_cons.mpr ⟨TypeText.isIdentifierRest_of_start hfirst, hothers⟩
  rw [addressKey, String.toList_append, envKey, String.toList_ofList, List.mem_append] at hc
  rcases hc with hc | hc
  · rcases mem_keyFrom hc with rfl | ⟨d, hd, hupper⟩
    · rfl
    · exact eq_of_toUpper_eq hcapital hupper.symm ▸ hmem d hd
  · exact List.all_eq_true.mp hending c hc

/-- The address of a unit stands on one line. -/
theorem newline_notMem_checksum (a : Address) : '\n' ∉ a.checksum.toList := by
  intro hmem
  rw [Address.checksum, String.toList_ofList] at hmem
  rcases List.mem_cons.mp hmem with h | hmem
  · cases h
  rcases List.mem_cons.mp hmem with h | hmem
  · cases h
  · cases a.isDigit_of_mem_checksumDigits hmem

/-- The number of a chain stands on one line. -/
theorem newline_notMem_chainId (chainId : UInt64) : '\n' ∉ (toString chainId).toList := by
  intro hmem
  have hdigits : (toString chainId).toList = Decimal.digits chainId.toNat :=
    String.toList_ofList
  rw [hdigits] at hmem
  cases Decimal.isDigit_of_mem_digits hmem

/-- The first line of an exported file is that of the chain, and the lines of the units follow. -/
theorem toList_envText (s : Session) :
    s.envText.toList = "CHAIN_ID".toList ++ '=' :: ((toString s.chainId).toList ++
      '\n' :: s.handles.flatMap fun handle => (envLine handle).toList) := by
  rw [envText, String.toList_append, String.toList_join, List.flatMap_map]
  simp only [String.toList_append, List.append_assoc]
  rfl

/-- The line of a unit is its key and its address. -/
theorem toList_envLine (handle : Handle) (rest : List Char) :
    (envLine handle).toList ++ rest = (addressKey handle.name).toList ++
      '=' :: (handle.address.checksum.toList ++ '\n' :: rest) := by
  simp only [envLine, addressKey, String.toList_append, List.append_assoc]
  rfl

/-- The lines of units are read one by one. -/
theorem filterMap_setting?_envLines {handles : List Handle}
    (hnames : ∀ handle ∈ handles, TypeText.isIdentifier handle.name.toList = true) :
    ((handles.flatMap fun handle => (envLine handle).toList).splitOn '\n').filterMap setting? =
      handles.map fun handle => (addressKey handle.name, handle.address.checksum) := by
  induction handles with
  | nil => rfl
  | cons handle handles ih =>
    obtain ⟨hname, hlater⟩ := List.forall_mem_cons.mp hnames
    have hkey : '=' ∉ (addressKey handle.name).toList := fun hmem => by
      cases isIdentifierRest_of_mem_addressKey hname hmem rfl
    have hline : '\n' ∉ (addressKey handle.name).toList := fun hmem => by
      cases isIdentifierRest_of_mem_addressKey hname hmem rfl
    rw [List.flatMap_cons, toList_envLine,
      filterMap_setting?_line hkey hline (newline_notMem_checksum _), ih hlater, List.map_cons,
      String.ofList_toList, String.ofList_toList]

/-- The settings of an exported file are the chain and the addresses of the units in order. -/
theorem settings_envText {s : Session}
    (hnames : ∀ handle ∈ s.handles, TypeText.isIdentifier handle.name.toList = true) :
    settings s.envText = ("CHAIN_ID", toString s.chainId) ::
      s.handles.map fun handle => (addressKey handle.name, handle.address.checksum) := by
  rw [settings, toList_envText, filterMap_setting?_line (by decide) (by decide)
    (newline_notMem_chainId _), filterMap_setting?_envLines hnames, String.ofList_toList,
    String.ofList_toList]

/-- An address is never under the key of the chain. -/
theorem addressKey_ne_chainId (name : String) : addressKey name ≠ "CHAIN_ID" := by
  intro hkey
  have hlast : (addressKey name).toList.getLast? = some 'S' := by
    rw [addressKey, String.toList_append, List.getLast?_append]
    rfl
  rw [hkey] at hlast
  cases hlast

/-- Addresses are under the same key if their units have the same key. -/
theorem addressKey_inj {name other : String} :
    addressKey name = addressKey other ↔ envKey name = envKey other := by
  rw [← String.toList_inj, ← String.toList_inj, addressKey, addressKey, String.toList_append,
    String.toList_append, List.append_left_inj]

variable {s : Session} {disk disk' : Disk} {path : String}

/-- The chain is read from an exported file. -/
theorem valueOf?_chainId
    (hnames : ∀ handle ∈ s.handles, TypeText.isIdentifier handle.name.toList = true) :
    valueOf? s.envText "CHAIN_ID" = some (toString s.chainId) := by
  have hsettings : settings s.envText = [] ++ ("CHAIN_ID", toString s.chainId) :: _ :=
    settings_envText hnames
  refine valueOf?_of_last hsettings fun setting hsetting => ?_
  obtain ⟨handle, -, rfl⟩ := List.mem_map.mp hsetting
  exact addressKey_ne_chainId handle.name

/-- The address of the last unit with a key is read from an exported file. -/
theorem valueOf?_addressKey
    (hnames : ∀ handle ∈ s.handles, TypeText.isIdentifier handle.name.toList = true)
    {before after : List Handle} {last : Handle} (hsplit : s.handles = before ++ last :: after)
    (hlast : ∀ later ∈ after, envKey later.name ≠ envKey last.name) :
    valueOf? s.envText (addressKey last.name) = some last.address.checksum := by
  have hsettings := settings_envText hnames
  rw [hsplit, List.map_append, List.map_cons, ← List.cons_append] at hsettings
  refine valueOf?_of_last hsettings fun setting hsetting => ?_
  obtain ⟨later, hlater, rfl⟩ := List.mem_map.mp hsetting
  exact fun hkey => hlast later hlater (addressKey_inj.mp hkey)

/-- An export that works writes the text to the file. -/
theorem exportEnv_eq_ok : s.exportEnv disk path = (.ok (), disk') ↔
    disk.write path (utf8 s.envText.toList) = (.ok (), disk') := by
  simp only [exportEnv, writeText, Prod.ext_iff, mapError_eq_ok]

/-- An exported file of a session that can be reached, whose units are named by identifiers, gives
the chain, and under the key of each unit it gives the address of the unit that was recorded last
among those with the key. That is the unit's own address if no other name has the same spelling,
in which neither case nor underscores matter. -/
theorem exportEnv_addresses (hs : s.Reachable)
    (hnames : ∀ handle ∈ s.handles, TypeText.isIdentifier handle.name.toList = true)
    (hexport : s.exportEnv disk path = (.ok (), disk')) :
    ∃ text, disk'.readText path = .ok text ∧
      valueOf? text "CHAIN_ID" = some (toString s.chainId) ∧
      (∀ n ∈ s.handles, ∃ before last after, s.handles = before ++ last :: after ∧
        envKey last.name = envKey n.name ∧ (∀ later ∈ after, envKey later.name ≠ envKey n.name) ∧
        valueOf? text (envKey n.name ++ "_ADDRESS") = some last.address.checksum ∧
        FixedBytes.parse? last.address.checksum = some last.address) ∧
      ∀ n ∈ s.handles, (∀ m ∈ s.handles, spelling m.name = spelling n.name → m.name = n.name) →
        valueOf? text (envKey n.name ++ "_ADDRESS") = some n.address.checksum := by
  refine ⟨s.envText, Disk.readText_of_write (exportEnv_eq_ok.mp hexport), valueOf?_chainId hnames,
    fun n hn => ?_, fun n hn halone => ?_⟩
  · have hexists : ∃ m ∈ s.handles, envKey m.name = envKey n.name := ⟨n, hn, rfl⟩
    obtain ⟨before, last, after, hsplit, hkey, hafter⟩ := exists_last_of_exists hexists
    have hvalue := valueOf?_addressKey hnames hsplit fun later hlater => hkey ▸ hafter later hlater
    rw [addressKey, hkey] at hvalue
    exact ⟨before, last, after, hsplit, hkey, hafter, hvalue, last.address.parse?_checksum⟩
  · obtain ⟨before, after, hsplit⟩ := List.append_of_mem hn
    refine valueOf?_addressKey hnames hsplit fun later hlater hkey => ?_
    have hmem : later ∈ s.handles := by
      rw [hsplit]
      exact List.mem_append_right _ (List.mem_cons_of_mem _ hlater)
    have hname := halone later hmem (spelling_eq_of_envKey_eq hkey)
    have hnodup := hs.nodup_names
    rw [hsplit, List.map_append, List.map_cons] at hnodup
    have hnew := (List.nodup_cons.mp hnodup.of_append_right).1
    exact hnew (hname ▸ List.mem_map_of_mem hlater)

/-- Two units whose names are spelled the same, and a third one. -/
def alikeSpelled : Session :=
  let first := ((new 214).record .empty ⟨"IBCHost", .repeating 7, none⟩).session
  let second := (first.record .empty ⟨"IBC_HOST", .repeating 9, none⟩).session
  (second.record .empty ⟨"ICS20Bank", .repeating 8, none⟩).session

/-- The key of the two hosts gives the address of the second one, and the bank keeps its own. -/
theorem exportEnv_addresses_of_alikeSpelled :
    let exported := alikeSpelled.exportEnv .empty ".env"
    alikeSpelled.Reachable ∧ exported.1 = .ok () ∧
    (∀ handle ∈ alikeSpelled.handles, TypeText.isIdentifier handle.name.toList = true) ∧
    ∃ text, exported.2.readText ".env" = .ok text ∧ valueOf? text "CHAIN_ID" = some "214" ∧
      valueOf? text "IBC_HOST_ADDRESS" = some (Address.repeating 9).checksum ∧
      valueOf? text "ICS20_BANK_ADDRESS" = some (Address.repeating 8).checksum := by
  intro exported
  have hs : alikeSpelled.Reachable :=
    (((Reachable.new _).recorded _ _).recorded _ _).recorded _ _
  have hexport : alikeSpelled.exportEnv .empty ".env" = (.ok (), exported.2) := rfl
  have hnames : ∀ handle ∈ alikeSpelled.handles,
      TypeText.isIdentifier handle.name.toList = true := by decide
  have hhandles : alikeSpelled.handles = [⟨"IBCHost", .repeating 7, none⟩,
      ⟨"IBC_HOST", .repeating 9, none⟩, ⟨"ICS20Bank", .repeating 8, none⟩] := rfl
  obtain ⟨text, htext, hchain, hlast, halone⟩ := exportEnv_addresses hs hnames hexport
  rw [hhandles] at hlast halone
  refine ⟨hs, rfl, hnames, text, htext, hchain, ?_, ?_⟩
  · obtain ⟨before, last, after, hsplit, hkey, hafter, hvalue, -⟩ :=
      hlast ⟨"IBCHost", .repeating 7, none⟩ List.mem_cons_self
    cases before with
    | nil =>
      obtain ⟨-, rfl⟩ := List.cons.inj hsplit
      exact absurd (by decide) (hafter ⟨"IBC_HOST", .repeating 9, none⟩ List.mem_cons_self)
    | cons first before =>
      obtain ⟨-, hsplit⟩ := List.cons.inj hsplit
      cases before with
      | nil =>
        obtain ⟨rfl, -⟩ := List.cons.inj hsplit
        exact hvalue
      | cons second before =>
        obtain ⟨-, hsplit⟩ := List.cons.inj hsplit
        have hmem : last ∈ [⟨"ICS20Bank", .repeating 8, none⟩] := by
          rw [hsplit]
          exact List.mem_append_right _ List.mem_cons_self
        obtain rfl := List.mem_singleton.mp hmem
        exact absurd hkey (by decide)
  · exact halone ⟨"ICS20Bank", .repeating 8, none⟩ (by simp) (by decide)

/-- Two libraries whose names differ in case alone. -/
def sameKey : Session :=
  let first := ((new 1).record .empty ⟨"Lib", .repeating 7, none⟩).session
  (first.record .empty ⟨"LIB", .repeating 9, none⟩).session

/-- The names of the libraries are distinct identifiers, and yet the exported file gives the address
of the second one under the key of the first one. -/
theorem address_lost_of_sameKey :
    let exported := sameKey.exportEnv .empty ".env"
    sameKey.Reachable ∧ sameKey.handles.map (·.name) = ["Lib", "LIB"] ∧
    (∀ handle ∈ sameKey.handles, TypeText.isIdentifier handle.name.toList = true) ∧
    exported.1 = .ok () ∧
    ∃ text n, exported.2.readText ".env" = .ok text ∧ n ∈ sameKey.handles ∧
      valueOf? text (envKey n.name ++ "_ADDRESS") ≠ some n.address.checksum := by
  intro exported
  have hexport : sameKey.exportEnv .empty ".env" = (.ok (), exported.2) := rfl
  have hnames : ∀ handle ∈ sameKey.handles,
      TypeText.isIdentifier handle.name.toList = true := by decide
  have hsplit : sameKey.handles =
      [⟨"Lib", .repeating 7, none⟩] ++ ⟨"LIB", .repeating 9, none⟩ :: [] := rfl
  have hvalue := valueOf?_addressKey hnames hsplit (by simp)
  have hkey : envKey "Lib" = envKey "LIB" := by decide
  refine ⟨((Reachable.new _).recorded _ _).recorded _ _, rfl, hnames, rfl, sameKey.envText,
    ⟨"Lib", .repeating 7, none⟩, Disk.readText_of_write (exportEnv_eq_ok.mp hexport),
    List.mem_cons_self, ?_⟩
  rw [hkey]
  intro hfirst
  have haddress := Address.checksum_injective (Option.some.inj (hvalue.symm.trans hfirst))
  exact absurd haddress (by decide)

end Session

end Rollout
