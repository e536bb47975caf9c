import Rollout.Config.Basic
import Rollout.Proofs.Address
import Rollout.Proofs.Uint256

/-!
# Numbers and recipients in the environment

A setting takes the value that its variable means, and there is no configuration when a variable has
a text that means nothing. The default stands for a variable that is not set, but also for one whose
bytes are no text; and an amount without any digit means zero.
-/

namespace Rollout.Config

variable {env : Environment} {key : String}

/-! ## What texts mean -/

/-- A number of 64 bits that stands between blanks. -/
def MeansNumber (text : String) (v : UInt64) : Prop :=
  Decimal.Writes (trim text.toList) v.toNat

/-- An amount that stands between blanks. A text without digits means zero. -/
def MeansAmount (text : String) (v : Uint256) : Prop :=
  Uint256.Writes (trim text.toList) v.toNat ∨ Uint256.Digitless (trim text.toList) ∧ v = 0

/-- What stands between the commas of a list, without the blanks around it, unless it is blank. -/
def recipientTexts (list : String) : List (List Char) :=
  ((list.toList.splitOn ',').map trim).filter (· ≠ [])

/-- Addresses between commas. -/
def MeansRecipients (list : String) (addresses : List Address) : Prop :=
  List.Forall₂ (fun text a => a.IsText text) (recipientTexts list) addresses

/-- One recipient is read from the texts of its address. -/
theorem parseRecipient_eq_ok {text : List Char} {a : Address} :
    parseRecipient text = .ok a ↔ a.IsText text := by
  have hparse := FixedBytes.parse?_eq_some (s := String.ofList text) (x := a)
  rw [String.toList_ofList] at hparse
  rw [← hparse, parseRecipient]
  cases FixedBytes.parse? (n := 20) (String.ofList text) <;> simp

/-- The recipients are read from the texts of their addresses. -/
theorem parseRecipients_eq_ok {list : String} {addresses : List Address} :
    parseRecipients list = .ok addresses ↔ MeansRecipients list addresses := by
  rw [parseRecipients, mapM_eq_ok]
  simp only [parseRecipient_eq_ok, MeansRecipients, recipientTexts]

/-- A list means nothing when one of its texts is no address. -/
theorem not_meansRecipients_iff {list : String} : (∀ addresses, ¬ MeansRecipients list addresses) ↔
    ∃ text ∈ recipientTexts list, ∀ a : Address, ¬ a.IsText text := by
  have hall : (∃ addresses, parseRecipients list = .ok addresses) ↔
      ∀ text ∈ recipientTexts list, ∃ a : Address, a.IsText text := by
    simp only [parseRecipients, exists_mapM_eq_ok, parseRecipient_eq_ok, recipientTexts]
  simp only [parseRecipients_eq_ok] at hall
  rw [← not_exists, hall]
  push Not
  rfl

/-! ## What a variable gives -/

/-- What a setting is for its variable. -/
inductive Setting (env : Environment) (key : String) {α : Type} (Means : String → α → Prop)
    (default : α) : α → Prop
  | unset (hunset : env key = none) : Setting env key Means default default
  /-- A variable whose bytes are no text is treated like one that is not set. -/
  | undecodable {bytes : List UInt8} (hset : env key = some bytes)
      (hbytes : ofUtf8? bytes = none) : Setting env key Means default default
  | given {text : String} {value : α} (htext : env.text? key = some text)
      (hmeans : Means text value) : Setting env key Means default value

/-- The variable has a text that means nothing. -/
def Malformed (env : Environment) (key : String) {α : Type} (Means : String → α → Prop) : Prop :=
  ∃ text, env.text? key = some text ∧ ∀ value, ¬ Means text value

/-- What is read from a variable: the value that its text means, or nothing when it has no text. -/
inductive Given (env : Environment) (key : String) {α : Type} (Means : String → α → Prop) :
    Option α → Prop
  | nothing (hnone : env.text? key = none) : Given env key Means none
  | something {text : String} {value : α} (htext : env.text? key = some text)
      (hmeans : Means text value) : Given env key Means (some value)

variable {α : Type} {Means : String → α → Prop}

/-- A setting is the value that was given, or else the default. -/
theorem Given.setting {value : Option α} (h : Given env key Means value) (default : α) :
    Setting env key Means default (value.getD default) := by
  cases h with
  | nothing hnone =>
    cases hset : env key with
    | none => exact Setting.unset hset
    | some bytes =>
      have hbytes : ofUtf8? bytes = none := by simpa [Environment.text?, hset] using hnone
      exact Setting.undecodable hset hbytes
  | something htext hmeans => exact Setting.given htext hmeans

/-- Something is given unless the variable is malformed. -/
theorem exists_given_iff : (∃ value, Given env key Means value) ↔ ¬ Malformed env key Means := by
  constructor
  · rintro ⟨_, hnone | ⟨htext, hmeans⟩⟩ ⟨text', htext', hmeaningless⟩
    · rw [hnone] at htext'
      cases htext'
    · rw [htext] at htext'
      cases htext'
      exact hmeaningless _ hmeans
  · intro hwell
    cases htext : env.text? key with
    | none => exact ⟨none, Given.nothing htext⟩
    | some text =>
      obtain ⟨value, hmeans⟩ : ∃ value, Means text value := by
        by_contra hmeaningless
        exact hwell ⟨text, htext, fun value hmeans => hmeaningless ⟨value, hmeans⟩⟩
      exact ⟨some value, Given.something htext hmeans⟩

/-- What is read from a variable is what it gives, when its text is read as what it means. -/
theorem read_eq_ok {parse : String → Except ConfigError α} {value : Option α}
    (hparse : ∀ text value, parse text = .ok value ↔ Means text value) :
    read env key parse = .ok value ↔ Given env key Means value := by
  unfold read
  constructor
  · intro hread
    split at hread
    · rename_i text htext
      obtain ⟨a, ha, rfl⟩ := map_eq_ok.mp hread
      exact Given.something htext ((hparse text a).mp ha)
    · cases hread
      exact Given.nothing (by assumption)
  · rintro (hnone | ⟨htext, hmeans⟩)
    · rw [hnone]
    · rw [htext]
      exact map_eq_ok.mpr ⟨_, (hparse _ _).mpr hmeans, rfl⟩

/-- A number is read from a variable that means it. -/
theorem readNumber_eq_ok {value : Option UInt64} :
    readNumber env key = .ok value ↔ Given env key MeansNumber value := by
  refine read_eq_ok fun text v => ?_
  rw [mapError_eq_ok, Decimal.readUInt64_eq_ok, MeansNumber]

/-- An amount is read from a variable that means it. -/
theorem readAmount_eq_ok {value : Option Uint256} :
    readAmount env key = .ok value ↔ Given env key MeansAmount value := by
  refine read_eq_ok fun text v => ?_
  have hparse := Uint256.parse?_eq_some (s := trimmed text) (v := v)
  rw [trimmed, String.toList_ofList] at hparse
  rw [MeansAmount, ← hparse, trimmed]
  cases Uint256.parse? (String.ofList (trim text.toList)) <;> simp

/-- Recipients are read from a variable that means them. -/
theorem readRecipients_eq_ok {value : Option (List Address)} :
    read env key parseRecipients = .ok value ↔ Given env key MeansRecipients value :=
  read_eq_ok fun _ _ => parseRecipients_eq_ok

/-! ## The configuration -/

/-- The numbers, the amounts and the recipients of a configuration are the settings that their
variables give. -/
structure Takes (c : Config) (env : Environment) : Prop where
  chainId : Setting env "DEPLOYER_CHAIN_ID" MeansNumber 214 c.network.chainId
  gasLimit : Setting env "DEPLOYER_GAS_LIMIT" MeansNumber 4500000 c.network.gasLimit
  recipients : Setting env "DEMO_RECIPIENTS" MeansRecipients [defaultRecipient] c.demo.recipients
  supply : Setting env "DEMO_TOKEN_SUPPLY" MeansAmount 1000000 c.demo.token.initialSupply
  approveAmount : Setting env "DEMO_APPROVE_AMOUNT" MeansAmount 1000000 c.demo.approveAmount
  depositAmount : Setting env "DEMO_DEPOSIT_AMOUNT" MeansAmount 500000 c.demo.depositAmount

/-- The variable of a number, of an amount or of the recipients is malformed. -/
inductive SomeMalformed (env : Environment) : Prop
  | chainId (h : Malformed env "DEPLOYER_CHAIN_ID" MeansNumber)
  | gasLimit (h : Malformed env "DEPLOYER_GAS_LIMIT" MeansNumber)
  | recipients {list : String} (hlist : env.text? "DEMO_RECIPIENTS" = some list)
      {text : List Char} (htext : text ∈ recipientTexts list)
      (hmeaningless : ∀ a : Address, ¬ a.IsText text)
  | supply (h : Malformed env "DEMO_TOKEN_SUPPLY" MeansAmount)
  | approveAmount (h : Malformed env "DEMO_APPROVE_AMOUNT" MeansAmount)
  | depositAmount (h : Malformed env "DEMO_DEPOSIT_AMOUNT" MeansAmount)

/-- A configuration takes its settings from their variables. -/
theorem takes_of_ofEnvironment {c : Config} (h : ofEnvironment env = .ok c) : c.Takes env := by
  simp only [ofEnvironment, readNetwork, readDemo, bind_eq_ok, Pure.pure, Except.pure,
    Except.ok.injEq, readNumber_eq_ok, readAmount_eq_ok, readRecipients_eq_ok] at h
  obtain ⟨_, ⟨rpcUrl, -, chainId, hchain, gasLimit, hgas, rfl⟩, _, ⟨recipients, hrecipients, supply,
    hsupply, approveAmount, happrove, depositAmount, hdeposit, rfl⟩, rfl⟩ := h
  constructor
  · exact hchain.setting 214
  · exact hgas.setting 4500000
  · exact hrecipients.setting [defaultRecipient]
  · exact hsupply.setting 1000000
  · exact happrove.setting 1000000
  · exact hdeposit.setting 500000

/-- There is a configuration when the node's address can be read and no variable is malformed. -/
theorem exists_ofEnvironment_iff : (∃ c, ofEnvironment env = .ok c) ↔
    (∃ url, Url.parse? ((env.text? "DEPLOYER_RPC_URL").getD defaultUrl) = some url) ∧
      ¬ SomeMalformed env := by
  have hurl (text : String) (url : Url) : readUrl "DEPLOYER_RPC_URL" text = .ok url ↔
      Url.parse? text = some url := by
    rw [readUrl]
    cases Url.parse? text <;> simp
  simp only [ofEnvironment, readNetwork, readDemo, bind_eq_ok, Pure.pure, Except.pure,
    Except.ok.injEq, readNumber_eq_ok, readAmount_eq_ok, readRecipients_eq_ok, hurl]
  constructor
  · rintro ⟨_, _, ⟨rpcUrl, hrpc, chainId, hchain, gasLimit, hgas, rfl⟩, _, ⟨recipients, hrecipients,
      supply, hsupply, approveAmount, happrove, depositAmount, hdeposit, rfl⟩, rfl⟩
    refine ⟨⟨rpcUrl, hrpc⟩, fun hmalformed => ?_⟩
    cases hmalformed with
    | chainId h => exact exists_given_iff.mp ⟨chainId, hchain⟩ h
    | gasLimit h => exact exists_given_iff.mp ⟨gasLimit, hgas⟩ h
    | recipients hlist htext hmeaningless =>
      exact exists_given_iff.mp ⟨recipients, hrecipients⟩
        ⟨_, hlist, not_meansRecipients_iff.mpr ⟨_, htext, hmeaningless⟩⟩
    | supply h => exact exists_given_iff.mp ⟨supply, hsupply⟩ h
    | approveAmount h => exact exists_given_iff.mp ⟨approveAmount, happrove⟩ h
    | depositAmount h => exact exists_given_iff.mp ⟨depositAmount, hdeposit⟩ h
  · rintro ⟨⟨rpcUrl, hrpc⟩, hwell⟩
    obtain ⟨chainId, hchain⟩ := exists_given_iff.mpr fun h => hwell (.chainId h)
    obtain ⟨gasLimit, hgas⟩ := exists_given_iff.mpr fun h => hwell (.gasLimit h)
    obtain ⟨supply, hsupply⟩ := exists_given_iff.mpr fun h => hwell (.supply h)
    obtain ⟨approveAmount, happrove⟩ := exists_given_iff.mpr fun h => hwell (.approveAmount h)
    obtain ⟨depositAmount, hdeposit⟩ := exists_given_iff.mpr fun h => hwell (.depositAmount h)
    have hlist : ¬ Malformed env "DEMO_RECIPIENTS" MeansRecipients := by
      rintro ⟨list, hlist, hmeaningless⟩
      obtain ⟨text, htext, hnone⟩ := not_meansRecipients_iff.mp hmeaningless
      exact hwell (.recipients hlist htext hnone)
    obtain ⟨recipients, hrecipients⟩ := exists_given_iff.mpr hlist
    exact ⟨_, _, ⟨rpcUrl, hrpc, chainId, hchain, gasLimit, hgas, rfl⟩, _, ⟨recipients, hrecipients,
      supply, hsupply, approveAmount, happrove, depositAmount, hdeposit, rfl⟩, rfl⟩

/-- A configuration takes each number, each amount and the recipients from their variables, and
there is none exactly when the node's address cannot be read or the text of such a variable means
nothing. The default stands only for a variable that is not set or whose bytes are no text. -/
theorem ofEnvironment_settings (env : Environment) :
    (∀ c, ofEnvironment env = .ok c → c.Takes env) ∧
      ((∃ e, ofEnvironment env = .error e) ↔
        Url.parse? ((env.text? "DEPLOYER_RPC_URL").getD defaultUrl) = none ∨
          SomeMalformed env) := by
  refine ⟨fun c hc => takes_of_ofEnvironment hc, ?_⟩
  rw [exists_error_iff, exists_ofEnvironment_iff, not_and_or, not_not, ← Option.ne_none_iff_exists',
    not_not]

/-- The chain and the recipients are bytes that are no text, and the supply has no digit. -/
def meaninglessEnvironment : Environment :=
  (((Environment.empty.set "DEPLOYER_RPC_URL" (utf8 "http://[::1]:8545".toList)).set
    "DEPLOYER_CHAIN_ID" [0xff]).set "DEMO_RECIPIENTS" [0xff]).set "DEMO_TOKEN_SUPPLY" []

/-- Bytes that are no text are taken for the default and a text without digits for zero, and no
error is told. -/
theorem ofEnvironment_meaningless :
    (meaninglessEnvironment "DEPLOYER_CHAIN_ID" = some [0xff] ∧
      meaninglessEnvironment "DEMO_RECIPIENTS" = some [0xff] ∧ ofUtf8? [0xff] = none) ∧
    (meaninglessEnvironment "DEMO_TOKEN_SUPPLY" = some [] ∧ ∀ n, ¬ Uint256.Writes [] n) ∧
    ∃ c, ofEnvironment meaninglessEnvironment = .ok c ∧ c.network.chainId = 214 ∧
      c.demo.recipients = [defaultRecipient] ∧ c.demo.token.initialSupply = 0 := by
  have hdigits : ∀ n, ¬ Uint256.Writes [] n := by
    rintro n ⟨mark, b, digits, -, htext, hdigit, -⟩
    obtain ⟨-, rfl⟩ := List.append_eq_nil_iff.mp htext.symm
    exact hdigit rfl
  have hread : (ofEnvironment meaninglessEnvironment).toOption.map (fun c =>
      (c.network.chainId, c.demo.recipients, c.demo.token.initialSupply)) =
        some (214, [defaultRecipient], 0) := by decide +kernel
  refine ⟨⟨rfl, rfl, by decide +kernel⟩, ⟨rfl, hdigits⟩, ?_⟩
  cases hc : ofEnvironment meaninglessEnvironment with
  | error e => simp [hc, Except.toOption] at hread
  | ok c =>
    simp only [hc, Except.toOption, Option.map_some, Option.some.injEq, Prod.mk.injEq] at hread
    exact ⟨c, rfl, hread⟩

end Rollout.Config
