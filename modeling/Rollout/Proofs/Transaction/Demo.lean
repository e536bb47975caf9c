import Rollout.Proofs.Abi.Words
import Rollout.Proofs.Transaction.Course
import Rollout.Transaction.Run

/-!
# The calls of the demonstration

Once token and bank are deployed, the demonstration cannot fail on the way to the network: its two
signatures are plain, and each of its arguments takes one word. What is submitted is therefore told
by the addresses, the amounts and the recipients alone.
-/

namespace Rollout

/-- A call with arguments of one word each: the first four bytes of the hash of the signature and
the words of the arguments. -/
def wordCall (target : Address) (signature : String) (ws : List WordArgument) :
    Address × List UInt8 :=
  (target, (keccak256 (utf8 signature.toList)).bytes.take 4 ++ ws.flatMap WordArgument.word)

/-- The words stand behind the first four bytes. -/
theorem drop_wordCall (target : Address) (signature : String) (ws : List WordArgument) :
    (wordCall target signature ws).2.drop 4 = ws.flatMap WordArgument.word := by
  refine List.drop_left' ?_
  rw [List.length_take, FixedBytes.length_bytes]
  rfl

/-- A step with a plain signature is called if its target has an address and its arguments stand
for an address or an amount each. -/
theorem Step.calls_of_words {s : Step} {session : Session} {sender : Address}
    {address : String → Address} {name : String} {ws : List WordArgument}
    (hassigns : session.Assigns address s.needs) (hname : TypeText.IsWord name)
    (hsignature : s.signature = (Signature.plain name (ws.map (·.typeName))).canonical)
    (hargs : s.args.map (Argument.substitute sender address) = ws.map (·.resolved)) :
    s.Calls session sender (wordCall (address s.target) s.signature ws) := by
  have hparse : Signature.parse? s.signature =
      some (Signature.plain name (ws.map (·.typeName))) := by
    rw [hsignature]
    refine Signature.parse?_canonical_plain hname fun type htype => ?_
    obtain ⟨w, -, rfl⟩ := List.mem_map.mp htype
    exact w.isWord_typeName
  refine ⟨address, _, ws.flatMap WordArgument.word, hassigns, hparse, ?_, ?_⟩
  · rw [hargs, Signature.plain, List.map_map]
    exact encodeArguments_words ws
  · rw [wordCall, hsignature]
    rfl

namespace Demo

variable {session : Session} {token bank : Handle} {sender : Address}

/-- The addresses that the steps refer to. -/
def address (token bank : Handle) (name : String) : Address :=
  if name = tokenUnit then token.address else bank.address

/-- The session holds what the steps refer to. -/
theorem assigns_address (htoken : session.get? tokenUnit = some token)
    (hbank : session.get? bankUnit = some bank) {names : List String}
    (hnames : ∀ name ∈ names, name = tokenUnit ∨ name = bankUnit) :
    session.Assigns (address token bank) names := by
  intro name hname
  rcases hnames name hname with rfl | rfl
  · exact ⟨token, htoken, rfl⟩
  · exact ⟨bank, hbank, rfl⟩

/-- The call that lets the bank take the token. -/
theorem calls_approval (d : Demo) (htoken : session.get? tokenUnit = some token)
    (hbank : session.get? bankUnit = some bank) :
    d.approval.Calls session sender (wordCall token.address "approve(address,uint256)"
      [.address bank.address, .amount d.approveAmount]) := by
  have hassigns : session.Assigns (address token bank) d.approval.needs :=
    assigns_address htoken hbank (by simp [Step.needs, approval, Argument.unit?])
  have happrove : TypeText.IsWord "approve" := ⟨rfl, by decide, by decide⟩
  exact Step.calls_of_words hassigns happrove rfl rfl

/-- The call that deposits for a receiver, who is the sender or another address. -/
theorem calls_deposit (d : Demo) (htoken : session.get? tokenUnit = some token)
    (hbank : session.get? bankUnit = some bank) (name : String) {receiver : Argument}
    {a : Address} (hreceiver : receiver = .address a ∨ receiver = .deployer ∧ a = sender) :
    (d.deposit name receiver).Calls session sender
      (wordCall bank.address "deposit(address,uint256,address)"
        [.address token.address, .amount d.depositAmount, .address a]) := by
  have hassigns : session.Assigns (address token bank) (d.deposit name receiver).needs := by
    refine assigns_address htoken hbank ?_
    rcases hreceiver with rfl | ⟨rfl, -⟩ <;> simp [Step.needs, deposit, Argument.unit?]
  have hdeposit : TypeText.IsWord "deposit" := ⟨rfl, by decide, by decide⟩
  refine Step.calls_of_words hassigns hdeposit rfl ?_
  rcases hreceiver with rfl | ⟨rfl, rfl⟩ <;> rfl

/-- Each step has its call: the approval, then one deposit for the sender and for each recipient. -/
theorem forall₂_calls (d : Demo) (htoken : session.get? tokenUnit = some token)
    (hbank : session.get? bankUnit = some bank) :
    List.Forall₂ (fun step call => step.Calls session sender call) d.steps
      (wordCall token.address "approve(address,uint256)"
          [.address bank.address, .amount d.approveAmount] ::
        (sender :: d.recipients).map fun receiver =>
          wordCall bank.address "deposit(address,uint256,address)"
            [.address token.address, .amount d.depositAmount, .address receiver]) := by
  refine List.Forall₂.cons (d.calls_approval htoken hbank)
    (List.Forall₂.cons (d.calls_deposit htoken hbank _ (Or.inr ⟨rfl, rfl⟩)) ?_)
  rw [List.forall₂_map_left_iff, List.forall₂_map_right_iff, List.forall₂_same]
  exact fun receiver _ => d.calls_deposit htoken hbank _ (Or.inl rfl)

/-- If token and bank have handles and every call is answered with a success, the demonstration
succeeds, whatever its amounts and recipients are. It submits an approval to the token and then, to
the bank, a deposit for the sender and for each recipient in order. A call is the beginning of the
hash of its signature and the words of its arguments: addresses behind zeros, and amounts from the
highest byte on. -/
theorem run_steps (d : Demo) {session : Session} {submitter : Submitter} {token bank : Handle}
    (htoken : session.get? "SimpleToken" = some token)
    (hbank : session.get? "ICS20Bank" = some bank)
    (hanswers : ∀ n < 2 + d.recipients.length, ∃ receipt,
      submitter.answers n = .ok receipt ∧ receipt.success = true) :
    let r := runSteps session d.steps submitter
    (∃ receipts, r.outcome = .ok receipts) ∧
    r.submitted.length = 2 + d.recipients.length ∧
    r.submitted =
      wordCall token.address "approve(address,uint256)"
          [.address bank.address, .amount d.approveAmount] ::
        (submitter.sender :: d.recipients).map (fun receiver =>
          wordCall bank.address "deposit(address,uint256,address)"
            [.address token.address, .amount d.depositAmount, .address receiver]) ∧
    (∀ w : WordArgument, w.word.length = 32) ∧
    ∀ v : Uint256, ofBigEndian (WordArgument.amount v).word = v.toNat := by
  have hlength : d.steps.length = 2 + d.recipients.length := by
    simp [steps]
    omega
  obtain ⟨receipts, hrun⟩ := Run.exists_receipts_of_calls (d.forall₂_calls htoken hbank) rfl
    (hlength ▸ hanswers)
  intro r
  have hsubmitted : r.submitted = _ := congrArg Run.submitted hrun
  refine ⟨⟨receipts, congrArg Run.outcome hrun⟩, ?_, hsubmitted, WordArgument.length_word,
    fun v => ofBigEndian_bigEndian v.isLt⟩
  rw [hsubmitted, List.length_cons, List.length_map, List.length_cons]
  omega

/-- A demonstration with the largest and the smallest amount, which credits one recipient twice and
the deployer once more. -/
def extreme : Demo where
  approveAmount := BitVec.allOnes 256
  depositAmount := 0
  recipients := [.repeating 7, .repeating 1, .repeating 7]

/-- A session in which the bank was recorded before the token. -/
def bankFirst : Session where
  chainId := 1
  handles := [⟨"ICS20Bank", .repeating 9, none⟩, ⟨"SimpleToken", .repeating 8, none⟩]
  file? := none

/-- An account whose calls all succeed. -/
def succeeding : Submitter where
  sender := .repeating 1
  answers _ := .ok ⟨.replicate 32 0, true, none⟩

/-- The largest amount is approved and four deposits are made, two of them for each receiver. -/
theorem run_steps_of_extreme :
    let r := runSteps bankFirst extreme.steps succeeding
    (∃ receipts, r.outcome = .ok receipts) ∧
    r.submitted.map (·.1) =
      [.repeating 8, .repeating 9, .repeating 9, .repeating 9, .repeating 9] ∧
    r.submitted.map (fun call => call.2.drop 4) =
      [List.replicate 12 0 ++ List.replicate 20 9 ++ List.replicate 32 255] ++
      [1, 7, 1, 7].map fun byte => List.replicate 12 0 ++ List.replicate 20 8 ++
        List.replicate 32 0 ++ List.replicate 12 0 ++ List.replicate 20 byte := by
  obtain ⟨hok, -, hsubmitted, -, -⟩ :=
    @run_steps extreme bankFirst succeeding _ _ rfl rfl fun _ _ => ⟨_, rfl, rfl⟩
  refine ⟨hok, by rw [hsubmitted]; rfl, ?_⟩
  rw [hsubmitted, List.map_cons, List.map_map, drop_wordCall]
  simp only [Function.comp_def, drop_wordCall]
  rfl

end Demo

end Rollout
