import Rollout.Failure
import Rollout.Manifest.Basic

/-!
# Transactions

A step is one call of a deployed unit that changes its state.

Steps are submitted one after the other, each after the receipt of the one before. The first
failure ends the run.

After a deployment the bank is prepared for a transfer: the token approves the bank, and the bank
takes one deposit for the deployer and one for each recipient.
-/

namespace Rollout

/-! ## Transaction steps -/

/-- A call to a deployed unit. -/
structure Step where
  /-- The label of the step in receipts and failures. -/
  name : String
  /-- The unit that is called. -/
  target : String
  /-- The signature of the called function. -/
  signature : String
  args : List Argument
  /-- A reverted call ends the run; otherwise the run goes on. -/
  requireSuccess : Bool := true
  deriving DecidableEq

namespace Step

/-- The encoded call of a step, with the addresses of the session. -/
def callData (s : Step) (session : Session) (sender : Address) : Except Failure (List UInt8) := do
  let encoding (cause : EncodingError) : Failure := .transaction (.encoding s.name cause)
  let f ← (Signature.ofText s.signature).mapError encoding
  let arguments ← (Argument.resolveAll sender (session.resolve s.name) s.args).mapError .link
  (f.encodeCall arguments).mapError encoding

/-- The address and the data of a step's call. -/
def call (s : Step) (session : Session) (sender : Address) :
    Except Failure (Address × List UInt8) := do
  let target ← (session.resolve s.name s.target).mapError .link
  let data ← s.callData session sender
  return (target, data)

/-- The receipt of a step, unless the submission failed or a required success did not come. -/
def settle (s : Step) (answer : Answer) : Except TransactionError Receipt :=
  match answer with
  | .error causes => .error (.submission s.name causes)
  | .ok receipt =>
    if !receipt.success && s.requireSuccess then .error (.reverted s.name receipt.txHash)
    else .ok receipt

end Step

/-! ## Running transactions -/

/-- The receipt of a completed step. -/
structure StepReceipt where
  step : String
  receipt : Receipt
  deriving DecidableEq

/-- What running steps leaves behind. -/
structure Run where
  /-- The calls that were submitted, in order. -/
  submitted : List (Address × List UInt8)
  /-- The receipts of all steps, or the failure that ended the run. -/
  outcome : Except Failure (List StepReceipt)

namespace Run

/-- The run in which one more step was completed first. -/
def after (call : Address × List UInt8) (receipt : StepReceipt) (r : Run) : Run where
  submitted := call :: r.submitted
  outcome := r.outcome.map (receipt :: ·)

end Run

/-- Run steps in order. -/
def runSteps (session : Session) : List Step → Submitter → Run
  | [], _ => ⟨[], .ok []⟩
  | step :: steps, submitter =>
    match step.call session submitter.sender with
    | .error failure => ⟨[], .error failure⟩
    | .ok call =>
      match step.settle submitter.next with
      | .error e => ⟨[call], .error (.transaction e)⟩
      | .ok receipt => (runSteps session steps submitter.rest).after call ⟨step.name, receipt⟩

/-! ## The demonstration -/

/-- The recipient who is credited when no other one is named. -/
def defaultRecipient : Address where
  bytes := [0xa5, 0x24, 0x15, 0x13, 0xda, 0x9f, 0x44, 0x63, 0xf1, 0xd4, 0x87, 0x4b, 0x54, 0x8d,
    0xfb, 0xac, 0x29, 0xd9, 0x1f, 0x34]
  length_bytes := rfl

/-- The token, the amounts and the recipients of the demonstration. -/
structure Demo where
  token : Token := {}
  approveAmount : Uint256 := 1000000
  depositAmount : Uint256 := 500000
  /-- Those who are credited after the deployer, in order. -/
  recipients : List Address := [defaultRecipient]
  deriving DecidableEq

namespace Demo

/-- The step that lets the bank take the token. -/
def approval (d : Demo) : Step where
  name := "approve bank"
  target := tokenUnit
  signature := "approve(address,uint256)"
  args := [.unit bankUnit, .uint d.approveAmount]

/-- A deposit for a receiver. -/
def deposit (d : Demo) (name : String) (receiver : Argument) : Step where
  name
  target := bankUnit
  signature := "deposit(address,uint256,address)"
  args := [.unit tokenUnit, .uint d.depositAmount, receiver]

/-- The steps of the demonstration. -/
def steps (d : Demo) : List Step :=
  d.approval :: d.deposit "deposit to deployer" .deployer ::
    d.recipients.map fun a => d.deposit s!"deposit to {a.checksum}" (.address a)

end Demo

end Rollout
