import Rollout.Address
import Rollout.Text.Quoted
import Rollout.Uint256

/-!
# The network

A submitter signs transactions for one account and sends them one after the other. The network
answers each of them with a receipt, or the submission fails.

Besides transactions, the network is asked for its chain and for amounts. Its answers are numbered
by the questions that were asked before, so that they may change in any way.
-/

namespace Rollout

/-- What became of a transaction. -/
structure Receipt where
  txHash : Hash
  /-- The transaction was executed without being reverted. -/
  success : Bool
  /-- The address of the new contract, for a deployment. -/
  contractAddress : Option Address
  deriving DecidableEq

/-- The answer to a submission: a receipt, or the messages of a failure from the outermost to the
innermost. -/
abbrev Answer := Except (List String) Receipt

/-- The messages of a failed submission in one line. -/
def joinCauses (causes : List String) : String :=
  ": ".intercalate causes

/-- The account that signs, and the answers to its submissions in turn. -/
structure Submitter where
  sender : Address
  answers : Nat → Answer

namespace Submitter

/-- The answer to the next submission. -/
def next (s : Submitter) : Answer :=
  s.answers 0

/-- The submitter after one submission. -/
def rest (s : Submitter) : Submitter :=
  { s with answers := fun n => s.answers (n + 1) }

end Submitter

/-- A question to the network. -/
inductive Question where
  /-- Which chain the node at the URL serves. -/
  | chainId (url : String)
  /-- A transaction that creates a unit. -/
  | creation (code : List UInt8)
  /-- A transaction that calls a unit. -/
  | call (target : Address) (data : List UInt8)
  /-- How much of the token the bank may take from an account. -/
  | allowance (token owner spender : Address)
  /-- How much of the token an account holds. -/
  | tokenBalance (token account : Address)
  /-- How much the bank holds for an account under the name of a token. -/
  | bankBalance (bank account : Address) (denomination : String)
  deriving DecidableEq

/-- The answers of the network to questions of each kind, by the number of questions asked before.
-/
structure Network where
  chainId : Nat → Option UInt64
  submission : Nat → Answer
  amount : Nat → Option Uint256

namespace Network

/-- A network that answers nothing. -/
def silent : Network where
  chainId _ := none
  submission _ := .error []
  amount _ := none

/-- The submitter for an account after a number of questions. -/
def submitter (net : Network) (sender : Address) (asked : Nat) : Submitter where
  sender
  answers n := net.submission (asked + n)

end Network

end Rollout
