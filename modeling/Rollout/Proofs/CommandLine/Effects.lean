import Mathlib.Data.List.Infix
import Rollout.CommandLine.Commands

/-!
# Effects and their questions

The parts of a command follow one another up to the first failure. No part takes a question back, so
that what was asked before a part is asked before all that the part asks itself.
-/

namespace Rollout

variable {ε α β : Type} {w w' : World} {message : ε → String}

namespace Effect

variable {x : Effect α} {f : α → Effect β}

/-- After a result the rest follows. -/
theorem run_bind_of_ok {a : α} (hx : x.run w = (.ok a, w')) :
    (x >>= f).run w = (f a).run w' := by
  simp only [Bind.bind, hx]

/-- A failure is the end. -/
theorem run_bind_of_error {failure : String} (hx : x.run w = (.error failure, w')) :
    (x >>= f).run w = (.error failure, w') := by
  simp only [Bind.bind, hx]

/-- Reading files that can be read changes nothing. -/
theorem run_reading_of_ok {read : Disk → Except ε α} {a : α} (hread : read w.disk = .ok a) :
    (reading message read).run w = (.ok a, w) := by
  simp only [reading, hread, Except.mapError]

/-- Reading files that cannot be read changes nothing. -/
theorem run_reading_of_error {read : Disk → Except ε α} {e : ε} (hread : read w.disk = .error e) :
    (reading message read).run w = (.error (message e), w) := by
  simp only [reading, hread, Except.mapError]

/-- A result that is there is the result. -/
theorem run_orFail_of_ok {e : Except ε α} {a : α} (he : e = .ok a) :
    (orFail message e).run w = (.ok a, w) := by
  simp only [orFail, he, Except.mapError]

/-- An error is the failure. -/
theorem run_orFail_of_error {result : Except ε α} {e : ε} (he : result = .error e) :
    (orFail message result).run w = (.error (message e), w) := by
  simp only [orFail, he, Except.mapError]

/-- An effect takes no question back. -/
def KeepsAsked (x : Effect α) : Prop :=
  ∀ w, w.asked <+: (x.run w).2.asked

/-- The questions of a part come before those of the rest. -/
theorem prefix_bind (hf : ∀ a, (f a).KeepsAsked) (w : World) :
    (x.run w).2.asked <+: ((x >>= f).run w).2.asked := by
  cases hx : x.run w with
  | mk outcome w' =>
    cases outcome with
    | ok a =>
      rw [run_bind_of_ok hx]
      exact hf a w'
    | error failure => rw [run_bind_of_error hx]

/-- Parts that take no question back have an effect that takes none back. -/
theorem KeepsAsked.bind (hx : x.KeepsAsked) (hf : ∀ a, (f a).KeepsAsked) : (x >>= f).KeepsAsked :=
  fun w => (hx w).trans (prefix_bind hf w)

theorem keepsAsked_pure (a : α) : (pure a : Effect α).KeepsAsked :=
  fun _ => List.prefix_rfl

theorem keepsAsked_orFail (e : Except ε α) : (orFail message e).KeepsAsked :=
  fun _ => List.prefix_rfl

theorem keepsAsked_reading (read : Disk → Except ε α) : (reading message read).KeepsAsked :=
  fun _ => List.prefix_rfl

theorem keepsAsked_writing (write : Disk → Except ε Unit × Disk) :
    (writing message write).KeepsAsked :=
  fun _ => List.prefix_rfl

theorem keepsAsked_print (lines : List String) : (print lines).KeepsAsked :=
  fun _ => List.prefix_rfl

theorem keepsAsked_ask (question : Question) (answer : ℕ → Except String α) :
    (ask question answer).KeepsAsked :=
  fun _ => List.prefix_append _ _

end Effect

namespace Command

open Effect

variable {net : Network} {c : Config}

/-- What follows the answer about the chain takes no question back. -/
theorem keepsAsked_accept (key : SigningKey) (found : UInt64) :
    (if found = c.network.chainId then pure key.address
      else Effect.orFail (otherChain c.network) (.error found)).KeepsAsked := by
  split
  · exact keepsAsked_pure _
  · exact keepsAsked_orFail _

theorem keepsAsked_connect : (connect net c.network).KeepsAsked :=
  (keepsAsked_orFail _).bind fun key => (keepsAsked_ask _ _).bind (keepsAsked_accept key)

theorem keepsAsked_execute (p : Plan) (session : Session) (sender : Address) :
    (execute net p session sender).KeepsAsked :=
  fun _ => List.prefix_append _ _

theorem keepsAsked_exportAddresses (session : Session) :
    (exportAddresses c session).KeepsAsked := by
  unfold exportAddresses
  split
  · exact keepsAsked_writing _
  · exact keepsAsked_pure _

theorem keepsAsked_runPrepareDemo : (runPrepareDemo net c).KeepsAsked :=
  (keepsAsked_reading _).bind fun _ => keepsAsked_connect.bind fun _ =>
    KeepsAsked.bind (fun _ => List.prefix_append _ _) fun _ => keepsAsked_print _

/-- What follows the execution of a plan in a deployment takes no question back. -/
theorem keepsAsked_finish (session : Session) :
    (exportAddresses c session >>= fun _ =>
      Effect.print (session.handles.map handleLine)).KeepsAsked :=
  (keepsAsked_exportAddresses session).bind fun _ => keepsAsked_print _

/-- With a key the network is asked for its chain. -/
theorem asked_connect {key : SigningKey} (hkey : c.network.signingKey = .ok key) (w : World) :
    w.asked ++ [.chainId c.network.rpcUrl.text] <+: ((connect net c.network).run w).2.asked := by
  rw [connect, run_bind_of_ok (run_orFail_of_ok hkey)]
  exact prefix_bind (x := askChain net c.network.rpcUrl.text) (keepsAsked_accept key) w

/-- On the configured chain the account of the key signs. -/
theorem run_connect_of_chain {key : SigningKey} (hkey : c.network.signingKey = .ok key)
    (hchain : net.chainId w.asked.length = some c.network.chainId) :
    (connect net c.network).run w =
      (.ok key.address, { w with asked := w.asked ++ [.chainId c.network.rpcUrl.text] }) := by
  have hasked : (askChain net c.network.rpcUrl.text).run w =
      (.ok c.network.chainId, { w with asked := w.asked ++ [.chainId c.network.rpcUrl.text] }) := by
    simp only [askChain, ask, hchain, orMessage]
  rw [connect, run_bind_of_ok (run_orFail_of_ok hkey), run_bind_of_ok hasked, if_pos rfl]
  rfl

/-- Without a key the network is not asked. -/
theorem run_connect_of_error {e : KeyError} (hkey : c.network.signingKey = .error e) (w : World) :
    (connect net c.network).run w = (.error e.message, w) :=
  run_bind_of_error (run_orFail_of_error hkey)

end Command

end Rollout
