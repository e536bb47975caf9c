import Rollout.Proofs.Plan.CreationCode
import Rollout.Transaction.Run

/-!
# The course of a run of transactions

A run submits the calls of its steps in order, each after the receipt of the one before, until all
steps are completed or one of them fails. A step fails before its call is submitted, when the call
cannot be built, or after it, when the answer is not one that the step can go on with. Nothing is
submitted after a failure.
-/

namespace Rollout

/-- The step that a failure of a run names. -/
def Failure.step? : Failure → Option String
  | .link (.unresolved step _) => some step
  | .transaction e => some e.step
  | _ => none

/-- The failure is what became of a call that was submitted. -/
def Failure.IsAnswer : Failure → Prop
  | .transaction (.submission _ _) | .transaction (.reverted _ _) => True
  | _ => False

namespace Argument

/-- References are looked up in order, so a failure is that of the first one without a handle. -/
theorem resolveAll_resolve_eq_error {session : Session} {unit : String} {sender : Address}
    {arguments : List Argument} {e : LinkError}
    (herror : resolveAll sender (session.resolve unit) arguments = .error e) :
    ∃ before name after, arguments = before ++ .unit name :: after ∧
      (∀ other ∈ before.filterMap unit?, session.contains other) ∧ ¬ session.contains name ∧
      e = .unresolved unit name := by
  obtain ⟨before, argument, after, rfl, hbefore, hargument⟩ := exists_split_of_mapM herror
  cases argument with
  | unit name =>
    obtain ⟨hname, rfl⟩ := Session.resolve_eq_error.mp (map_eq_error.mp hargument)
    refine ⟨before, name, after, rfl, fun other hother => ?_, hname, rfl⟩
    obtain ⟨argument, hmem, hunit⟩ := List.mem_filterMap.mp hother
    obtain ⟨resolved, hresolved⟩ := hbefore argument hmem
    cases argument with
    | unit found =>
      obtain rfl := Option.some.inj hunit
      obtain ⟨address, haddress, -⟩ := map_eq_ok.mp hresolved
      exact Session.contains_of_resolve haddress
    | deployer | address | uint | string | bool => cases hunit
  | deployer | address | uint | string | bool => cases hargument

end Argument

namespace Signature

/-- A text is a signature if it can be read as one. -/
theorem ofText_eq_ok {text : String} {f : Signature} :
    ofText text = .ok f ↔ parse? text = some f := by
  unfold ofText
  cases parse? text <;> simp

/-- A text that cannot be read as a signature is refused. -/
theorem ofText_eq_error {text : String} {e : EncodingError} :
    ofText text = .error e ↔ parse? text = none ∧ e = .invalidSignature text := by
  unfold ofText
  cases parse? text <;> simp [eq_comm]

end Signature

namespace Step

/-- The units whose addresses the call of a step needs. -/
def needs (s : Step) : List String :=
  s.target :: s.args.filterMap Argument.unit?

/-- The call goes to the address of the target. It carries the selector of the signature and the
encoded arguments, in which the session's addresses have taken the place of the references and the
sender that of the deployer. -/
def Calls (s : Step) (session : Session) (sender : Address) (call : Address × List UInt8) : Prop :=
  ∃ address f encoded, session.Assigns address s.needs ∧ Signature.parse? s.signature = some f ∧
    encodeArguments f.inputs (s.args.map (Argument.substitute sender address)) = .ok encoded ∧
    call = (address s.target, f.selector.bytes ++ encoded)

/-- The step goes on with the answer to its call: a receipt that is a success, unless none is
required. -/
def Accepts (s : Step) (answer : Answer) (receipt : Receipt) : Prop :=
  answer = .ok receipt ∧ (receipt.success = true ∨ s.requireSuccess = false)

/-- The ways in which a step fails, in the order in which they are found out, with the answer that
its call gets if it is submitted. -/
inductive Fails (session : Session) (sender : Address) (answer : Answer) (s : Step) :
    Failure → Prop
  /-- The target has no handle. -/
  | targetless (htarget : ¬ session.contains s.target) :
    Fails session sender answer s (.link (.unresolved s.name s.target))
  /-- The signature cannot be read. -/
  | unreadable (htarget : session.contains s.target)
      (hparse : Signature.parse? s.signature = none) :
    Fails session sender answer s
      (.transaction (.encoding s.name (.invalidSignature s.signature)))
  /-- A reference has no handle, and all references before it have one. -/
  | unresolved {f : Signature} {before after : List Argument} {name : String}
      (htarget : session.contains s.target) (hparse : Signature.parse? s.signature = some f)
      (hargs : s.args = before ++ .unit name :: after)
      (hbefore : ∀ other ∈ before.filterMap Argument.unit?, session.contains other)
      (hname : ¬ session.contains name) :
    Fails session sender answer s (.link (.unresolved s.name name))
  /-- The arguments cannot be encoded. -/
  | unencoded {address : String → Address} {f : Signature} {cause : EncodingError}
      (hassigns : session.Assigns address s.needs)
      (hparse : Signature.parse? s.signature = some f)
      (hencode : encodeArguments f.inputs (s.args.map (Argument.substitute sender address)) =
        .error cause) :
    Fails session sender answer s (.transaction (.encoding s.name cause))
  /-- The call cannot be submitted. -/
  | unsubmitted {call : Address × List UInt8} {causes : List String}
      (hcall : s.Calls session sender call) (hanswer : answer = .error causes) :
    Fails session sender answer s (.transaction (.submission s.name causes))
  /-- The call is reverted, and a success is required. -/
  | reverted {call : Address × List UInt8} {receipt : Receipt}
      (hcall : s.Calls session sender call) (hanswer : answer = .ok receipt)
      (hreverted : receipt.success = false) (hrequired : s.requireSuccess = true) :
    Fails session sender answer s (.transaction (.reverted s.name receipt.txHash))

variable {s : Step} {session : Session} {sender : Address} {answer : Answer}
  {call : Address × List UInt8} {failure : Failure}

/-- A failure names the step that failed. -/
theorem Fails.step?_eq (hfails : s.Fails session sender answer failure) :
    failure.step? = some s.name := by
  cases hfails <;> rfl

/-- All that a call needs has an address once its target and its references are looked up. -/
theorem exists_assigns_needs {resolved : List ResolvedArgument}
    (htarget : session.contains s.target)
    (hresolve : Argument.resolveAll sender (session.resolve s.name) s.args = .ok resolved) :
    ∃ address, session.Assigns address s.needs := by
  refine Session.exists_assigns_iff.mpr fun name hname => ?_
  rcases List.mem_cons.mp hname with rfl | hname
  · exact htarget
  · obtain ⟨address, haddress⟩ := Argument.exists_lookup_of_resolveAll_eq_ok hresolve hname
    exact Session.contains_of_resolve haddress

/-- The data of a call for which all addresses are there. -/
theorem callData_of_assigns {address : String → Address} {f : Signature}
    (hassigns : session.Assigns address s.needs)
    (hparse : Signature.parse? s.signature = some f) :
    s.callData session sender =
      (f.encodeCall (s.args.map (Argument.substitute sender address))).mapError
        fun cause => .transaction (.encoding s.name cause) := by
  have hresolve : Argument.resolveAll sender (session.resolve s.name) s.args =
      .ok (s.args.map (Argument.substitute sender address)) :=
    Argument.resolveAll_eq_ok fun name hname =>
      hassigns.resolve s.name (List.mem_cons_of_mem _ hname)
  simp only [callData, Signature.ofText, hparse, hresolve, Except.mapError, Bind.bind, Except.bind]

/-- A call is built exactly when target and references have addresses, the signature can be read and
the arguments can be encoded. -/
theorem call_eq_ok : s.call session sender = .ok call ↔ s.Calls session sender call := by
  constructor
  · intro hcall
    obtain ⟨target, htarget, hrest⟩ := bind_eq_ok.mp hcall
    obtain ⟨data, hdata, hpure⟩ := bind_eq_ok.mp hrest
    obtain ⟨f, hf, hafter⟩ := bind_eq_ok.mp hdata
    obtain ⟨resolved, hresolved, -⟩ := bind_eq_ok.mp hafter
    have hto := mapError_eq_ok.mp htarget
    have hparse := Signature.ofText_eq_ok.mp (mapError_eq_ok.mp hf)
    obtain ⟨address, hassigns⟩ :=
      exists_assigns_needs (Session.contains_of_resolve hto) (mapError_eq_ok.mp hresolved)
    have haddress : address s.target = target :=
      Except.ok.inj ((hassigns.resolve s.name List.mem_cons_self).symm.trans hto)
    rw [callData_of_assigns hassigns hparse] at hdata
    obtain ⟨encoded, hencoded, rfl⟩ := map_eq_ok.mp (mapError_eq_ok.mp hdata)
    refine ⟨address, f, encoded, hassigns, hparse, hencoded, ?_⟩
    rw [← Except.ok.inj hpure, haddress]
  · rintro ⟨address, f, encoded, hassigns, hparse, hencode, rfl⟩
    have htarget := hassigns.resolve s.name List.mem_cons_self
    rw [Step.call, htarget, callData_of_assigns hassigns hparse, Signature.encodeCall, hencode]
    rfl

/-- A call that cannot be built fails for the first thing that is missing or wrong. -/
theorem fails_of_call_eq_error (hcall : s.call session sender = .error failure) :
    s.Fails session sender answer failure ∧ ¬ failure.IsAnswer := by
  rcases bind_eq_error.mp hcall with htarget | ⟨target, htarget, hrest⟩
  · obtain ⟨e, he, rfl⟩ := mapError_eq_error.mp htarget
    obtain ⟨hmissing, rfl⟩ := Session.resolve_eq_error.mp he
    exact ⟨Fails.targetless hmissing, id⟩
  have hcontains := Session.contains_of_resolve (mapError_eq_ok.mp htarget)
  have hdata : s.callData session sender = .error failure := by
    rcases bind_eq_error.mp hrest with hdata | ⟨data, -, hpure⟩
    · exact hdata
    · cases hpure
  rcases bind_eq_error.mp hdata with hf | ⟨f, hf, hafter⟩
  · obtain ⟨e, he, rfl⟩ := mapError_eq_error.mp hf
    obtain ⟨hparse, rfl⟩ := Signature.ofText_eq_error.mp he
    exact ⟨Fails.unreadable hcontains hparse, id⟩
  have hparse := Signature.ofText_eq_ok.mp (mapError_eq_ok.mp hf)
  rcases bind_eq_error.mp hafter with hresolved | ⟨resolved, hresolved, -⟩
  · obtain ⟨e, he, rfl⟩ := mapError_eq_error.mp hresolved
    obtain ⟨before, name, after, hsplit, hbefore, hname, rfl⟩ :=
      Argument.resolveAll_resolve_eq_error he
    exact ⟨Fails.unresolved hcontains hparse hsplit hbefore hname, id⟩
  obtain ⟨address, hassigns⟩ := exists_assigns_needs hcontains (mapError_eq_ok.mp hresolved)
  rw [callData_of_assigns hassigns hparse] at hdata
  obtain ⟨cause, hcause, rfl⟩ := mapError_eq_error.mp hdata
  exact ⟨Fails.unencoded hassigns hparse (map_eq_error.mp hcause), id⟩

/-- A step is settled by an answer that it can go on with. -/
theorem settle_eq_ok {receipt : Receipt} :
    s.settle answer = .ok receipt ↔ s.Accepts answer receipt := by
  unfold settle Accepts
  cases answer with
  | error causes => simp
  | ok found =>
    have hreverted : (!found.success && s.requireSuccess) = true ↔
        ¬ (found.success = true ∨ s.requireSuccess = false) := by simp
    simp only [hreverted]
    by_cases hgoes : found.success = true ∨ s.requireSuccess = false
    · rw [if_neg (not_not_intro hgoes)]
      constructor
      · rintro ⟨⟩
        exact ⟨rfl, hgoes⟩
      · exact fun haccepts => congrArg Except.ok (Except.ok.inj haccepts.1)
    · rw [if_pos hgoes]
      constructor
      · rintro ⟨⟩
      · rintro ⟨⟨⟩, hfound⟩
        exact absurd hfound hgoes

/-- A step that is not settled could not be submitted, or was reverted although it must not be. -/
theorem fails_of_settle_eq_error {e : TransactionError} (hcall : s.Calls session sender call)
    (hsettle : s.settle answer = .error e) :
    s.Fails session sender answer (.transaction e) ∧ (Failure.transaction e).IsAnswer := by
  unfold settle at hsettle
  split at hsettle
  · rename_i causes
    obtain rfl := Except.error.inj hsettle
    exact ⟨Fails.unsubmitted hcall rfl, trivial⟩
  · rename_i receipt
    split at hsettle
    · rename_i hreverted
      obtain rfl := Except.error.inj hsettle
      obtain ⟨hsuccess, hrequired⟩ : receipt.success = false ∧ s.requireSuccess = true := by
        simpa using hreverted
      exact ⟨Fails.reverted hcall rfl hsuccess hrequired, trivial⟩
    · cases hsettle

end Step

/-- A step that was completed. -/
structure Completion where
  step : Step
  /-- The call that was submitted for the step. -/
  call : Address × List UInt8
  /-- The receipt that the call got. -/
  receipt : Receipt

/-- The receipt of a completed step under the name of the step. -/
def Completion.stepReceipt (c : Completion) : StepReceipt :=
  ⟨c.step.name, c.receipt⟩

namespace Run

/-- After the steps before it, the step is completed: its call is submitted, and it goes on with the
answer in turn. -/
def Completes (session : Session) (submitter : Submitter) (before : List Completion)
    (c : Completion) : Prop :=
  c.step.Calls session submitter.sender c.call ∧
    c.step.Accepts (submitter.answers before.length) c.receipt

/-- After the given completed steps, the step fails and the run ends. -/
structure Stops (session : Session) (submitter : Submitter) (done : List Completion) (step : Step)
    (failure : Failure) (r : Run) : Prop where
  fails : step.Fails session submitter.sender (submitter.answers done.length) failure
  outcome_eq : r.outcome = .error failure
  step?_eq : failure.step? = some step.name
  /-- The call of the step was submitted if the failure is what became of it. -/
  submitted_of_answer : failure.IsAnswer → ∃ call, step.Calls session submitter.sender call ∧
    r.submitted = done.map (·.call) ++ [call]
  /-- Otherwise the step submitted nothing. -/
  submitted_of_other : ¬ failure.IsAnswer → r.submitted = done.map (·.call)

variable {session : Session} {steps : List Step} {submitter : Submitter}

/-- A step that fails after later steps fails after the first one and them. -/
theorem Stops.after {done : List Completion} {c : Completion} {step : Step} {failure : Failure}
    {r : Run} (hstops : Stops session submitter.rest done step failure r) :
    Stops session submitter (c :: done) step failure (r.after c.call c.stepReceipt) := by
  obtain ⟨hfails, houtcome, hname, hanswer, hother⟩ := hstops
  refine ⟨hfails, map_eq_error.mpr houtcome, hname, fun h => ?_, fun h => ?_⟩
  · obtain ⟨call, hcall, hsubmitted⟩ := hanswer h
    exact ⟨call, hcall, congrArg (c.call :: ·) hsubmitted⟩
  · exact congrArg (c.call :: ·) (hother h)

/-- A run completes steps in turn. Either they are all of its steps, or the next one fails. -/
theorem exists_completions (session : Session) (steps : List Step) (submitter : Submitter) :
    let r := runSteps session steps submitter
    ∃ done : List Completion, EachAfter (Completes session submitter) done ∧
      ((steps = done.map (·.step) ∧ r.submitted = done.map (·.call) ∧
          r.outcome = .ok (done.map (·.stepReceipt))) ∨
        ∃ step after failure, steps = done.map (·.step) ++ step :: after ∧
          Stops session submitter done step failure r) := by
  induction steps generalizing submitter with
  | nil => exact ⟨[], eachAfter_nil _, Or.inl ⟨rfl, rfl, rfl⟩⟩
  | cons step steps ih =>
    rw [runSteps]
    cases hcall : step.call session submitter.sender with
    | error failure =>
      obtain ⟨hfails, hunanswered⟩ := Step.fails_of_call_eq_error hcall
      exact ⟨[], eachAfter_nil _, Or.inr ⟨step, steps, failure, rfl, hfails, rfl, hfails.step?_eq,
        fun h => absurd h hunanswered, fun _ => rfl⟩⟩
    | ok call =>
      have hcalls := Step.call_eq_ok.mp hcall
      cases hsettle : step.settle submitter.next with
      | error e =>
        obtain ⟨hfails, hanswered⟩ := Step.fails_of_settle_eq_error hcalls hsettle
        exact ⟨[], eachAfter_nil _, Or.inr ⟨step, steps, _, rfl, hfails, rfl, hfails.step?_eq,
          fun _ => ⟨call, hcalls, rfl⟩, fun h => absurd hanswered h⟩⟩
      | ok receipt =>
        let first : Completion := ⟨step, call, receipt⟩
        obtain ⟨done, heach, hend⟩ := ih submitter.rest
        refine ⟨first :: done,
          eachAfter_cons.mpr ⟨⟨hcalls, Step.settle_eq_ok.mp hsettle⟩, heach⟩, ?_⟩
        rcases hend with ⟨hsteps, hsubmitted, houtcome⟩ | ⟨failing, after, failure, hsteps, hstops⟩
        · refine Or.inl ⟨congrArg (step :: ·) hsteps, congrArg (call :: ·) hsubmitted, ?_⟩
          exact map_eq_ok.mpr ⟨_, houtcome, rfl⟩
        · exact Or.inr ⟨failing, after, failure, congrArg (step :: ·) hsteps,
            hstops.after (c := first)⟩

/-- A run succeeds if each of its steps can be called and goes on with the answer in turn. -/
theorem exists_receipts (hsteps : EachAfter (fun before step => ∃ call receipt,
      step.Calls session submitter.sender call ∧
        step.Accepts (submitter.answers before.length) receipt) steps) :
    ∃ receipts, (runSteps session steps submitter).outcome = .ok receipts := by
  induction steps generalizing submitter with
  | nil => exact ⟨[], rfl⟩
  | cons step steps ih =>
    obtain ⟨⟨call, receipt, hcalls, haccepts⟩, hlater⟩ := eachAfter_cons.mp hsteps
    obtain ⟨receipts, hreceipts⟩ := @ih submitter.rest hlater
    refine ⟨⟨step.name, receipt⟩ :: receipts, ?_⟩
    have hsettle : step.settle submitter.next = .ok receipt := Step.settle_eq_ok.mpr haccepts
    simp only [runSteps, Step.call_eq_ok.mpr hcalls, hsettle]
    exact map_eq_ok.mpr ⟨receipts, hreceipts, rfl⟩

/-- All calls are submitted if each step can be called and each call is answered with a success. -/
theorem exists_receipts_of_calls {sender : Address} {calls : List (Address × List UInt8)}
    (hcalls : List.Forall₂ (fun step call => step.Calls session sender call) steps calls)
    (hsender : submitter.sender = sender) (hanswers : ∀ n < steps.length, ∃ receipt,
      submitter.answers n = .ok receipt ∧ receipt.success = true) :
    ∃ receipts, runSteps session steps submitter = ⟨calls, .ok receipts⟩ := by
  induction hcalls generalizing submitter with
  | nil => exact ⟨[], rfl⟩
  | @cons step call steps calls hcall hlater ih =>
    obtain ⟨receipt, hanswer, hsuccess⟩ := hanswers 0 (Nat.succ_pos _)
    obtain ⟨receipts, hrest⟩ := @ih submitter.rest hsender fun n hn =>
      hanswers (n + 1) (Nat.succ_lt_succ hn)
    have hsettle : step.settle submitter.next = .ok receipt :=
      Step.settle_eq_ok.mpr ⟨hanswer, Or.inl hsuccess⟩
    refine ⟨⟨step.name, receipt⟩ :: receipts, ?_⟩
    rw [runSteps, hsender, Step.call_eq_ok.mpr hcall]
    simp only [hsettle, hrest]
    rfl

/-- What is submitted are the calls of steps from the front, one for each of them. -/
theorem forall₂_submitted (session : Session) (steps : List Step) (submitter : Submitter) :
    let submitted := (runSteps session steps submitter).submitted
    List.Forall₂ (fun call step => step.Calls session submitter.sender call) submitted
      (steps.take submitted.length) := by
  induction steps generalizing submitter with
  | nil => exact List.Forall₂.nil
  | cons step steps ih =>
    rw [runSteps]
    cases hcall : step.call session submitter.sender with
    | error failure => exact List.Forall₂.nil
    | ok call =>
      have hcalls := Step.call_eq_ok.mp hcall
      cases hsettle : step.settle submitter.next with
      | error e => exact List.Forall₂.cons hcalls List.Forall₂.nil
      | ok receipt => exact List.Forall₂.cons hcalls (ih submitter.rest)

/-- A run submits one call for each step from the front, in order. It succeeds exactly when each of
its steps can be called and goes on with the answer in turn, and then all steps are called and their
receipts are returned, unchanged and under the names of the steps. Otherwise the first step that
fails decides the failure, which names the step. Its call is the last one that is submitted if the
failure is what became of it, and otherwise nothing is submitted after the steps before it. -/
theorem runSteps_course (session : Session) (steps : List Step) (submitter : Submitter) :
    let r := runSteps session steps submitter
    List.Forall₂ (fun call step => step.Calls session submitter.sender call) r.submitted
      (steps.take r.submitted.length) ∧
    ((∃ receipts, r.outcome = .ok receipts) ↔ EachAfter (fun before step => ∃ call receipt,
      step.Calls session submitter.sender call ∧
        step.Accepts (submitter.answers before.length) receipt) steps) ∧
    ∃ done : List Completion, EachAfter (Completes session submitter) done ∧
      (∀ receipts, r.outcome = .ok receipts → steps = done.map (·.step) ∧
        r.submitted = done.map (·.call) ∧ receipts = done.map (·.stepReceipt)) ∧
      ∀ failure, r.outcome = .error failure → ∃ step after,
        steps = done.map (·.step) ++ step :: after ∧
          Stops session submitter done step failure r := by
  intro r
  obtain ⟨done, heach, hend⟩ := exists_completions session steps submitter
  refine ⟨forall₂_submitted session steps submitter, ⟨?_, exists_receipts⟩, done, heach, ?_, ?_⟩
  · rintro ⟨receipts, hok⟩
    rcases hend with ⟨hsteps, -, -⟩ | ⟨_, _, failure, -, hstops⟩
    · rw [hsteps, eachAfter_map]
      intro before c after hsplit
      rw [List.length_map]
      exact ⟨c.call, c.receipt, heach before c after hsplit⟩
    · cases hstops.outcome_eq.symm.trans hok
  · intro receipts hok
    rcases hend with ⟨hsteps, hsubmitted, houtcome⟩ | ⟨_, _, failure, -, hstops⟩
    · exact ⟨hsteps, hsubmitted, Except.ok.inj (hok.symm.trans houtcome)⟩
    · cases hstops.outcome_eq.symm.trans hok
  · intro failure herror
    rcases hend with ⟨-, -, houtcome⟩ | ⟨step, after, failure', hsteps, hstops⟩
    · cases houtcome.symm.trans herror
    · obtain rfl := Except.error.inj (hstops.outcome_eq.symm.trans herror)
      exact ⟨step, after, hsteps, hstops⟩

end Run

end Rollout
