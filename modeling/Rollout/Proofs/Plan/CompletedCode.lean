import Rollout.Proofs.Bytecode.Completion
import Rollout.Proofs.Plan.FinalCode

/-!
# Submitted codes and the texts behind them

Nothing is submitted before the code of a unit has been taken from its linked template, and that is
possible only when the text is nothing but pairs of hexadecimal digits. No text that still holds a
placeholder, or any other character, can stand behind a code that was submitted.
-/

namespace Rollout

namespace Plan

variable {p : Plan} {units : List PlannedUnit} {session : Session} {disk : Disk}
  {submitter : Submitter} {e : Execution} {code : List UInt8}

/-- Whatever a run submits is the code that the last session builds for one of its units. -/
theorem Runs.exists_unit_of_mem_submitted (hruns : Runs p units session disk submitter e)
    (hsubmitted : code ∈ e.submitted) :
    ∃ u ∈ units, p.creationCode e.session submitter.sender u = .ok code := by
  induction hruns with
  | done => cases hsubmitted
  | skipped _ _ ih =>
    obtain ⟨u, hu, hbuilt⟩ := ih hsubmitted
    exact ⟨u, List.mem_cons_of_mem _ hu, hbuilt⟩
  | unbuilt => cases hsubmitted
  | unsettled _ hcode =>
    obtain rfl := List.mem_singleton.mp hsubmitted
    exact ⟨_, List.mem_cons_self, hcode⟩
  | unwritten _ hcode =>
    obtain rfl := List.mem_singleton.mp hsubmitted
    exact ⟨_, List.mem_cons_self, creationCode_mono (Session.prefix_holding _ _) hcode⟩
  | deployed _ hcode _ _ hrest ih =>
    rcases List.mem_cons.mp hsubmitted with rfl | hlater
    · have hhandles := (Session.prefix_holding _ _).trans hrest.prefix_handles
      exact ⟨_, List.mem_cons_self, creationCode_mono hhandles hcode⟩
    · obtain ⟨u, hu, hbuilt⟩ := ih hlater
      exact ⟨u, List.mem_cons_of_mem _ hu, hbuilt⟩

/-- Code is taken from a template exactly if its text is an even number of digits of either case,
and written again it is that text in lowercase. Exactly if two underscores stand in a row the
template is refused for a placeholder. It is reported from the first two of them on, which are found
among the bytes of the text, at a position where the text can be cut; at most forty characters are
reported. In all other cases the template is refused for its digits. Whatever the execution of a
plan submits is therefore the code of a linked template whose text holds nothing but digits,
followed by encoded arguments. -/
theorem completed_codes (p : Plan) (session : Session) (disk : Disk) (submitter : Submitter) :
    (∀ (t : Template) (unit : String),
      ((∃ code, t.toBytes unit = .ok code) ↔ IsDigits t.text ∧ Even t.text.length) ∧
      (∀ code, t.toBytes unit = .ok code ↔
        IsDigits t.text ∧ Hex.encode code = t.text.map Char.toLower) ∧
      ((∃ placeholder, t.toBytes unit = .error (.unlinkedPlaceholder unit placeholder)) ↔
        ['_', '_'] <:+: t.text) ∧
      (∀ placeholder, t.toBytes unit = .error (.unlinkedPlaceholder unit placeholder) ↔
        ∃ i before rest, FirstAt (utf8 ['_', '_']) (utf8 t.text) i ∧ t.text = before ++ rest ∧
          splitAtByte? i t.text = some (before, rest) ∧ FirstAt ['_', '_'] t.text before.length ∧
          placeholder = String.ofList (rest.take 40)) ∧
      (t.toBytes unit = .error (.invalidBytecode unit (Hex.fault t.text)) ↔
        ¬ (IsDigits t.text ∧ Even t.text.length) ∧ ¬ ['_', '_'] <:+: t.text)) ∧
    ∀ code ∈ (p.execute session disk submitter).submitted,
      ∃ u ∈ p.units, ∃ address linked body arguments,
        (p.execute session disk submitter).session.Assigns address u.declaration.dependencies ∧
        p.Links u.name address u.declaration.links u.artifact.bytecode linked ∧
        IsDigits linked.text ∧ Hex.encode body = linked.text.map Char.toLower ∧
        u.artifact.interface.encodeConstructor
          (u.declaration.args.map (Argument.substitute submitter.sender address)) =
            .ok arguments ∧
        code = body ++ arguments := by
  refine ⟨fun t unit => ⟨Template.exists_toBytes_eq_ok, fun _ => Template.toBytes_eq_ok_iff,
    Template.exists_toBytes_eq_unlinkedPlaceholder,
    fun _ => Template.toBytes_eq_unlinkedPlaceholder_iff,
    Template.toBytes_eq_invalidBytecode⟩, fun code hsubmitted => ?_⟩
  have hruns := p.runs_executeUnits p.units session disk submitter
  obtain ⟨u, hu, hbuilt⟩ := hruns.exists_unit_of_mem_submitted hsubmitted
  obtain ⟨address, hassigns⟩ := Session.exists_assigns_iff.mpr (contains_of_creationCode hbuilt)
  obtain ⟨linked, body, arguments, hlinks, hbytes, harguments, hcode⟩ :=
    (creationCode_eq_ok hassigns).mp hbuilt
  obtain ⟨hdigits, hencode⟩ := Template.toBytes_eq_ok_iff.mp hbytes
  exact ⟨u, hu, address, linked, body, arguments, hassigns, hlinks, hdigits, hencode, harguments,
    hcode⟩

/-- The library and the contract that links it are both submitted, and the second code comes from a
text that is nothing but digits once the placeholder is replaced. -/
theorem completed_codes_of_linked :
    ∃ p code, Plan.build linked linkedRegistry = .ok p ∧
      let sender := Address.repeating 9
      let e := p.execute (Session.new 1) .empty (.confirming sender)
      e.submitted[1]? = some code ∧
      ∃ u ∈ p.units, ∃ address linked body arguments,
        e.session.Assigns address u.declaration.dependencies ∧
        p.Links u.name address u.declaration.links u.artifact.bytecode linked ∧
        IsDigits linked.text ∧ Hex.encode body = linked.text.map Char.toLower ∧
        u.artifact.interface.encodeConstructor
          (u.declaration.args.map (Argument.substitute sender address)) = .ok arguments ∧
        code = body ++ arguments := by
  obtain ⟨p, hbuild, hlength⟩ : ∃ p, Plan.build linked linkedRegistry = .ok p ∧
      1 < (p.execute (Session.new 1) .empty
        (.confirming (Address.repeating 9))).submitted.length :=
    ⟨_, rfl, by decide +kernel⟩
  have hsecond := List.getElem?_eq_getElem hlength
  exact ⟨p, _, hbuild, hsecond, (completed_codes p (Session.new 1) .empty
    (.confirming (Address.repeating 9))).2 _ (List.getElem_mem hlength)⟩

end Plan

end Rollout
