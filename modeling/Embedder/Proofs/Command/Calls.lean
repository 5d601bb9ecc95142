import Embedder.Proofs.Calls.Entering
import Embedder.Proofs.Command.Results

/-!
# Calls by text

A command calls a function with texts. They are read before the call is made, as values of the types of
the parameters, and the call looks at the types of the values once more. A function that computes with
vectors or uses atomic accesses passes the same checks, and then its call ends with a trap here.

* `Command.NamesExport`: a request for a function that an instance without imports exports;
* `Command.Enters`: the run comes to the code of the function;
* `Command.CallsByText`: what the run makes of the texts;
* `Command.texts_pass_the_gate`: every such run does.
-/

namespace Embedder

open Execution (Outcome)

namespace Command

/-! ### The gate -/

/-- Values that are read for the parameters can only be refused because of the results. -/
lemma exists_referenceResult {t : FunctionType} {texts : List String} {values : List Value}
    (h : callArguments t texts = .ok values) {fault : SignatureFault}
    (hfault : t.FirstFault values fault) :
    ∃ k u, fault = .referenceResult k u ∧ t.results[k]? = some u ∧ u.isReference = true := by
  have htypes := map_type_of_callArguments h
  cases hfault with
  | referenceResult hu href => exact ⟨_, _, rfl, hu, href⟩
  | argumentCount _ hlength => exact absurd (by rw [← htypes, List.length_map]) hlength
  | argumentType _ _ hu hv hne =>
    rw [← htypes, List.getElem?_map, hv, Option.map_some, Option.some.injEq] at hu
    exact absurd hu hne

/-- **The two checks of a signature agree.** There are values for the call that pass the gate if and
only if there is a text for every parameter, each one is a value of its parameter's type, and no result
is a reference. -/
lemma exists_fault?_eq_none_iff {t : FunctionType} {texts : List String} :
    (∃ values, callArguments t texts = .ok values ∧ t.fault? values = none) ↔
      texts.length = t.params.length ∧ (∀ p ∈ t.params.zip texts, ∃ v, Value.parse? p.1 p.2 = some v) ∧
        ∀ u ∈ t.results, u.isReference = false := by
  rw [← and_assoc, ← exists_callArguments_iff]
  constructor
  · rintro ⟨values, hvalues, hf⟩
    exact ⟨⟨values, hvalues⟩, ((t.fault?_eq_none_iff values).1 hf).1⟩
  · rintro ⟨⟨values, hvalues⟩, hresults⟩
    exact ⟨values, hvalues, (t.fault?_eq_none_iff values).2
      ⟨hresults, map_type_of_callArguments hvalues⟩⟩

/-- No parameter for which a text is read is a reference. -/
lemma isReference_of_callArguments {t : FunctionType} {texts : List String} {values : List Value}
    (h : callArguments t texts = .ok values) : ∀ u ∈ t.params, u.isReference = false := by
  intro u hu
  rw [← map_type_of_callArguments h] at hu
  obtain ⟨v, -, rfl⟩ := List.mem_map.1 hu
  cases v <;> rfl

/-! ### The run -/

/-- A request names a function that an instance of its module exports. The module is no program, and
the instance is made with nothing to import. -/
structure NamesExport (fs : FileSystem) (r : CallRequest) (m : Module) (i : Instance)
    (w : World Unit) (h : Handle FunctionType) : Prop where
  prepared : prepare fs r = .ok (m, .empty)
  plain : version? m = none
  made : (World.create () (.ofFiles fs)).instantiate m .empty = (.made i, w)
  exported : ∃ name, r.function = some name ∧ i.exports.function name = .ok h

/-- The run of a request comes to the code of a function: the texts are read as values, and the call
with these values runs the code. `out` is what comes of it. -/
structure Enters (w : World Unit) (i : Instance) (r : CallRequest) (h : Handle FunctionType)
    (values : List Value) (out : Outcome (World Unit)) : Prop where
  call : callOf i r = .ok (h, values)
  invokes : (Moment.first w (h.call values)).Invokes h.address values out

/-- What a run makes of the texts for a function. -/
structure CallsByText (fs : FileSystem) (r : CallRequest) (i : Instance) (w : World Unit)
    (h : Handle FunctionType) : Prop where
  /-- The function is entered if and only if there is a text for every parameter, each one is a value of
  its parameter's type, and no result is a reference. -/
  enters_iff : (∃ values out, Enters w i r h values out) ↔
    r.arguments.length = h.type.params.length ∧
      (∀ p ∈ h.type.params.zip r.arguments, ∃ v, Value.parse? p.1 p.2 = some v) ∧
      ∀ u ∈ h.type.results, u.isReference = false
  /-- So no parameter of it is a reference. -/
  params : ∀ values out, Enters w i r h values out → ∀ u ∈ h.type.params, u.isReference = false
  /-- Values that are read are those of the texts in their order, and have the types of the parameters
  in their order. -/
  read : ∀ values, callArguments h.type r.arguments = .ok values →
    values.map Value.type = h.type.params ∧
      List.Forall₂ (fun p v => Value.parse? p.1 p.2 = some v) (h.type.params.zip r.arguments) values
  /-- Texts that are not read end the run with what is said of them, and nothing has happened. -/
  unread : ∀ f, Unread h.type r.arguments f → runIn w i r = (.failed f, w)
  /-- Values that are read can still be refused, but only because of a result that is a reference. That
  ends the run as well. -/
  refused : ∀ values fault, callArguments h.type r.arguments = .ok values →
    h.type.FirstFault values fault →
      (∃ k u, fault = .referenceResult k u ∧ h.type.results[k]? = some u ∧ u.isReference = true) ∧
        runIn w i r = (.failed (.ofMessage (CallError.signatureMismatch h.type fault).message), w)
  /-- What comes of the code decides how the run ends. -/
  entered : ∀ values out, Enters w i r h values out →
    runIn w i r = (.ofCall (.ofResult h.type out.result),
      out.world.setGuest h.address.owner (some out.guest))
  /-- Results are those of the code, one of each type, and each is printed on a line of its own, after
  what the program printed. -/
  printed : ∀ results s, runRequest fs r = (.returned results, s) →
    (∃ values out, Enters w i r h values out ∧ out.result = .ok (results.map Cell.ofValue)) ∧
      results.map Value.type = h.type.results ∧
      (report fs (.run r)).output = s.printed ++ utf8 (resultLines results) ∧
      (resultLines results).toList.splitOn '\n' = results.map Value.chars ++ [[]]

variable {fs : FileSystem} {r : CallRequest} {m : Module} {i : Instance} {w : World Unit}
  {h : Handle FunctionType} {values : List Value} {out : Outcome (World Unit)}

lemma Conclusion.ofCall_eq_returned {e : World.Ended (Except CallError (List Value))}
    {results : List Value} (he : Conclusion.ofCall e = .returned results) :
    e = .done (.ok results) := by
  unfold ofCall at he
  split at he
  · cases he
    rfl
  all_goals cases he

namespace NamesExport

variable (hr : NamesExport fs r m i w h)

include hr

lemma callOf_eq : callOf i r = (callArguments h.type r.arguments).map fun values => (h, values) := by
  obtain ⟨ps, -, -, hmodule, -, -⟩ := World.outline_instantiate_made hr.made
  obtain ⟨name, hname, hexport⟩ := hr.exported
  have hplain : version? i.module = none := hmodule ▸ hr.plain
  simp only [callOf, functionName, hname, hexport, hplain]

lemma callOf_eq_ok_iff :
    callOf i r = .ok (h, values) ↔ callArguments h.type r.arguments = .ok values := by
  rw [hr.callOf_eq]
  cases callArguments h.type r.arguments <;> simp [Except.map]

lemma runRequest_eq : runRequest fs r = ((runIn w i r).1, (runIn w i r).2.system) := by
  simp only [runRequest, hr.prepared, runModule, hr.made]

/-- The first moment of the call is one at which code can run. -/
lemma exists_enters_iff : (∃ out, Enters w i r h values out) ↔
    callArguments h.type r.arguments = .ok values ∧ h.type.fault? values = none := by
  obtain ⟨name, -, hexport⟩ := hr.exported
  obtain ⟨ps, hps, -⟩ := World.outline_instantiate_made hr.made
  have himported := m.imported_of_imports (ImportObject.imports_of_resolve_empty hps)
  have hiff : (∃ out, (Moment.first w (h.call values)).Invokes h.address values out) ↔
      h.type.fault? values = none :=
    Moment.Occurs.exists_invokes_iff ⟨(), _, .refl⟩ hr.made .refl hexport (.perform (.done ()))
      (by simp) (by simp [himported])
  rw [← hiff, ← hr.callOf_eq_ok_iff]
  constructor
  · rintro ⟨out, hcall, hinvokes⟩
    exact ⟨hcall, out, hinvokes⟩
  · rintro ⟨hcall, out, hinvokes⟩
    exact ⟨out, hcall, hinvokes⟩

lemma runIn_of_callArguments (hread : callArguments h.type r.arguments = .ok values) :
    runIn w i r = (.ofCall (w.perform (h.call values)).1, (w.perform (h.call values)).2) := by
  simp only [runIn, hr.callOf_eq_ok_iff.2 hread]

lemma runIn_of_unread {f : Failure} (hread : callArguments h.type r.arguments = .error f) :
    runIn w i r = (.failed f, w) := by
  simp only [runIn, hr.callOf_eq, hread, Except.map]

lemma runIn_of_refused {fault : SignatureFault}
    (hread : callArguments h.type r.arguments = .ok values) (hfault : h.type.FirstFault values fault) :
    runIn w i r = (.failed (.ofMessage (CallError.signatureMismatch h.type fault).message), w) := by
  have hf := (h.type.fault?_eq_some_iff values fault).2 hfault
  rw [hr.runIn_of_callArguments hread, Handle.call, hf]
  rfl

/-- The run is over when the code is. -/
lemma runIn_of_enters (hout : Enters w i r h values out) :
    runIn w i r = (.ofCall (.ofResult h.type out.result),
      out.world.setGuest h.address.owner (some out.guest)) := by
  have hends : (Moment.first w (h.call values)).ends = _ :=
    Moment.Invokes.ends_eq (t := Moment.first w (.done ())) hout.invokes
  rw [hr.runIn_of_callArguments (hr.callOf_eq_ok_iff.1 hout.call), Moment.perform_eq_ends, hends]

/-- Only code returns something. -/
lemma exists_enters_of_returned {results : List Value} (hrun : (runIn w i r).1 = .returned results) :
    ∃ values out, Enters w i r h values out ∧
      World.Ended.ofResult h.type out.result = .done (.ok results) := by
  cases hread : callArguments h.type r.arguments with
  | error f =>
    rw [hr.runIn_of_unread hread] at hrun
    cases hrun
  | ok values =>
    cases hf : h.type.fault? values with
    | some fault =>
      rw [hr.runIn_of_refused hread ((h.type.fault?_eq_some_iff values fault).1 hf)] at hrun
      cases hrun
    | none =>
      obtain ⟨out, hout⟩ := hr.exists_enters_iff.2 ⟨hread, hf⟩
      rw [hr.runIn_of_enters hout] at hrun
      exact ⟨values, out, hout, Conclusion.ofCall_eq_returned hrun⟩

end NamesExport

/-- **The texts of a command pass the gate of the call if they are values**, but for a result that the
host cannot read. For a module that is no program and whose instance has nothing to import, and for
every function that it exports, a run enters the function exactly if there is a text for every
parameter that is a value of the parameter's type and no result is a reference. What is read has the
types that the call asks for, in their order, so a call is only refused for its results. Texts that
are not read are told first; in both cases nothing has happened. Results of the code are printed line
by line. -/
theorem texts_pass_the_gate (hr : NamesExport fs r m i w h) : CallsByText fs r i w h where
  enters_iff := by
    rw [← exists_fault?_eq_none_iff]
    exact exists_congr fun values => hr.exists_enters_iff
  params values out hout := isReference_of_callArguments (hr.callOf_eq_ok_iff.1 hout.call)
  read values hread := ⟨map_type_of_callArguments hread, (callArguments_eq_ok_iff.1 hread).2⟩
  unread f hf := hr.runIn_of_unread (callArguments_eq_error_iff.2 hf)
  refused values fault hread hfault :=
    ⟨exists_referenceResult hread hfault, hr.runIn_of_refused hread hfault⟩
  entered values out := hr.runIn_of_enters
  printed results s hrun := by
    have hreturned : (runIn w i r).1 = .returned results :=
      congrArg Prod.fst (hr.runRequest_eq.symm.trans hrun)
    obtain ⟨values, out, hout, hends⟩ := hr.exists_enters_of_returned hreturned
    obtain ⟨name, -, hexport⟩ := hr.exported
    obtain ⟨hresult, htypes⟩ := Moment.Occurs.returned_of_invokes ⟨(), _, .refl⟩ hr.made .refl hexport
      (.perform (.done ())) hout.invokes hends
    exact ⟨⟨values, out, hout, hresult⟩, htypes, output_of_returned hrun,
      splitOn_resultLines results⟩

/-- Two integers enter the function that swaps them; one integer does not, and neither does a word. -/
theorem two_integers_enter_swap :
    ∃ i w h, h.type = ⟨[.i64, .i32], [.i32, .i64]⟩ ∧
      (∃ values out, Enters w i (swapRequest ["-5", "7"]) h values out) ∧
      (¬ ∃ values out, Enters w i (swapRequest ["-5"]) h values out) ∧
      (¬ ∃ values out, Enters w i (swapRequest ["-5", "seven"]) h values out) ∧
      ∃ s, runRequest swapFiles (swapRequest ["-5", "7"]) = (.returned [.i32 7, .i64 (-5)], s) ∧
        (report swapFiles (.run (swapRequest ["-5", "7"]))).output = s.printed ++ utf8 "7\n-5\n" := by
  obtain ⟨m, i, w, h, hprepare, hplain, hmade, hexport, htype, -⟩ := exists_swap
  obtain ⟨s, hrun⟩ := exists_runRequest_swap
  have hgate (texts : List String) : CallsByText swapFiles (swapRequest texts) i w h :=
    texts_pass_the_gate ⟨hprepare texts, hplain, hmade, "swap", rfl, hexport⟩
  have hread : ∀ p ∈ [ValueType.i64, .i32].zip ["-5", "7"], (Value.parse? p.1 p.2).isSome = true := by
    decide
  refine ⟨i, w, h, htype, (hgate _).enters_iff.2 ?_, fun hone => ?_, fun hword => ?_, s, hrun, ?_⟩
  · rw [htype]
    exact ⟨rfl, fun p hp => Option.isSome_iff_exists.1 (hread p hp), by decide⟩
  · have hlength := ((hgate _).enters_iff.1 hone).1
    rw [htype] at hlength
    cases hlength
  · have htexts := ((hgate _).enters_iff.1 hword).2.1
    rw [htype] at htexts
    obtain ⟨v, hv⟩ := htexts (.i32, "seven") (by decide)
    cases hv
  · exact ((hgate _).printed _ s hrun).2.2.1

end Command

end Embedder
