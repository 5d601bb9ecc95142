import Mathlib
import Embedder.Command.Report
import Embedder.Proofs.Command.Arguments
import Embedder.Proofs.Values.Texts

/-!
# Results as arguments

What one run prints can be put behind the separator of the next one.

* `Command.splitOn_resultLines`: the results are printed in one line each;
* `Command.output_of_returned`: after what the program printed;
* `Command.callArguments_text`: integers that were printed are the values of a call, and vectors are not;
* `Command.printed_integers_are_read_back`: all of it, from one run to the next.
-/

namespace Embedder.Command

/-! ### One line for every result -/

lemma toList_resultLines (results : List Value) :
    (resultLines results).toList = results.flatMap fun v => v.chars ++ ['\n'] := by
  have hline (v : Value) : (v.text ++ "\n").toList = v.chars ++ ['\n'] := by
    rw [String.toList_append, Value.text, String.toList_ofList]
    rfl
  simp only [resultLines, String.toList_join, List.flatMap_map, hline]

/-- **Every result is a line.** Behind the last line there is nothing. -/
theorem splitOn_resultLines (results : List Value) :
    (resultLines results).toList.splitOn '\n' = results.map Value.chars ++ [[]] := by
  rw [toList_resultLines]
  induction results with
  | nil => rfl
  | cons v results ih =>
    rw [List.flatMap_cons, List.append_assoc, List.singleton_append,
      List.splitOn_append_cons_self_of_not_mem v.newline_notMem_chars, ih]
    rfl

lemma output_of_returned {fs : FileSystem} {r : CallRequest} {results : List Value} {s : Wasi.System}
    (h : runRequest fs r = (.returned results, s)) :
    (report fs (.run r)).output = s.printed ++ utf8 (resultLines results) := by
  simp only [report, h, Conclusion.report]

/-! ### The next call -/

variable {t : FunctionType} {results : List Value}

/-- Integers that were printed are read as the same values. -/
lemma callArguments_text (ht : t.params = results.map Value.type)
    (h : ∀ v ∈ results, v.type = .i32 ∨ v.type = .i64) :
    callArguments t (results.map Value.text) = .ok results := by
  rw [callArguments_eq_ok_iff, ht, List.zip_map', List.forall₂_map_left_iff, List.forall₂_same]
  refine ⟨by simp, fun v hv => Value.parse?_text_of_word (h v hv)⟩

/-- A vector that was printed is not read at all. -/
lemma callArguments_text_of_vector (ht : t.params = results.map Value.type) {v : Value}
    (hv : v ∈ results) (hvector : v.type = .v128) :
    ∃ f, callArguments t (results.map Value.text) = .error f := by
  cases hread : callArguments t (results.map Value.text) with
  | error f => exact ⟨f, rfl⟩
  | ok values =>
    obtain ⟨-, hall⟩ := exists_callArguments_iff.1 ⟨values, hread⟩
    rw [ht, List.zip_map'] at hall
    obtain ⟨v', hv'⟩ := hall _ (List.mem_map_of_mem hv)
    rw [Value.parse?_text_of_vector hvector] at hv'
    cases hv'

/-- **What one run prints the next one reads if it is no vector.** Of the integer types, a value that is
printed is read back as the same value if and only if it is no vector: a vector is printed in
hexadecimal and read in decimal, so it is never read. Results are printed one by one, and with the same
texts behind its separator the next command has them for its arguments. For a function with parameters
of their types they are the values that were printed, unless one is a vector, and then there is no call
at all. -/
theorem printed_integers_are_read_back {results : List Value}
    (htypes : ∀ v ∈ results, v.type = .i32 ∨ v.type = .i64 ∨ v.type = .v128) :
    (∀ v ∈ results, (Value.parse? v.type v.text = some v ↔ v.type ≠ .v128) ∧
      (v.type = .v128 → Value.parse? v.type v.text = none)) ∧
    (∀ fs r s, runRequest fs r = (.returned results, s) →
      (report fs (.run r)).output = s.printed ++ utf8 (resultLines results) ∧
      (resultLines results).toList.splitOn '\n' = results.map Value.chars ++ [[]]) ∧
    (∀ words next, ofArguments? (words ++ ["--"]) = some (.run next) → next.arguments = [] →
      ofArguments? (words ++ "--" :: results.map Value.text) =
        some (.run { next with arguments := results.map Value.text })) ∧
    ∀ t : FunctionType, t.params = results.map Value.type →
      (callArguments t (results.map Value.text) = .ok results ↔ ∀ v ∈ results, v.type ≠ .v128) ∧
      ((∃ v ∈ results, v.type = .v128) → ∃ f, callArguments t (results.map Value.text) = .error f) := by
  have hword {v : Value} (hv : v ∈ results) (hne : v.type ≠ .v128) : v.type = .i32 ∨ v.type = .i64 := by
    rcases htypes v hv with h | h | h
    · exact .inl h
    · exact .inr h
    · exact absurd h hne
  refine ⟨fun v hv => ⟨⟨fun hread hvector => ?_, fun hne => Value.parse?_text_of_word (hword hv hne)⟩,
    Value.parse?_text_of_vector⟩,
    fun fs r s hrun => ⟨output_of_returned hrun, splitOn_resultLines results⟩,
    fun words next hwords hnext => ofArguments?_append hwords hnext _, fun t ht => ⟨⟨?_, ?_⟩, ?_⟩⟩
  · rw [Value.parse?_text_of_vector hvector] at hread
    cases hread
  · intro hread v hv hvector
    obtain ⟨f, hf⟩ := callArguments_text_of_vector ht hv hvector
    rw [hread] at hf
    cases hf
  · exact fun hne => callArguments_text ht fun v hv => hword hv (hne v hv)
  · rintro ⟨v, hv, hvector⟩
    exact callArguments_text_of_vector ht hv hvector

/-- The vector 5 is printed with its 32 digits, and this is no vector. -/
theorem printed_vector_is_not_read :
    (Value.v128 5).text = "0x00000000000000000000000000000005" ∧
      Value.parse? (Value.v128 5).type (Value.v128 5).text ≠ some (.v128 5) := by
  decide

/-! ### A module that swaps -/

/-- The binary of a module with one function: it takes an integer of 64 bits and one of 32 bits and
gives them back in the other order. -/
def swapBinary : List UInt8 :=
  [0, 0x61, 0x73, 0x6d, 1, 0, 0, 0, 1, 8, 1, 0x60, 2, 0x7e, 0x7f, 2, 0x7f, 0x7e, 3, 2, 1, 0,
    7, 8, 1, 4, 0x73, 0x77, 0x61, 0x70, 0, 0, 10, 8, 1, 6, 0, 0x20, 1, 0x20, 0, 0x0b]

/-- Files with this module. -/
def swapFiles : FileSystem := ⟨#[.directory (some 0) [("swap", 1)], .file swapBinary], 0⟩

def swapRequest (texts : List String) : CallRequest := ⟨"swap", some "swap", [], [], none, texts⟩

/-- The module is no program, it exports the function, and a run with -5 and 7 returns 7 and -5. -/
def swaps (m : Module) : Bool :=
  (version? m).isNone &&
    match (World.create () (.ofFiles swapFiles)).instantiate m .empty with
    | (.made i, w) =>
      match i.exports.function "swap" with
      | .ok h =>
        h.type == ⟨[.i64, .i32], [.i32, .i64]⟩ &&
          (runIn w i (swapRequest ["-5", "7"])).1 == .returned [.i32 7, .i64 (-5)]
      | .error _ => false
    | _ => false

lemma exists_swap : ∃ m i w h, (∀ texts, prepare swapFiles (swapRequest texts) = .ok (m, .empty)) ∧
    version? m = none ∧
    (World.create () (.ofFiles swapFiles)).instantiate m .empty = (.made i, w) ∧
    i.exports.function "swap" = .ok h ∧ h.type = ⟨[.i64, .i32], [.i32, .i64]⟩ ∧
    (runIn w i (swapRequest ["-5", "7"])).1 = .returned [.i32 7, .i64 (-5)] := by
  have hread : swapFiles.read "swap" = .ok swapBinary := by cbv
  have hswaps : ((Module.compile (.standard engineNumber) swapBinary).toOption.any
      fun m => swaps (named "swap" m)) = true := by decide +kernel
  cases hm : Module.compile (.standard engineNumber) swapBinary with
  | error e =>
    rw [hm] at hswaps
    cases hswaps
  | ok m =>
    simp only [hm, Except.toOption, Option.any_some, swaps, Bool.and_eq_true,
      Option.isNone_iff_eq_none] at hswaps
    obtain ⟨hplain, hswaps⟩ := hswaps
    split at hswaps
    · rename_i i w hi
      split at hswaps
      · rename_i h hexport
        obtain ⟨htype, hrun⟩ := Bool.and_eq_true_iff.1 hswaps
        refine ⟨_, i, w, h, fun texts => ?_, hplain, hi, hexport, beq_iff_eq.1 htype,
          of_decide_eq_true hrun⟩
        simp only [prepare, loadEngine, swapRequest, loadModule, hread, hm, importsFor, hplain,
          Except.map]
      · cases hswaps
    · cases hswaps

lemma exists_runRequest_swap : ∃ s, runRequest swapFiles (swapRequest ["-5", "7"]) =
    (.returned [.i32 7, .i64 (-5)], s) := by
  obtain ⟨m, i, w, h, hprepare, -, hmade, -, -, hrun⟩ := exists_swap
  refine ⟨(runIn w i (swapRequest ["-5", "7"])).2.system, ?_⟩
  simp only [runRequest, hprepare, runModule, hmade, hrun]

/-- What was swapped is put behind the next command, which has the same integers for arguments. -/
theorem swapped_integers_are_read_back :
    ∃ s, runRequest swapFiles (swapRequest ["-5", "7"]) = (.returned [.i32 7, .i64 (-5)], s) ∧
      (report swapFiles (.run (swapRequest ["-5", "7"]))).output = s.printed ++ utf8 "7\n-5\n" ∧
      ofArguments? (["run", "swap", "--invoke", "swap"] ++ ["--", "7", "-5"]) =
        some (.run (swapRequest ["7", "-5"])) ∧
      callArguments ⟨[.i32, .i64], []⟩ ["7", "-5"] = .ok [.i32 7, .i64 (-5)] := by
  obtain ⟨s, hrun⟩ := exists_runRequest_swap
  have htypes : ∀ v ∈ [Value.i32 7, .i64 (-5)], v.type = .i32 ∨ v.type = .i64 ∨ v.type = .v128 := by
    decide
  obtain ⟨-, hprinted, hwords, hread⟩ := printed_integers_are_read_back htypes
  have hnext := hwords ["run", "swap", "--invoke", "swap"] (swapRequest []) (by decide +kernel) rfl
  exact ⟨s, hrun, (hprinted _ _ s hrun).1, hnext, (hread ⟨[.i32, .i64], []⟩ rfl).1.2 (by decide)⟩

end Embedder.Command
