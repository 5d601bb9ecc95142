import Embedder.Command.Run
import Embedder.Proofs.Lists

/-!
# Arguments of a command

* `Command.ofArguments?_append`: what stands behind the separator are arguments, whatever it looks like;
* `Command.parseArguments_eq_ok_iff`: every text is read as its parameter's type;
* `Command.callArguments_eq_ok_iff`: which texts are values for a function;
* `Command.Unread`, `Command.callArguments_eq_error_iff`: what is said of the others.
-/

namespace Embedder.Command

/-! ### Behind the separator -/

namespace Words

variable {flags valued : List String}

/-- The same words with others behind the separator. -/
def withRest (ws : Words) (texts : List String) : Words := { ws with rest := texts }

/-- What is added in front leaves what is behind the separator alone. -/
lemma map_withRest {words words' : List String} {texts : List String} (add : Words → Words)
    (hadd : ∀ ws texts, (add ws).withRest texts = add (ws.withRest texts))
    (hrest : ∀ ws, (add ws).rest = ws.rest)
    (ih : ∀ {ws}, ofList? flags valued words = some ws → ws.rest = [] →
      ofList? flags valued words' = some (ws.withRest texts)) {ws : Words}
    (h : (ofList? flags valued words).map add = some ws) (hws : ws.rest = []) :
    (ofList? flags valued words').map add = some (ws.withRest texts) := by
  obtain ⟨ws, hread, rfl⟩ := Option.map_eq_some_iff.1 h
  rw [hrest] at hws
  rw [ih hread hws, Option.map_some, hadd]

/-- The words in front of the separator do not depend on those behind it. -/
lemma ofList?_append {words : List String} {ws : Words}
    (h : ofList? flags valued (words ++ ["--"]) = some ws) (hws : ws.rest = []) (texts : List String) :
    ofList? flags valued (words ++ "--" :: texts) = some (ws.withRest texts) := by
  have hseparator : Word.ofText "--" = .separator := by decide
  induction words using ofList?.induct flags valued generalizing ws with
  | case1 =>
    simp only [List.nil_append, ofList?, hseparator] at h ⊢
    obtain rfl := Option.some.inj h
    rfl
  | case2 w words hw =>
    -- an earlier separator would have this one behind it
    simp only [List.cons_append, ofList?, hw, Option.some.injEq] at h
    subst h
    simp at hws
  | case3 w words hw =>
    simp [ofList?, hw] at h
  | case4 w words s hw ih =>
    simp only [List.cons_append, ofList?, hw] at h ⊢
    exact map_withRest (addPlain s) (fun _ _ => rfl) (fun _ => rfl) ih h hws
  | case5 w words name value hw hname ih =>
    simp only [List.cons_append, ofList?, hw, hname, if_true] at h ⊢
    exact map_withRest (addOption name value) (fun _ _ => rfl) (fun _ => rfl) ih h hws
  | case6 w words name value hw hname =>
    simp [ofList?, hw, hname] at h
  | case7 w words name hw hname ih =>
    simp only [List.cons_append, ofList?, hw, hname, if_true] at h ⊢
    exact map_withRest (addFlag name) (fun _ _ => rfl) (fun _ => rfl) ih h hws
  | case8 w name hw hflag hname =>
    simp [ofList?, hw, hflag, hname, hseparator] at h
  | case9 w name hw hflag hname v words value hv ih =>
    simp only [List.cons_append, ofList?, hw, hflag, hname, hv, if_true, if_false] at h ⊢
    exact map_withRest (addOption name value) (fun _ _ => rfl) (fun _ => rfl) ih h hws
  | case10 w name hw hflag hname v words hv =>
    -- the value of the option would be no plain word
    simp [ofList?, hw, hflag, hname] at h
  | case11 w words name hw hflag hname =>
    simp [ofList?, hw, hflag, hname] at h

end Words

/-- The words behind the separator are the arguments of a run. -/
lemma runOf?_eq_some_run {ws : Words} {r : CallRequest} (h : runOf? ws = some (.run r)) :
    r.arguments = ws.rest ∧
      ∀ texts, runOf? (ws.withRest texts) = some (.run { r with arguments := texts }) := by
  unfold runOf? at h
  split at h
  · rename_i file function config hfile hfunction hconfig
    split at h
    · cases h
    · rename_i hempty
      cases h
      refine ⟨rfl, fun texts => ?_⟩
      have hplain : (ws.withRest texts).plain = ws.plain := rfl
      have hvalue (name : String) : (ws.withRest texts).value? name = ws.value? name := rfl
      simp only [runOf?, hplain, hvalue, hfile, hfunction, hconfig, hempty, if_false]
      rfl
  · cases h

lemma inspectOf?_ne_run (ws : Words) (r : CallRequest) : inspectOf? ws ≠ some (.run r) := by
  unfold inspectOf?
  split <;> simp

/-- **What stands behind the separator are the arguments, whatever it looks like.** -/
theorem ofArguments?_append {words : List String} {r : CallRequest}
    (h : ofArguments? (words ++ ["--"]) = some (.run r)) (hr : r.arguments = [])
    (texts : List String) :
    ofArguments? (words ++ "--" :: texts) = some (.run { r with arguments := texts }) := by
  cases words with
  | nil => cases h
  | cons w words =>
    rw [List.cons_append] at h ⊢
    unfold ofArguments? at h
    split at h
    · obtain ⟨ws, -, hws⟩ := Option.bind_eq_some_iff.1 h
      exact absurd hws (inspectOf?_ne_run ws r)
    · rename_i _ words' hwords
      obtain ⟨rfl, rfl⟩ := List.cons.inj hwords
      obtain ⟨ws, hread, hws⟩ := Option.bind_eq_some_iff.1 h
      obtain ⟨hrest, hrun⟩ := runOf?_eq_some_run hws
      simp only [ofArguments?]
      rw [Words.ofList?_append hread (hrest.symm.trans hr) texts]
      exact hrun texts
    · cases h

/-! ### Texts as values -/

variable {types : List ValueType} {texts : List String} {values : List Value}

/-- Reads a text as a value of a type. -/
def parseArgument (p : ValueType × String) : Except Failure Value :=
  match Value.parse? p.1 p.2 with
  | none => .error (.ofMessage ("Cannot parse '" ++ p.2 ++ "' as " ++ p.1.text))
  | some v => .ok v

lemma parseArgument_eq_ok_iff {p : ValueType × String} {v : Value} :
    parseArgument p = .ok v ↔ Value.parse? p.1 p.2 = some v := by
  unfold parseArgument
  cases Value.parse? p.1 p.2 <;> simp

/-- The texts are read one after the other, each as the type of its parameter. -/
lemma parseArguments_eq_mapM (types : List ValueType) (texts : List String) :
    parseArguments types texts = (types.zip texts).mapM parseArgument := by
  induction types generalizing texts with
  | nil => rfl
  | cons t types ih =>
    cases texts with
    | nil => rfl
    | cons text texts =>
      rw [parseArguments, ih, List.zip_cons_cons, List.mapM_cons, parseArgument]
      cases Value.parse? t text with
      | none => rfl
      | some v =>
        cases (types.zip texts).mapM parseArgument <;> rfl

lemma parseArguments_eq_ok_iff : parseArguments types texts = .ok values ↔
    List.Forall₂ (fun p v => Value.parse? p.1 p.2 = some v) (types.zip texts) values := by
  rw [parseArguments_eq_mapM, Elementwise.mapM_eq_ok_iff]
  simp only [parseArgument_eq_ok_iff]

/-- What is read as a value of a type has the type. -/
lemma type_of_parse? {t : ValueType} {text : String} {v : Value} (h : Value.parse? t text = some v) :
    v.type = t := by
  unfold Value.parse? Value.parseChars? at h
  cases t with
  | externref | funcref => cases h
  | _ =>
    obtain ⟨_, -, rfl⟩ := Option.map_eq_some_iff.1 h
    rfl

/-! ### Texts as the values of a call -/

variable {t : FunctionType}

/-- **The values of a call are read from as many texts as there are parameters**, one after the
other. -/
theorem callArguments_eq_ok_iff : callArguments t texts = .ok values ↔
    texts.length = t.params.length ∧
      List.Forall₂ (fun p v => Value.parse? p.1 p.2 = some v) (t.params.zip texts) values := by
  unfold callArguments
  split
  · rename_i hlength
    rw [parseArguments_eq_ok_iff]
    exact (and_iff_right hlength.symm).symm
  · rename_i hlength
    refine iff_of_false (by simp) fun h => hlength h.1.symm

/-- The values have the types of the parameters. -/
theorem map_type_of_callArguments (h : callArguments t texts = .ok values) :
    values.map Value.type = t.params := by
  obtain ⟨hlength, hread⟩ := callArguments_eq_ok_iff.1 h
  have htypes : (t.params.zip texts).map Prod.fst = values.map Value.type :=
    Elementwise.map_eq_map_of_forall₂ (hread.imp fun p v hv => (type_of_parse? hv).symm)
  rw [← htypes, List.map_fst_zip (Nat.le_of_eq hlength.symm)]

lemma exists_callArguments_iff : (∃ values, callArguments t texts = .ok values) ↔
    texts.length = t.params.length ∧
      ∀ p ∈ t.params.zip texts, ∃ v, Value.parse? p.1 p.2 = some v := by
  simp only [callArguments_eq_ok_iff, exists_and_left, Elementwise.exists_forall₂_iff]

/-- Why texts are no values for the parameters, and what is said then: they are too many or too few, or
else one of them, and no one before it, is no value of its parameter's type. -/
inductive Unread (t : FunctionType) (texts : List String) : Failure → Prop
  | count (hlength : texts.length ≠ t.params.length) :
      Unread t texts (.ofMessage ("Expected " ++ toString t.params.length ++ " argument(s), got " ++
        toString texts.length))
  | text {pre post : List (ValueType × String)} {u : ValueType} {text : String}
      (hlength : texts.length = t.params.length)
      (hzip : t.params.zip texts = pre ++ (u, text) :: post)
      (hbefore : ∀ p ∈ pre, ∃ v, Value.parse? p.1 p.2 = some v)
      (hnone : Value.parse? u text = none) :
      Unread t texts (.ofMessage ("Cannot parse '" ++ text ++ "' as " ++ u.text))

/-- **There are no values for the call exactly if texts are not read**, and this is said of them. -/
theorem callArguments_eq_error_iff {f : Failure} :
    callArguments t texts = .error f ↔ Unread t texts f := by
  have hfirst (p : ValueType × String) : parseArgument p = .error f ↔
      Value.parse? p.1 p.2 = none ∧ f = .ofMessage ("Cannot parse '" ++ p.2 ++ "' as " ++ p.1.text) := by
    unfold parseArgument
    cases Value.parse? p.1 p.2 <;> simp [eq_comm]
  unfold callArguments
  split
  · rename_i hlength
    rw [parseArguments_eq_mapM, Elementwise.mapM_eq_error_iff]
    simp only [parseArgument_eq_ok_iff, hfirst]
    constructor
    · rintro ⟨pre, ⟨u, text⟩, post, hzip, hbefore, hnone, rfl⟩
      exact .text hlength.symm hzip hbefore hnone
    · rintro (hne | ⟨-, hzip, hbefore, hnone⟩)
      · exact absurd hlength.symm hne
      · exact ⟨_, _, _, hzip, hbefore, hnone, rfl⟩
  · rename_i hlength
    constructor
    · intro h
      cases h
      exact .count (Ne.symm hlength)
    · rintro (hne | ⟨heq⟩)
      · rfl
      · exact absurd heq.symm hlength

end Embedder.Command
