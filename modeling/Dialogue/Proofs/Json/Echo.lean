/-
What comes back of a flow that is written as JSON. Only its doubles can change: the echo of the flow's document is the
document, as it is reread, of the flow with the doubles that its own are read as. So all that is known of rereading
documents holds for the text as well.
-/
import Dialogue.Proofs.Document.Nesting
import Dialogue.Proofs.Json.Pretty
import Dialogue.Proofs.Shape.Flow
import Dialogue.Proofs.Shape.Range

namespace Dialogue

open Document

namespace Json

/-! ## Numbers -/

variable {x : Binary}

theorem isDouble_echoNumber_double (hx : x.Fits .double) (hfinite : x.isFinite = true) :
    IsDouble (echoNumber (.double x)) := by
  cases x with
  | finite s m e => exact NumberText.isDouble_ofFinite (by decide) (by decide) (by decide) (.inl rfl) hx
  | _ => cases hfinite

theorem isDouble_echoNumber_single (hx : x.Fits .single) (hfinite : x.isFinite = true) :
    IsDouble (echoNumber (.single x)) := by
  cases x with
  | finite s m e => exact NumberText.isDouble_ofFinite (by decide) (by decide) (by decide) (.inr rfl) hx
  | _ => cases hfinite

/-- The double that the text of a double is read as; what is not finite stays as it is. -/
def redouble (x : Binary) : Binary :=
  match echoNumber (.double x) with
  | .number n => n.toDouble
  | _ => x

/-- The number that the digits of a single are read as. -/
def echoDigits (x : Binary) : Number :=
  match echoNumber (.single x) with
  | .number n => n
  | _ => .single x

theorem isFinite_redouble (hx : x.Fits .double) : (redouble x).isFinite = x.isFinite := by
  cases hfinite : x.isFinite with
  | true =>
    obtain ⟨y, hy, hyfinite⟩ := isDouble_echoNumber_double hx hfinite
    rw [redouble, hy]
    exact hyfinite
  | false =>
    cases x with
    | finite s m e => cases hfinite
    | _ => rfl

theorem echo_double (digits : Binary → Number) (hx : x.Fits .double) :
    echo (Document.number (.double x)) = reread digits (Document.number (.double (redouble x))) := by
  cases hfinite : x.isFinite with
  | true =>
    rw [reread_double ((isFinite_redouble hx).trans hfinite)]
    obtain ⟨y, hy, -⟩ := isDouble_echoNumber_double hx hfinite
    have hecho : echo (Document.number (.double x)) = .leaf (.strict (echoNumber (.double x))) := rfl
    rw [hecho, redouble, hy]
    rfl
  | false =>
    cases x with
    | finite s m e => cases hfinite
    | _ => rfl

theorem echo_single (hx : x.Fits .single) : echo (single x) = reread echoDigits (single x) := by
  cases hfinite : x.isFinite with
  | true =>
    rw [single, reread_single hfinite]
    obtain ⟨y, hy, -⟩ := isDouble_echoNumber_single hx hfinite
    have hecho : echo (Document.number (.single x)) = .leaf (.strict (echoNumber (.single x))) := rfl
    rw [hecho, echoDigits, hy]
    rfl
  | false =>
    cases x with
    | finite s m e => cases hfinite
    | _ => rfl

/-! ## Documents -/

@[simp] theorem echo_text (s : String) : echo (Document.text s) = Document.text s := rfl

@[simp] theorem echo_bool (b : Bool) : echo (bool b) = bool b := rfl

@[simp] theorem echo_nat (n : Nat) : echo (nat n) = nat n := rfl

@[simp] theorem echo_items (ds : List Document) : echo (items ds) = items (ds.map echo) := by
  rw [items, echo, echoAll_eq]
  rfl

/-- The fields of a record as their texts are read. -/
def echoFields (fields : List (String × Document)) : List (String × Document) := fields.map fun f => (f.1, echo f.2)

@[simp] theorem echo_record (fields : List (String × Document)) :
    echo (record fields) = record (echoFields fields) := by
  rw [record, echo, echoEntries_eq, record, echoFields, List.map_map, List.map_map]
  rfl

@[simp] theorem echoFields_nil : echoFields [] = [] := rfl

@[simp] theorem echoFields_cons (name : String) (d : Document) (rest : List (String × Document)) :
    echoFields ((name, d) :: rest) = (name, echo d) :: echoFields rest := rfl

@[simp] theorem echoFields_append (xs ys : List (String × Document)) :
    echoFields (xs ++ ys) = echoFields xs ++ echoFields ys := List.map_append

@[simp] theorem echoFields_given (name : String) (d : Option Document) :
    echoFields (given name d) = given name (d.map echo) := by
  cases d <;> rfl

@[simp] theorem echoFields_listed (name : String) (ds : List Document) :
    echoFields (listed name ds) = listed name (ds.map echo) := by
  cases ds with
  | nil => rfl
  | cons d rest => simp [listed]

mutual
/-- What is read is nested as what was written. -/
theorem nesting_echo : ∀ d : Document, (echo d).nesting = d.nesting
  | .leaf _ => rfl
  | .list _ ds => by rw [echo, nesting, nesting, nestingAll_echoAll ds]
  | .table _ entries => by rw [echo, nesting, nesting, nestingEntries_echoEntries entries]
  | .labelled _ d => by rw [echo, nesting, nesting_echo d]
  | .shared d => by rw [echo, nesting, nesting_echo d]

theorem nestingAll_echoAll : ∀ ds : List Document, nestingAll (echoAll ds) = nestingAll ds
  | [] => rfl
  | d :: rest => by rw [echoAll, nestingAll, nestingAll, nesting_echo d, nestingAll_echoAll rest]

theorem nestingEntries_echoEntries : ∀ entries : List (Document × Document),
    nestingEntries (echoEntries entries) = nestingEntries entries
  | [] => rfl
  | (k, d) :: rest => by
    rw [echoEntries, nestingEntries, nestingEntries, nesting_echo k, nesting_echo d, nestingEntries_echoEntries rest]
end

end Json

open Json

/-! ## Values -/

mutual
/-- A value with the doubles that its own are read as. -/
def Value.redoubled : Value → Value
  | .number (.double x) => .number (.double (redouble x))
  | .list vs => .list (redoubledAll vs)
  | .object fields => .object (redoubledFields fields)
  | v => v

/-- A list of values with the doubles that their own are read as. -/
def Value.redoubledAll : List Value → List Value
  | [] => []
  | v :: rest => v.redoubled :: redoubledAll rest

/-- The fields of an object with the doubles that their own are read as. -/
def Value.redoubledFields : List (String × Value) → List (String × Value)
  | [] => []
  | (k, v) :: rest => (k, v.redoubled) :: redoubledFields rest
end

theorem Value.redoubledAll_eq (vs : List Value) : redoubledAll vs = vs.map redoubled := by
  induction vs with
  | nil => rfl
  | cons v rest ih => rw [redoubledAll, ih, List.map_cons]

theorem Value.redoubledFields_eq (fields : List (String × Value)) :
    redoubledFields fields = fields.map fun f => (f.1, f.2.redoubled) := by
  induction fields with
  | nil => rfl
  | cons f rest ih => rw [redoubledFields, ih, List.map_cons]

theorem Value.ordered_redoubled {fields : List (String × Value)} (h : Entries.Ordered fields) :
    Entries.Ordered (fields.map fun f => (f.1, f.2.redoubled)) := List.pairwise_map.2 h

/-- The echo of a value's document is the document of a value. -/
theorem Value.FromText.echo {v : Value} (h : v.FromText) :
    v.redoubled.WellFormed ∧ Json.echo (ofValue v) = ofValue v.redoubled := by
  obtain ⟨hv, hd⟩ := h
  induction hv with
  | null => exact ⟨.null, rfl⟩
  | bool => exact ⟨.bool, rfl⟩
  | integer => exact ⟨.integer, rfl⟩
  | @double x hfinite =>
    cases hd with
    | leaf hx =>
      have hfinite' := (isFinite_redouble hx).trans hfinite
      exact ⟨.double hfinite', (echo_double Number.single hx).trans (reread_double hfinite')⟩
  | text => exact ⟨.text, rfl⟩
  | @list vs hvs ih =>
    rw [ofValue, ofValues_eq] at hd
    cases hd with
    | list hds =>
      rw [List.forall_mem_map] at hds
      rw [redoubled, redoubledAll_eq, ofValue, ofValues_eq, ofValue, ofValues_eq, Json.echo, echoAll_eq]
      refine ⟨.list (List.forall_mem_map.2 fun v hv => (ih v hv (hds v hv)).1), ?_⟩
      rw [List.map_map, List.map_map]
      congr 1
      exact List.map_congr_left fun v hv => (ih v hv (hds v hv)).2
  | @object fields ho hf ih =>
    rw [ofValue, ofFields_eq] at hd
    cases hd with
    | table hkeys hds =>
      rw [List.forall_mem_map] at hds
      rw [redoubled, redoubledFields_eq, ofValue, ofFields_eq, ofValue, ofFields_eq, Json.echo, echoEntries_eq]
      refine ⟨.object (ordered_redoubled ho) (List.forall_mem_map.2 fun f hf => (ih f hf (hds f hf)).1), ?_⟩
      rw [List.map_map, List.map_map]
      congr 1
      exact List.map_congr_left fun f hf => Prod.ext rfl (ih f hf (hds f hf)).2

/-! ## Parts without numbers -/

section

variable (digits : Binary → Number)

theorem Choice.echo_toDocument (c : Choice) : echo c.toDocument = reread digits c.toDocument := by
  simp [toDocument]

theorem Branch.echo_toDocument (b : Branch) : echo b.toDocument = reread digits b.toDocument := by
  cases b <;> simp [toDocument]

theorem echo_textTable (dictionary : Dictionary String) :
    echo (textTable dictionary) = reread digits (textTable dictionary) := by
  simp [textTable, echoFields, rereadFields, Function.comp_def]

theorem Connection.echo_toDocument (c : Connection) : echo c.toDocument = reread digits c.toDocument := by
  cases hl : c.label <;> simp [toDocument, hl]

theorem TriggerConfig.echo_toDocument (t : TriggerConfig) : echo t.toDocument = reread digits t.toDocument := by
  simp [toDocument, Function.comp_def]

end

/-! ## Nodes -/

/-- A kind with the doubles that its own are read as. A temperature is a single. -/
def NodeKind.redoubled : NodeKind → NodeKind
  | .action a => .action { a with payload := a.payload.redoubled }
  | .webhook w => .webhook { w with body := w.body.map Value.redoubled }
  | .delay d => .delay { d with seconds := redouble d.seconds }
  | k => k

theorem NodeKind.name_redoubled (k : NodeKind) : k.redoubled.name = k.name := by
  cases k <;> rfl

theorem NodeKind.echoFields_fields {k : NodeKind} (h : k.FromText) :
    echoFields k.fields = rereadFields echoDigits k.redoubled.fields := by
  cases k with
  | question q =>
    simp [redoubled, fields, Question.fields, Function.comp_def, Choice.echo_toDocument echoDigits]
  | condition branches =>
    simp [redoubled, fields, Function.comp_def, Branch.echo_toDocument echoDigits]
  | action a =>
    obtain ⟨hvalue, hecho⟩ := Value.FromText.echo h
    simp [redoubled, fields, Action.fields, hecho, reread_ofValue hvalue]
  | webhook w =>
    have hbody : (w.body.map ofValue).map echo =
        ((w.body.map Value.redoubled).map ofValue).map (reread echoDigits) := by
      cases hb : w.body with
      | none => rfl
      | some v =>
        obtain ⟨hvalue, hecho⟩ := (h.body v hb).echo
        exact congrArg some (hecho.trans (reread_ofValue hvalue).symm)
    have hheaders : (if w.headers.isEmpty then none else some (textTable w.headers)).map echo =
        (if w.headers.isEmpty then none else some (textTable w.headers)).map (reread echoDigits) := by
      split
      · rfl
      · exact congrArg some (echo_textTable echoDigits w.headers)
    simp only [redoubled, fields, Webhook.fields, echoFields_append, rereadFields_append, echoFields_given,
      rereadFields_given, hbody, hheaders]
    cases w.timeoutMs <;> rfl
  | aiResponse p =>
    have htemperature : (p.temperature.map single).map echo = (p.temperature.map single).map (reread echoDigits) := by
      cases ht : p.temperature with
      | none => rfl
      | some x => exact congrArg some (echo_single (h.temperature x ht))
    simp only [redoubled, fields, Prompt.fields, echoFields_append, rereadFields_append, echoFields_given,
      rereadFields_given, htemperature]
    cases p.model <;> cases p.maxTokens <;> rfl
  | delay d =>
    simp [redoubled, fields, Delay.fields, echo_double echoDigits h]
  | _ => simp [redoubled, fields, contentField]

/-- A node with the doubles that its own are read as. -/
def Node.redoubled (n : Node) : Node := { n with kind := n.kind.redoubled }

theorem Node.echo_toDocument {n : Node} (h : n.kind.FromText) :
    echo n.toDocument = reread echoDigits n.redoubled.toDocument := by
  have hfields := NodeKind.echoFields_fields h
  cases hl : n.label <;> simp [toDocument, redoubled, hl, hfields, NodeKind.name_redoubled]

/-! ## Flows -/

/-- Variables with the doubles that their own are read as. -/
def Variables.redoubled (vars : Variables) : Variables := Dictionary.map Value.redoubled vars

theorem Variables.wellFormed_redoubled {vars : Variables} (h : ∀ e ∈ vars.entries, e.2.FromText) :
    vars.redoubled.WellFormed :=
  List.forall_mem_map.2 fun e he => (h e he).echo.1

theorem echo_variablesDocument {vars : Variables} (h : ∀ e ∈ vars.entries, e.2.FromText) :
    echo (variablesDocument vars) = variablesDocument vars.redoubled := by
  rw [variablesDocument, variablesDocument, ofFields_eq, ofFields_eq, echo, echoEntries_eq, Variables.redoubled,
    Dictionary.map, List.map_map, List.map_map]
  congr 1
  exact List.map_congr_left fun e he => Prod.ext rfl (h e he).echo.2

/-- A flow with the doubles that its own are read as. -/
def Flow.redoubled (f : Flow) : Flow :=
  { f with nodes := f.nodes.map Node.redoubled, defaults := f.defaults.redoubled }

/-- The echo of a flow's document is a document of a flow as it is reread. -/
theorem Flow.echo_toDocument {f : Flow} (h : f.FromText) :
    echo f.toDocument = reread echoDigits f.redoubled.toDocument := by
  have hnodes : f.nodes.map (fun n => echo n.toDocument) =
      f.nodes.map fun n => reread echoDigits n.redoubled.toDocument :=
    List.map_congr_left fun n hn => Node.echo_toDocument (h.nodes n hn)
  have hdefaults : echo (variablesDocument f.defaults) = reread echoDigits (variablesDocument f.defaults.redoubled) :=
    (echo_variablesDocument h.defaults).trans
      (reread_variablesDocument (Variables.wellFormed_redoubled h.defaults)).symm
  cases hname : f.name <;>
    simp [toDocument, redoubled, hname, hdefaults, Function.comp_def, hnodes,
      Connection.echo_toDocument echoDigits, TriggerConfig.echo_toDocument echoDigits]

end Dialogue
