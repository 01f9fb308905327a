/-
Sessions through any number of edits and changes of mode.

Entering a mode has one of four effects (`Session.Entered`): the documents are written, the graph
is read from them, nothing is converted because a document is blank, or the conversion fails.  What
a run leaves behind is decided by the last of each kind: the mode by the last mode entered, the
error by the last conversion that was attempted.  A graph that was written comes back from the
documents, whatever happened before.
-/
import Atelier.Language.Session
import Atelier.Proofs.Language.NormalForm

namespace Atelier

namespace Session

variable {s : Session} {mode : Mode} {e : SyntaxError}

/-! ## Entering a mode -/

/-- The outcome of the conversion that is attempted when a mode is entered.  None is attempted if
the graph would be made from documents of which one is blank. -/
def conversion? (s : Session) : Mode → Option (Except SyntaxError Unit)
  | .textual => some (s.model.toText.map fun _ => ())
  | .graphical =>
    if blank s.abstract || blank s.concrete then none
    else some ((Model.ofText ⟨s.abstract, s.concrete⟩).map fun _ => ())

/-- What entering a mode comes to. -/
inductive Entered (s : Session) : Mode → Session × Except SyntaxError Unit → Prop where
  | written {text : SyntaxText} (h : s.model.toText = .ok text) :
    Entered s .textual ({ s with
      mode := .textual
      abstract := text.abstract
      concrete := text.concrete
      lastError := none }, .ok ())
  | read {model : Model} (hthere : (blank s.abstract || blank s.concrete) = false)
    (h : Model.ofText ⟨s.abstract, s.concrete⟩ = .ok model) :
    Entered s .graphical ({ s with mode := .graphical, model, lastError := none }, .ok ())
  | skipped (hblank : (blank s.abstract || blank s.concrete) = true) :
    Entered s .graphical ({ s with mode := .graphical }, .ok ())
  | failed {mode : Mode} {e : SyntaxError} (h : s.conversion? mode = some (.error e)) :
    Entered s mode ({ s with mode, lastError := some e }, .error e)

/-- Entering a mode has no other effect than these. -/
lemma entered (s : Session) (mode : Mode) : Entered s mode (s.switchTo mode) := by
  cases mode with
  | textual =>
    cases htext : s.model.toText with
    | ok text => simpa only [switchTo, toTextual, htext] using Entered.written htext
    | error e =>
      have hfailed : s.conversion? .textual = some (.error e) := by
        rw [conversion?, htext]
        rfl
      simpa only [switchTo, toTextual, htext] using Entered.failed hfailed
  | graphical =>
    rw [switchTo, toGraphical]
    split
    · rename_i hblank
      exact .skipped hblank
    · rename_i hthere
      rw [Bool.not_eq_true] at hthere
      split
      · rename_i model hmodel
        exact .read hthere hmodel
      · rename_i e hmodel
        exact .failed (by rw [conversion?, if_neg (by rwa [Bool.not_eq_true]), hmodel]; rfl)

/-- Why a conversion failed, if it did. -/
def failure? : Except SyntaxError Unit → Option SyntaxError
  | .error e => some e
  | .ok () => none

namespace Entered

variable {r : Session × Except SyntaxError Unit}

lemma mode_eq (h : Entered s mode r) : r.1.mode = mode := by
  cases h <;> rfl

/-- The error is that of the conversion, and stays if none is attempted. -/
lemma lastError_eq (h : Entered s mode r) :
    r.1.lastError = (s.conversion? mode).elim s.lastError failure? := by
  cases h with
  | written h => rw [conversion?, h]; rfl
  | read hthere h => rw [conversion?, hthere, h]; rfl
  | skipped hblank => rw [conversion?, hblank]; rfl
  | failed h => rw [h]; rfl

/-- A failure is recorded, and everything but the mode stays. -/
lemma eq_of_error (h : Entered s mode r) (he : r.2 = .error e) :
    r.1 = { s with mode, lastError := some e } := by
  cases h with
  | failed => cases he; rfl
  | _ => cases he

lemma semantics_eq (h : Entered s mode r) : r.1.semantics = s.semantics := by
  cases h <;> rfl

lemma model_eq (h : Entered s .textual r) : r.1.model = s.model := by
  cases h <;> rfl

lemma text_eq (h : Entered s .graphical r) :
    r.1.abstract = s.abstract ∧ r.1.concrete = s.concrete := by
  cases h <;> exact ⟨rfl, rfl⟩

end Entered

lemma exists_toText (h : s.toTextual.2 = .ok ()) : ∃ text, s.model.toText = .ok text := by
  cases htext : s.model.toText with
  | ok text => exact ⟨text, rfl⟩
  | error e =>
    simp only [toTextual, htext] at h
    cases h

/-- A graph that is written is read at once, with its sizes read again. -/
lemma toGraphical_toTextual (hwritten : s.toTextual.2 = .ok ())
    (hfinite : ∀ e ∈ s.model.elements, e.width.isFinite ∧ e.height.isFinite) :
    s.toTextual.1.toGraphical.2 = .ok () ∧
      s.toTextual.1.toGraphical.1.model = s.model.reread := by
  obtain ⟨text, htext⟩ := exists_toText hwritten
  have hread := Model.ofText_toText htext hfinite
  obtain ⟨-, rfl⟩ := Model.toText_eq_ok_iff.1 htext
  have habstract := s.model.abstractSyntax.blank_pretty
  have hconcrete := s.model.concreteSyntax.blank_pretty
  simp [toTextual, toGraphical, htext, habstract, hconcrete, hread]

/-! ## Runs -/

/-- What can be done to a session. -/
inductive Call where
  | setModel (model : Model)
  | setElements (elements : List Element)
  | setRelationships (relationships : List Relationship)
  | setRestrictions (restrictions : List Restriction)
  | setAbstract (text : String)
  | setConcrete (text : String)
  | setSemantics (text : String)
  | switchTo (mode : Mode)

/-- The mode that a call enters, if it enters one. -/
def Call.target? : Call → Option Mode
  | switchTo mode => some mode
  | _ => none

/-- The session after a call. -/
def after (s : Session) : Call → Session
  | .setModel model => s.setModel model
  | .setElements elements => s.setElements elements
  | .setRelationships relationships => s.setRelationships relationships
  | .setRestrictions restrictions => s.setRestrictions restrictions
  | .setAbstract text => s.setAbstract text
  | .setConcrete text => s.setConcrete text
  | .setSemantics text => s.setSemantics text
  | .switchTo mode => (s.switchTo mode).1

/-- The session after calls, one after the other. -/
def run (s : Session) (calls : List Call) : Session :=
  calls.foldl after s

/-- The outcome of the conversion that a call attempts, if it attempts one. -/
def attempt? (s : Session) (call : Call) : Option (Except SyntaxError Unit) :=
  call.target?.bind s.conversion?

/-- The outcomes of all conversions that calls attempt, in their order. -/
def attempts (s : Session) : List Call → List (Except SyntaxError Unit)
  | [] => []
  | call :: calls => (s.attempt? call).toList ++ attempts (s.after call) calls

lemma mode_after (s : Session) (call : Call) : (s.after call).mode = call.target?.getD s.mode := by
  cases call with
  | switchTo mode => exact (s.entered mode).mode_eq
  | _ => rfl

lemma lastError_after (s : Session) (call : Call) :
    (s.after call).lastError = (s.attempt? call).elim s.lastError failure? := by
  cases call with
  | switchTo mode => exact (s.entered mode).lastError_eq
  | _ => rfl

/-- The mode is the last one that was entered. -/
lemma mode_run (s : Session) (calls : List Call) :
    (s.run calls).mode = (calls.filterMap Call.target?).getLast?.getD s.mode := by
  induction calls generalizing s with
  | nil => rfl
  | cons call calls ih =>
    rw [run, List.foldl_cons, ← run, ih, mode_after]
    cases htarget : call.target? with
    | none => rw [List.filterMap_cons_none htarget, Option.getD_none]
    | some mode =>
      rw [List.filterMap_cons_some htarget, List.getLast?_cons, Option.getD_some, Option.getD_some]

/-- The error is that of the last conversion that was attempted. -/
lemma lastError_run (s : Session) (calls : List Call) :
    (s.run calls).lastError = (s.attempts calls).getLast?.elim s.lastError failure? := by
  induction calls generalizing s with
  | nil => rfl
  | cons call calls ih =>
    rw [run, List.foldl_cons, ← run, ih, lastError_after, attempts, List.getLast?_append]
    cases (attempts (s.after call) calls).getLast? with
    | some outcome => rfl
    | none => cases s.attempt? call <;> rfl

/-- Whatever is done to a session, its mode is the last one entered and its error that of the last
conversion attempted, whatever words refusals are reported in.  Entering a mode changes nothing
else if it fails, and it never changes the semantics nor the form that is left.  A graph with finite
sizes that is written is read at once with its sizes read again, and so as it was exactly if these
are read from their texts as they are. -/
theorem run_decided_by_last (model : Model) (calls : List Call) :
    let s := (ofModel model).run calls
    s.mode = (calls.filterMap Call.target?).getLast?.getD .graphical ∧
    (∀ (w : Wording) (text : String), s.lastMessage? w = some text ↔
      ∃ e, ((ofModel model).attempts calls).getLast? = some (.error e) ∧ e.message w = text) ∧
    (∀ mode e, (s.switchTo mode).2 = .error e →
      (s.switchTo mode).1 = { s with mode, lastError := some e }) ∧
    (∀ mode, (s.switchTo mode).1.semantics = s.semantics) ∧
    s.toTextual.1.model = s.model ∧
    (s.toGraphical.1.abstract = s.abstract ∧ s.toGraphical.1.concrete = s.concrete) ∧
    (s.toTextual.2 = .ok () →
      (∀ e ∈ s.model.elements, e.width.isFinite ∧ e.height.isFinite) →
        s.toTextual.1.toGraphical.2 = .ok () ∧
        s.toTextual.1.toGraphical.1.model = s.model.reread ∧
        (s.toTextual.1.toGraphical.1.model = s.model ↔ s.model.ReadsBack)) := by
  intro s
  refine ⟨mode_run _ calls, fun w text => ?_, fun mode _ => (s.entered mode).eq_of_error,
    fun mode => (s.entered mode).semantics_eq, (s.entered .textual).model_eq,
    (s.entered .graphical).text_eq, fun hwritten hfinite => ?_⟩
  · have herror : s.lastError = _ := lastError_run (ofModel model) calls
    rw [lastMessage?, herror]
    cases ((ofModel model).attempts calls).getLast? with
    | none => simp [ofModel]
    | some outcome => cases outcome <;> simp [failure?]
  · obtain ⟨hread, hmodel⟩ := toGraphical_toTextual hwritten hfinite
    refine ⟨hread, hmodel, ?_⟩
    rw [hmodel, Model.reread_eq_iff]

/-- Documents that are read in vain, and then nothing to read. -/
def spoiling : List Call :=
  [.setAbstract "[", .setConcrete "[]", .switchTo .graphical, .setConcrete " ",
    .switchTo .graphical]

/-- What is said of an abstract syntax that is an open bracket. -/
def openBracket : Wording where
  refusal
    | .abstractSyntax, "[" => "EOF while parsing a list at line 1 column 1"
    | _, _ => ""

theorem run_decided_by_last_spoiling :
    ((ofModel .abFlow).run spoiling).mode = .graphical ∧
      ((ofModel .abFlow).run spoiling).lastMessage? openBracket =
        some "abstract syntax is not valid: EOF while parsing a list at line 1 column 1" ∧
      ((ofModel .abFlow).run spoiling).toTextual.2 = .ok () ∧
      (∀ e ∈ ((ofModel .abFlow).run spoiling).model.elements,
        e.width.isFinite ∧ e.height.isFinite) ∧
      ((ofModel .abFlow).run spoiling).toTextual.1.toGraphical.1.model =
        ((ofModel .abFlow).run spoiling).model := by
  obtain ⟨hmode, hmessage, -, -, -, -, hround⟩ := run_decided_by_last .abFlow spoiling
  have hlast : ((ofModel .abFlow).attempts spoiling).getLast? =
      some (.error (.json .abstract "[")) := by
    decide +kernel
  have hwritten : ((ofModel .abFlow).run spoiling).toTextual.2 = .ok () := by decide +kernel
  have hmodel : ((ofModel .abFlow).run spoiling).model = .abFlow := by decide +kernel
  rw [hmodel] at hround ⊢
  have hfinite : ∀ e ∈ Model.abFlow.elements, e.width.isFinite ∧ e.height.isFinite := by
    decide +kernel
  refine ⟨hmode.trans (by decide), (hmessage _ _).2 ⟨_, hlast, by decide +kernel⟩, hwritten,
    hfinite, ?_⟩
  exact (hround hwritten hfinite).2.2.2 Model.readsBack_abFlow

/-- Not every graph that is written is read at once as it was. -/
theorem graph_not_always_kept :
    ¬ ∀ (model : Model) (calls : List Call),
      let s := (ofModel model).run calls
      s.toTextual.2 = .ok () → (∀ e ∈ s.model.elements, e.width.isFinite ∧ e.height.isFinite) →
        s.toTextual.1.toGraphical.1.model = s.model := by
  intro hall
  have hwritten : ((ofModel .measured).run []).toTextual.2 = .ok () := by decide +kernel
  have hfinite : ∀ e ∈ Model.measured.elements, e.width.isFinite ∧ e.height.isFinite := by
    decide +kernel
  have hkept := hall .measured [] hwritten hfinite
  rw [(toGraphical_toTextual hwritten hfinite).2] at hkept
  exact Model.not_readsBack_measured (Model.reread_eq_iff.1 hkept)

end Session

end Atelier
