/-
The root of a document that is read is an element.

Text, comments and instructions may stand beside the root, but they are not kept.  So the reader
has no root yet, or an element, after each character (`Reader.rootIsElement_step`).
-/
import Atelier.Proofs.Xml.Tags

namespace Atelier.Xml

/-- The node is an element. -/
inductive Node.IsElement : Node → Prop where
  | intro (name : String) (attributes : List Attribute) (children : List Node) :
    IsElement (.element name attributes children)

namespace Builder

variable {b b' : Builder} {n : Node}

/-- If the root has ended, it is an element. -/
def RootIsElement (b : Builder) : Prop :=
  ∀ root ∈ b.root, root.IsElement

/-- Only an element can take the place of the root. -/
lemma rootIsElement_put (hb : b.RootIsElement) (h : b.put n = some b') : b'.RootIsElement := by
  unfold put at h
  split at h
  · obtain rfl := Option.some.inj h
    exact hb
  · split at h
    · obtain rfl := Option.some.inj h
      rintro root hroot
      obtain rfl := Option.some.inj hroot
      exact .intro _ _ _
    · cases h
  · obtain rfl := Option.some.inj h
    exact hb

/-- The beginning of an element leaves the root as it is. -/
lemma root_openElement {name : QName} {attributes : List (QName × String)}
    (h : b.openElement name attributes = some b') : b'.root = b.root := by
  obtain ⟨declared, -, h⟩ := Option.bind_eq_some_iff.1 h
  obtain ⟨resolved, -, h⟩ := Option.bind_eq_some_iff.1 h
  split at h
  · cases h
  · split at h
    · cases h
    · split at h
      · cases h
      · obtain rfl := Option.some.inj h
        rfl

lemma rootIsElement_closeElement {name : QName} (hb : b.RootIsElement)
    (h : b.closeElement name = some b') : b'.RootIsElement := by
  unfold closeElement at h
  split at h
  · split at h
    · refine rootIsElement_put (b := _) ?_ h
      exact hb
    · cases h
  · cases h

end Builder

namespace Reader

open Builder (RootIsElement rootIsElement_put rootIsElement_closeElement root_openElement)

variable {b b' : Builder} {r r' : Reader} {c : Char}

lemma rootIsElement_endText {data : Data} (hb : b.RootIsElement)
    (h : endText b data = some b') : b'.RootIsElement := by
  unfold endText at h
  split at h
  · obtain rfl := Option.some.inj h
    exact hb
  · obtain ⟨text, -, h⟩ := Option.bind_eq_some_iff.1 h
    exact rootIsElement_put hb h

lemma rootIsElement_endInstruction {text : List Char} (hb : b.RootIsElement)
    (h : endInstruction b text = some b') : b'.RootIsElement := by
  unfold endInstruction at h
  split at h
  · cases h
  · split at h
    · exact rootIsElement_put hb h
    · cases h

lemma rootIsElement_endClosing {text : List Char} (hb : b.RootIsElement)
    (h : endClosing b text = some b') : b'.RootIsElement := by
  obtain ⟨name, -, h⟩ := Option.bind_eq_some_iff.1 h
  split at h
  · exact rootIsElement_closeElement hb h
  · cases h

lemma rootIsElement_endTag {t : Tag} {empty : Bool} (hb : b.RootIsElement)
    (h : endTag b t empty = some b') : b'.RootIsElement := by
  obtain ⟨opened, hopened, h⟩ := Option.bind_eq_some_iff.1 h
  have hroot : opened.RootIsElement := by
    rw [RootIsElement, root_openElement hopened]
    exact hb
  split at h
  · exact rootIsElement_closeElement hroot h
  · obtain rfl := Option.some.inj h
    exact hroot

lemma rootIsElement_stepTag {t : Tag} (hb : b.RootIsElement) (h : stepTag b t c = some r') :
    r'.builder.RootIsElement := by
  obtain ⟨next, -, h⟩ := Option.bind_eq_some_iff.1 h
  split at h
  · obtain rfl := Option.some.inj h
    exact hb
  · obtain ⟨ended, hended, h⟩ := Option.bind_eq_some_iff.1 h
    obtain rfl := Option.some.inj h
    exact rootIsElement_endTag hb hended

lemma rootIsElement_stepText {data : Data} (hb : b.RootIsElement)
    (h : stepText b data c = some r') : r'.builder.RootIsElement := by
  unfold stepText at h
  split at h
  · obtain ⟨ended, hended, h⟩ := Option.bind_eq_some_iff.1 h
    obtain rfl := Option.some.inj h
    exact rootIsElement_endText hb hended
  · split at h
    · cases h
    · split at h
      · cases h
      · obtain ⟨next, -, h⟩ := Option.bind_eq_some_iff.1 h
        obtain rfl := Option.some.inj h
        exact hb

/-- No character makes anything but an element the root. -/
lemma rootIsElement_step (hr : r.builder.RootIsElement) (h : r.step c = some r') :
    r'.builder.RootIsElement := by
  obtain ⟨mode, b⟩ := r
  have hsame {next : Mode} (h : some ⟨next, b⟩ = some r') : r'.builder.RootIsElement := by
    obtain rfl := Option.some.inj h
    exact hr
  have hput {n : Node} (h : (b.put n).bind (fun b => some (resume b)) = some r') :
      r'.builder.RootIsElement := by
    obtain ⟨ended, hended, h⟩ := Option.bind_eq_some_iff.1 h
    obtain rfl := Option.some.inj h
    exact rootIsElement_put hr hended
  unfold step at h
  split at h
  · cases h
  · cases mode with
    | text data => exact rootIsElement_stepText hr h
    | opened =>
      dsimp only at h
      split at h
      · exact hsame h
      · exact hsame h
      · exact hsame h
      · exact rootIsElement_stepTag hr h
    | bang chars =>
      dsimp only at h
      split at h
      · exact hsame h
      · split at h
        · split at h
          · cases h
          · exact hsame h
        · split at h
          · exact hsame h
          · cases h
    | comment chars =>
      dsimp only at h
      split at h
      · split at h
        · exact hput h
        · cases h
      · exact hsame h
    | cdata chars =>
      dsimp only at h
      split at h
      · exact hput h
      · exact hsame h
    | instruction chars =>
      dsimp only at h
      split at h
      · obtain ⟨ended, hended, h⟩ := Option.bind_eq_some_iff.1 h
        obtain rfl := Option.some.inj h
        exact rootIsElement_endInstruction hr hended
      · exact hsame h
    | closing chars =>
      dsimp only at h
      split at h
      · obtain ⟨ended, hended, h⟩ := Option.bind_eq_some_iff.1 h
        obtain rfl := Option.some.inj h
        exact rootIsElement_endClosing hr hended
      · exact hsame h
    | tag t => exact rootIsElement_stepTag hr h

lemma rootIsElement_run {text : List Char} (hr : r.builder.RootIsElement)
    (h : r.run text = some r') : r'.builder.RootIsElement := by
  induction text generalizing r with
  | nil =>
    obtain rfl := Option.some.inj h
    exact hr
  | cons c text ih =>
    rw [run_cons] at h
    obtain ⟨next, hnext, hrest⟩ := Option.bind_eq_some_iff.1 h
    exact ih (rootIsElement_step hr hnext) hrest

lemma isElement_of_root? {root : Node} (hr : r.builder.RootIsElement) (h : r.root? = some root) :
    root.IsElement := by
  unfold root? at h
  split at h
  · obtain ⟨b, hb, h⟩ := Option.bind_eq_some_iff.1 h
    unfold Builder.root? at h
    split at h
    · exact rootIsElement_endText hr hb root h
    · cases h
  · cases h

end Reader

/-- The root of a document is an element, whatever stands beside it. -/
theorem isElement_of_parse {text : String} {root : Node} (h : parse text = some root) :
    root.IsElement := by
  have hread {document : List Char}
      (h : ((Reader.start.run document).bind fun r => r.root?) = some root) : root.IsElement := by
    obtain ⟨r, hrun, hroot⟩ := Option.bind_eq_some_iff.1 h
    have hstart : Reader.start.builder.RootIsElement := by
      intro root hroot
      cases hroot
    exact Reader.isElement_of_root? (Reader.rootIsElement_run hstart hrun) hroot
  unfold parse at h
  dsimp only at h
  split at h
  · obtain ⟨document, -, h⟩ := Option.bind_eq_some_iff.1 h
    exact hread h
  · exact hread h

end Atelier.Xml
