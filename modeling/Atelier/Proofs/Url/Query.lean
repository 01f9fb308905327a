/-
The query of a URL as a list of fields.

Fields are set off by `&`, which their names and values do not hold once they are encoded
(`Url.separator_notMem_fieldText`).  So a field that is added to a query is one field more, and the
fields that are there stay as they are (`Url.fields_withFields`).
-/
import Atelier.Proofs.Text.Digits
import Atelier.Url.Basic

namespace Atelier.Url

/-! ## Names and values -/

/-- The bytes of a character have no ampersand in their digits. -/
lemma separator_notMem_percentByte (b : UInt8) : '&' ∉ percentByte b := by
  have hdigit : ∀ n < 16, (Nat.digitChar n).toUpper ≠ '&' := by decide
  have hbyte : b.toNat < 256 := b.toNat_lt
  simp only [percentByte, List.mem_cons, List.not_mem_nil, or_false, not_or]
  exact ⟨by decide, (hdigit _ (by omega)).symm, (hdigit _ (by omega)).symm⟩

/-- What separates fields is encoded within them. -/
lemma separator_notMem_fieldText (text : List Char) : '&' ∉ fieldText text := by
  intro h
  obtain ⟨c, hc, heq⟩ := List.mem_map.1 h
  obtain ⟨d, -, hc⟩ := List.mem_flatMap.1 hc
  split at heq
  · exact absurd heq (by decide)
  · subst heq
    split at hc
    · obtain ⟨b, -, hb⟩ := List.mem_flatMap.1 hc
      exact separator_notMem_percentByte b hb
    · rename_i hplain
      obtain rfl := List.mem_singleton.1 hc
      exact hplain (by decide)

/-- Letters and digits stand for themselves. -/
lemma fieldText_of_alphanum {text : List Char} (h : ∀ c ∈ text, c.isAlphanum = true) :
    fieldText text = text := by
  induction text with
  | nil => rfl
  | cons c text ih =>
    have hc : c.isAlphanum = true := h c (by simp)
    have hplain : fieldSpecial c = false := by simp [fieldSpecial, hc]
    have hspace : c ≠ ' ' := by
      rintro rfl
      exact absurd hc (by decide)
    have hrest := ih fun d hd => h d (List.mem_cons_of_mem c hd)
    rw [fieldText, percentEncode] at hrest ⊢
    rw [List.flatMap_cons, if_neg (by simp [hplain]), List.map_append, hrest]
    simp [hspace]

lemma fieldText_toString (n : ℕ) : fieldText (toString n).toList = (toString n).toList := by
  refine fieldText_of_alphanum fun c hc => ?_
  have hc : c ∈ Nat.toDigits 10 n := by simpa using hc
  have hdigit : c.isDigit = true := Nat.isDigit_of_mem_toDigits (by decide) (by decide) hc
  simp [Char.isAlphanum, hdigit]

/-! ## Fields -/

/-- A field as it stands in a query. -/
def writtenField (field : String × String) : List Char :=
  fieldText field.1.toList ++ '=' :: fieldText field.2.toList

/-- The fields of a query as they stand in it; an empty query has none. -/
def queryFields (query : String) : List (List Char) :=
  if query.isEmpty then [] else pieces (· = '&') query.toList

/-- The fields of a URL as they stand in its query. -/
def fields (u : Url) : List (List Char) :=
  queryFields (u.query.getD "")

lemma separator_notMem_writtenField (field : String × String) : '&' ∉ writtenField field := by
  simp [writtenField, separator_notMem_fieldText]

/-- A field that holds a number stands in a query as it is. -/
lemma writtenField_toString {name : String} (h : name.toList.all Char.isAlphanum = true) (n : ℕ) :
    writtenField (name, toString n) = (name ++ "=" ++ toString n).toList := by
  rw [writtenField, fieldText_of_alphanum (List.all_eq_true.1 h), fieldText_toString]
  simp

/-- A field that is added comes last, and the others stay. -/
lemma queryFields_addField (query : String) (field : String × String) :
    queryFields (addField query field) = queryFields query ++ [writtenField field] := by
  have hone : pieces (· = '&') (writtenField field) = [writtenField field] :=
    pieces_eq_singleton fun c hc => by
      simpa using ne_of_mem_of_not_mem hc (separator_notMem_writtenField field)
  have hne : writtenField field ≠ [] := by simp [writtenField]
  have htext : addField query field = String.ofList (if query.isEmpty then writtenField field
      else query.toList ++ '&' :: writtenField field) := rfl
  rw [htext]
  cases hempty : query.isEmpty with
  | true => simp [queryFields, hempty, hone, hne]
  | false => simp [queryFields, hempty, hone, pieces_append_cons]

lemma queryFields_foldl_addField (query : String) (added : List (String × String)) :
    queryFields (added.foldl addField query) = queryFields query ++ added.map writtenField := by
  induction added generalizing query with
  | nil => simp
  | cons field added ih => rw [List.foldl_cons, ih, queryFields_addField]; simp

lemma fields_withFields (u : Url) (added : List (String × String)) :
    (u.withFields added).fields = u.fields ++ added.map writtenField :=
  queryFields_foldl_addField _ added

end Atelier.Url
