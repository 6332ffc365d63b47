import Mustache.Proofs.EscapedText

/-!
# Reading escaped text back

Each entity is read back as the character that it stands for. No ampersand stands in escaped text
but at the beginning of an entity, so reading from left to right meets exactly the entities that
escaping has written, also where the text itself looked like one.
-/

namespace Mustache.Text

set_option autoImplicit false

/-- The text with entities read back, from left to right; an ampersand that begins none stays. -/
def unescapeChars : List Char → List Char
  | '&' :: 'a' :: 'm' :: 'p' :: ';' :: rest => '&' :: unescapeChars rest
  | '&' :: 'l' :: 't' :: ';' :: rest => '<' :: unescapeChars rest
  | '&' :: 'g' :: 't' :: ';' :: rest => '>' :: unescapeChars rest
  | '&' :: 'q' :: 'u' :: 'o' :: 't' :: ';' :: rest => '\x22' :: unescapeChars rest
  | '&' :: '#' :: '3' :: '9' :: ';' :: rest => '\x27' :: unescapeChars rest
  | character :: rest => character :: unescapeChars rest
  | [] => []

def unescapeHtml (text : String) : String := String.ofList (unescapeChars text.toList)

theorem unescapeChars_cons {character : Char} (ordinary : character ≠ '&') (rest : List Char) :
    unescapeChars (character :: rest) = character :: unescapeChars rest := by
  rw [unescapeChars.eq_def]
  split <;> simp_all

/-- An escaped character is read back alone, whatever stands behind it. -/
theorem unescapeChars_escapeChar (character : Char) (rest : List Char) :
    unescapeChars (escapeChar character ++ rest) = character :: unescapeChars rest := by
  unfold escapeChar
  split
  · next same => subst same; rfl
  split
  · next same => subst same; rfl
  split
  · next same => subst same; rfl
  split
  · next same => subst same; rfl
  split
  · next same => subst same; rfl
  · next ordinary _ _ _ _ => exact unescapeChars_cons ordinary rest

theorem unescapeChars_flatMap (text : List Char) :
    unescapeChars (text.flatMap escapeChar) = text := by
  induction text with
  | nil => rfl
  | cons character rest ih => rw [List.flatMap_cons, unescapeChars_escapeChar, ih]

theorem toList_escapeHtml (text : String) :
    (escapeHtml text).toList = text.toList.flatMap escapeChar := String.toList_ofList

theorem unescapeHtml_escapeHtml (text : String) : unescapeHtml (escapeHtml text) = text := by
  rw [unescapeHtml, toList_escapeHtml, unescapeChars_flatMap, String.ofList_toList]

theorem escapeHtml_append (first second : String) :
    escapeHtml (first ++ second) = escapeHtml first ++ escapeHtml second := by
  rw [escapeHtml, String.toList_append, List.flatMap_append, String.ofList_append]
  rfl

theorem escapeHtml_injective : Function.Injective escapeHtml := by
  intro first second same
  rw [← unescapeHtml_escapeHtml first, same, unescapeHtml_escapeHtml]

/-- A character that is not escaped is one that no entity stands for. -/
theorem escapeChar_eq_singleton_iff (character : Char) :
    escapeChar character = [character] ↔ character ∉ '&' :: markup := by
  rw [List.mem_cons, not_or]
  constructor
  · intro kept
    rcases escapeChar_cases character with ⟨-, plain⟩ | ⟨entity, known, escaped⟩
    · exact plain
    · rw [kept] at escaped
      cases escaped
      exact absurd known (by decide)
  · rintro ⟨other, plain⟩
    simp only [markup, List.mem_cons, not_or] at plain
    simp [escapeChar, other, plain]

theorem length_le_length_flatMap (text : List Char) :
    text.length ≤ (text.flatMap escapeChar).length := by
  induction text with
  | nil => exact Nat.le_refl _
  | cons character rest ih =>
    have written : 0 < (escapeChar character).length := by
      rcases escapeChar_cases character with ⟨same, -⟩ | ⟨entity, -, same⟩ <;> simp [same]
    rw [List.flatMap_cons, List.length_append, List.length_cons]
    omega

/-- Escaping changes a text exactly if there is something in it to escape. -/
theorem flatMap_escapeChar_eq_self_iff (text : List Char) :
    text.flatMap escapeChar = text ↔ ∀ character ∈ text, character ∉ '&' :: markup := by
  induction text with
  | nil => simp
  | cons character rest ih =>
    rw [List.flatMap_cons, List.forall_mem_cons, ← ih, ← escapeChar_eq_singleton_iff]
    constructor
    · intro same
      have enough := length_le_length_flatMap rest
      rcases escapeChar_cases character with ⟨kept, -⟩ | ⟨entity, known, escaped⟩
      · rw [kept] at same
        exact ⟨kept, (List.cons.inj same).2⟩
      · have longer := congrArg List.length same
        rw [escaped, List.length_append, List.length_cons, List.length_cons] at longer
        have filled : entity ≠ [] := by
          rintro rfl
          exact absurd known (by decide)
        have positive := List.length_pos_iff.2 filled
        omega
    · rintro ⟨kept, same⟩
      rw [kept, same]
      rfl

/-- Escaping a text in pieces gives the same as escaping it whole. Escaped text has no character of
markup and no ampersand but those that begin entities, and the entities read back from left to
right give the text again, so no two texts are escaped to the same. Text that is escaped already is
escaped again, unless there was nothing to escape in it. -/
theorem escapeHtml_lossless :
    (∀ first second : String,
      escapeHtml (first ++ second) = escapeHtml first ++ escapeHtml second) ∧
    (∀ text : String,
      (∀ character ∈ markup, character ∉ (escapeHtml text).toList) ∧
      (∀ before after, (escapeHtml text).toList = before ++ '&' :: after →
        ∃ entity ∈ entities, entity <+: after) ∧
      unescapeHtml (escapeHtml text) = text ∧
      (escapeHtml (escapeHtml text) = escapeHtml text ↔
        ∀ character ∈ text.toList, character ∉ '&' :: markup)) ∧
    Function.Injective escapeHtml := by
  refine ⟨escapeHtml_append, fun text => ⟨?_, ?_, unescapeHtml_escapeHtml text, ?_⟩,
    escapeHtml_injective⟩
  · intro character special
    rw [toList_escapeHtml]
    exact (harmless_notMem special).escaped text.toList
  · intro before after split
    have whole := harmless_entities.escaped text.toList
    rw [← toList_escapeHtml, split] at whole
    exact exists_entity whole
  · rw [escapeHtml_injective.eq_iff, ← flatMap_escapeChar_eq_self_iff, ← toList_escapeHtml]
    exact String.toList_inj.symm

theorem escapeHtml_lossless_escaped :
    escapeHtml "&lt;" = "&amp;lt;" ∧ unescapeHtml "&amp;lt;" = "&lt;" ∧
      '<' ∉ (escapeHtml "a<b&lt;").toList ∧
      ∃ entity ∈ entities, entity <+: "amp;lt;".toList := by
  have escaped : escapeHtml "&lt;" = "&amp;lt;" := by decide
  obtain ⟨-, laws, -⟩ := escapeHtml_lossless
  refine ⟨escaped, ?_, (laws "a<b&lt;").1 '<' (by decide), ?_⟩
  · rw [← escaped]
    exact (laws "&lt;").2.2.1
  · exact (laws "&lt;").2.1 [] "amp;lt;".toList (by rw [escaped]; decide)

end Mustache.Text
