/-!
# Literals inside a text

Matching a fixed text at the front, and finding its first occurrence. An empty literal is never
found: it would occur everywhere and mark nothing.
-/

namespace Mustache.Text

set_option autoImplicit false

/-- What follows `literal` in a text that begins with it. -/
def stripStart? : List Char → List Char → Option (List Char)
  | [], text => some text
  | _ :: _, [] => none
  | expected :: literal, character :: rest =>
    if expected = character then stripStart? literal rest else none

theorem stripStart?_eq_some_iff (literal text rest : List Char) :
    stripStart? literal text = some rest ↔ text = literal ++ rest := by
  induction literal generalizing text with
  | nil => simp [stripStart?]
  | cons expected literal ih =>
    cases text with
    | nil => simp [stripStart?]
    | cons character tail =>
      by_cases same : expected = character
      · simp [stripStart?, same, ih]
      · simp [stripStart?, same, Ne.symm same]

/-- Cuts the text at the first occurrence of `literal`; `passed` holds, in reverse, the characters
already known to lie before it. -/
def splitAtFrom (literal passed : List Char) : List Char → Option (List Char × List Char)
  | [] => none
  | character :: rest =>
    if (stripStart? literal (character :: rest)).isSome then
      some (passed.reverse, character :: rest)
    else splitAtFrom literal (character :: passed) rest

/-- The text before the first occurrence of a literal, and the text from that occurrence on. -/
def splitAt? (literal text : List Char) : Option (List Char × List Char) :=
  if literal.isEmpty then none else splitAtFrom literal [] text

/-- Whether a literal occurs in the text; the empty literal occurs in every text. -/
def contains (literal text : List Char) : Bool :=
  literal.isEmpty || (splitAt? literal text).isSome

theorem splitAtFrom_append (literal passed text before after : List Char)
    (found : splitAtFrom literal passed text = some (before, after)) :
    before ++ after = passed.reverse ++ text := by
  induction text generalizing passed with
  | nil => cases found
  | cons character rest ih =>
    simp only [splitAtFrom] at found
    split at found
    · simp only [Option.some.injEq, Prod.mk.injEq] at found
      rw [← found.1, ← found.2]
    · rw [ih (character :: passed) found]
      simp

theorem splitAt?_append (literal text before after : List Char)
    (found : splitAt? literal text = some (before, after)) : before ++ after = text := by
  rw [splitAt?] at found
  split at found
  · cases found
  · simpa using splitAtFrom_append literal [] text before after found

end Mustache.Text
