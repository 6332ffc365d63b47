import Mustache.Code.Listing
import Mustache.Proofs.SafeRuns

/-!
# Listings

A run and a listing read the words of a block apart from each other: a run reads the operands of an
opcode one by one, a listing counts them. On generated code the two agree on every instruction, and
so does what a line says of its operands. No text or name breaks a line.
-/

namespace Mustache

set_option autoImplicit false

namespace Text

@[simp]
theorem newline_not_mem_toDigits {base : Nat} (large : 1 < base) (number : Nat) :
    '\n' ∉ Nat.toDigits base number := by
  have other (digit : Nat) : '\n' ≠ digit.digitChar := (Nat.digitChar_ne '\n' rfl).symm
  induction number using Nat.strongRecOn with
  | ind number ih =>
    rw [Nat.toDigits_eq_if large]
    split
    · simp [other]
    · rename_i wide
      have smaller := ih (number / base) (Nat.div_lt_self (by omega) large)
      simp [smaller, other]

theorem newline_not_mem_quoteChar (character : Char) : '\n' ∉ quoteChar character := by
  by_cases newline : character = '\n'
  · rw [newline]
    decide
  · unfold quoteChar
    split_ifs
    any_goals decide
    · simpa using Ne.symm newline
    · simp

@[simp]
theorem newline_not_mem_quote (text : String) : '\n' ∉ (quote text).toList := by
  simp [quote, newline_not_mem_quoteChar]

end Text

namespace Frame

variable {frame next : Frame} {instruction : Instruction}

theorem operand?_inv {read : Nat × Frame} (found : frame.operand? = some read) :
    ∃ word : UInt16, read.1 = word.toNat ∧ frame.ahead = word :: read.2.ahead ∧
      read.2.code = frame.code ∧ read.2.ip = frame.ip + 1 := by
  obtain ⟨⟨word, next⟩, known, rfl⟩ := Option.map_eq_some_iff.1 found
  obtain ⟨code, ip, ahead⟩ := frame.readWord?_eq_some next word known
  exact ⟨word, rfl, ahead, code, ip⟩

/-- A run reads as many operands as a listing counts. -/
theorem operands?_inv {opcode : Opcode} (read : frame.operands? opcode = some (instruction, next)) :
    ∃ operands : List UInt16, operands.length = opcode.operandCount ∧
      Part.instruction ⟨opcode, operands⟩ = instruction ∧ frame.ahead = operands ++ next.ahead ∧
      next.code = frame.code ∧ next.ip = frame.ip + opcode.operandCount := by
  cases opcode <;> simp only [operands?, Option.some.injEq, Prod.mk.injEq,
    Option.map_eq_some_iff, Option.bind_eq_some_iff] at read
  case halt | escapedTag | unescapedTag | fetchImplicit =>
    obtain ⟨rfl, rfl⟩ := read
    exact ⟨[], rfl, rfl, rfl, rfl, rfl⟩
  case text | fetch | find | block | inverted =>
    obtain ⟨operand, known, rfl, rfl⟩ := read
    obtain ⟨word, same, ahead, code, ip⟩ := operand?_inv known
    exact ⟨[word], rfl, by rw [same]; rfl, ahead, code, ip⟩
  case partialTag =>
    obtain ⟨name, named, indentation, indented, rfl, rfl⟩ := read
    obtain ⟨word, same, ahead, code, ip⟩ := operand?_inv named
    obtain ⟨last, sameLast, aheadLast, codeLast, ipLast⟩ := operand?_inv indented
    refine ⟨[word, last], rfl, by rw [same, sameLast]; rfl, ?_, codeLast.trans code, ?_⟩
    · rw [ahead, aheadLast]
      rfl
    · rw [ipLast, ip]
      rfl

/-- What a run decodes is one part of the words, with the operands that its opcode counts. -/
theorem decode?_inv (decoded : frame.decode? = some (.ok (instruction, next))) :
    ∃ part : Part, part.operands.length = part.opcode.operandCount ∧
      part.instruction = instruction ∧ frame.ahead = part.words ++ next.ahead ∧
      next.code = frame.code ∧ next.ip = frame.ip + 1 + part.opcode.operandCount := by
  unfold decode? at decoded
  split at decoded
  · cases decoded
  · rename_i word behind read
    obtain ⟨code, ip, ahead⟩ := frame.readWord?_eq_some behind word read
    split at decoded
    · cases decoded
    · rename_i opcode known
      split at decoded
      · cases decoded
      · rename_i found operandsRead
        cases decoded
        obtain ⟨operands, count, same, aheadNext, codeNext, ipNext⟩ := operands?_inv operandsRead
        refine ⟨⟨opcode, operands⟩, count, same, ?_, codeNext.trans code, ?_⟩
        · rw [ahead, aheadNext, Part.words, Opcode.word_of_ofWord? word opcode known]
          rfl
        · rw [ipNext, ip]

/-- What a line is to say of an instruction: the opcode, the operands and the texts that they stand
for, looked up where a run looks them up. There is nothing to say where a run would find nothing. -/
def content? (frame : Frame) : Instruction → Option String
  | .halt => some Opcode.halt.name
  | .text constant => (frame.constant? constant).map fun text =>
    Opcode.text.name ++ " " ++ Nat.repr constant ++ " (" ++ Text.quote text ++ ")"
  | .escapedTag => some Opcode.escapedTag.name
  | .unescapedTag => some Opcode.unescapedTag.name
  | .fetch name => (frame.name? name).map fun text =>
    Opcode.fetch.name ++ " " ++ Nat.repr name ++ " (" ++ text ++ ")"
  | .fetchImplicit => some Opcode.fetchImplicit.name
  | .find name => (frame.name? name).map fun text =>
    Opcode.find.name ++ " " ++ Nat.repr name ++ " (" ++ text ++ ")"
  | .block entry => some (Opcode.block.name ++ " " ++ Nat.repr entry)
  | .inverted child => some (Opcode.inverted.name ++ " " ++ Nat.repr child)
  | .partialTag name indentation =>
    (frame.constant? name).bind fun text => (frame.constant? indentation).map fun blanks =>
      Opcode.partialTag.name ++ " " ++ Nat.repr name ++ " " ++ Nat.repr indentation ++ " (" ++
        Text.quote text ++ ", " ++ Text.quote blanks ++ ")"

/-- The index of the body that an instruction enters. -/
def body? (frame : Frame) : Instruction → Option Nat
  | .block entry => (frame.section? entry).map SectionEntry.body
  | .inverted child => some child
  | _ => none

end Frame

/-- Whether an instruction neither ends its block nor enters another. -/
def Instruction.isFlat : Instruction → Bool
  | .halt => false
  | .block _ => false
  | .inverted _ => false
  | _ => true

theorem Frame.body?_of_isFlat (frame : Frame) {instruction : Instruction}
    (flat : instruction.isFlat = true) : frame.body? instruction = none := by
  cases instruction with
  | halt | block | inverted => cases flat
  | _ => rfl

open Code (Line)

/-- Read as a run reads it, from a frame to the halt of its block, code has these lines: one for
each instruction, with the offset of its opcode, and behind an instruction that enters a body the
lines of the body, one level deeper. The bodies are the children of the block in order, each of them
entered once; `entered` counts those before the frame. -/
inductive Frame.ListedAs : Frame → Nat → Nat → List Line → Prop where
  | halt {frame next : Frame} {depth : Nat}
      (read : frame.decode? = some (.ok (.halt, next))) (last : next.atEnd = true) :
      ListedAs frame depth frame.code.children.size [⟨depth, frame.ip, Opcode.halt.name⟩]
  | flat {frame next : Frame} {depth entered : Nat} {instruction : Instruction} {content : String}
      {rest : List Line} (read : frame.decode? = some (.ok (instruction, next)))
      (flat : instruction.isFlat = true) (said : frame.content? instruction = some content)
      (later : ListedAs next depth entered rest) :
      ListedAs frame depth entered (⟨depth, frame.ip, content⟩ :: rest)
  | enter {frame next : Frame} {depth entered : Nat} {instruction : Instruction} {content : String}
      {body : Code} {inner rest : List Line}
      (read : frame.decode? = some (.ok (instruction, next)))
      (enters : frame.body? instruction = some entered)
      (found : frame.child? entered = some body) (said : frame.content? instruction = some content)
      (inside : ListedAs (Frame.start body) (depth + 1) 0 inner)
      (later : ListedAs next depth (entered + 1) rest) :
      ListedAs frame depth entered (⟨depth, frame.ip, content⟩ :: (inner ++ rest))

namespace Code

variable {frame : Frame} {part : Part}

/-- A listing says of a part what is to be said of its instruction. -/
theorem describe_eq {content : String} (count : part.operands.length = part.opcode.operandCount)
    (said : frame.content? part.instruction = some content) :
    frame.code.describe part.opcode part.operands = content := by
  obtain ⟨opcode, operands⟩ := part
  cases opcode with
  | halt | escapedTag | unescapedTag | fetchImplicit =>
    obtain rfl := List.length_eq_zero_iff.1 count
    cases said
    rfl
  | block | inverted =>
    obtain ⟨operand, rfl⟩ := List.length_eq_one_iff.1 count
    cases said
    simp [describe, String.append_assoc]
  | text | fetch | find =>
    obtain ⟨operand, rfl⟩ := List.length_eq_one_iff.1 count
    obtain ⟨text, found, rfl⟩ := Option.map_eq_some_iff.1 said
    simp only [Frame.constant?, Frame.name?] at found
    simp [describe, poolText, found, String.append_assoc]
  | partialTag =>
    obtain ⟨name, indentation, rfl⟩ := List.length_eq_two.1 count
    obtain ⟨text, named, behind⟩ := Option.bind_eq_some_iff.1 said
    obtain ⟨blanks, indented, rfl⟩ := Option.map_eq_some_iff.1 behind
    simp only [Frame.constant?] at named indented
    simp [describe, poolText, named, indented, String.append_assoc]

theorem entered?_eq (count : part.operands.length = part.opcode.operandCount) :
    frame.code.entered? part.opcode part.operands = frame.body? part.instruction := by
  obtain ⟨opcode, operands⟩ := part
  cases opcode with
  | halt | escapedTag | unescapedTag | fetchImplicit =>
    obtain rfl := List.length_eq_zero_iff.1 count
    rfl
  | block | inverted | text | fetch | find =>
    obtain ⟨operand, rfl⟩ := List.length_eq_one_iff.1 count
    rfl
  | partialTag =>
    obtain ⟨name, indentation, rfl⟩ := List.length_eq_two.1 count
    rfl

variable {code : Code} (depth offset : Nat) (rest : List UInt16) (newest : List Line)

theorem linesFrom_flat (count : part.operands.length = part.opcode.operandCount)
    (flat : code.entered? part.opcode part.operands = none) :
    code.linesFrom depth offset (part.words ++ rest) newest =
      code.linesFrom depth (offset + 1 + part.opcode.operandCount) rest
        (⟨depth, offset, code.describe part.opcode part.operands⟩ :: newest) := by
  rw [Part.words, List.cons_append, linesFrom, Opcode.ofWord?_word]
  dsimp only
  rw [List.take_left' count, List.drop_left' count]
  simp only [flat]

theorem linesFrom_enter {index : Nat} {body : Code}
    (count : part.operands.length = part.opcode.operandCount)
    (enters : code.entered? part.opcode part.operands = some index)
    (found : code.children[index]? = some body) :
    code.linesFrom depth offset (part.words ++ rest) newest =
      code.linesFrom depth (offset + 1 + part.opcode.operandCount) rest
        (body.linesFrom (depth + 1) 0 body.words.toList
          (⟨depth, offset, code.describe part.opcode part.operands⟩ :: newest)) := by
  rw [Part.words, List.cons_append, linesFrom, Opcode.ofWord?_word]
  dsimp only
  rw [List.take_left' count, List.drop_left' count]
  simp only [enters]
  split
  · rename_i absent
    rw [found] at absent
    cases absent
  · rename_i child same
    rw [found] at same
    cases same
    rfl

end Code

/-- A listing shows just the lines that a run has to read. -/
theorem Frame.ListedAs.linesFrom_eq {frame : Frame} {depth entered : Nat} {lines : List Line}
    (listed : frame.ListedAs depth entered lines) (newest : List Line) :
    frame.code.linesFrom depth frame.ip frame.ahead newest = lines.reverse ++ newest := by
  -- A body is listed onto the lines before it, so these are any.
  induction listed generalizing newest with
  | halt read last =>
    obtain ⟨part, count, same, ahead, -, -⟩ := decode?_inv read
    rename_i frame next depth
    rw [List.isEmpty_iff.1 last] at ahead
    have said : frame.content? part.instruction = some Opcode.halt.name := by
      rw [same]
      rfl
    rw [ahead, Code.linesFrom_flat _ _ _ _ count (by rw [Code.entered?_eq count, same]; rfl),
      Code.linesFrom, Code.describe_eq count said]
    rfl
  | flat read flat said later ih =>
    rename_i frame next depth entered instruction content rest
    obtain ⟨part, count, rfl, ahead, code, ip⟩ := decode?_inv read
    have enters := (Code.entered?_eq count).trans (Frame.body?_of_isFlat frame flat)
    have behind := ih (⟨depth, frame.ip, content⟩ :: newest)
    rw [code, ip] at behind
    rw [ahead, Code.linesFrom_flat _ _ _ _ count enters, Code.describe_eq count said, behind]
    simp
  | enter read enters found said inside later ihInside ih =>
    rename_i frame next depth entered instruction content body inner rest
    obtain ⟨part, count, rfl, ahead, code, ip⟩ := decode?_inv read
    have within := ihInside (⟨depth, frame.ip, content⟩ :: newest)
    have behind := ih (inner.reverse ++ ⟨depth, frame.ip, content⟩ :: newest)
    rw [code, ip] at behind
    rw [ahead, Code.linesFrom_enter _ _ _ _ count ((Code.entered?_eq count).trans enters) found,
      Code.describe_eq count said]
    change frame.code.linesFrom _ _ _ ((Frame.start body).code.linesFrom _
      (Frame.start body).ip (Frame.start body).ahead _) = _
    rw [within, behind]
    simp

namespace Code

theorem newline_not_mem_toText {line : Line} (unbroken : '\n' ∉ line.content.toList) :
    '\n' ∉ line.toText.toList := by
  simp [Line.toText, unbroken]

theorem splitOn_append_newline {front : List Char} (unbroken : '\n' ∉ front) (back : List Char) :
    (front ++ '\n' :: back).splitOn '\n' = front :: back.splitOn '\n' := by
  have whole : front.splitOnP (· == '\n') = [front] := by
    apply List.splitOnP_eq_singleton
    intro character inside
    exact beq_eq_false_iff_ne.2 (ne_of_mem_of_not_mem inside unbroken)
  rw [List.splitOn, List.splitOnP_append_cons _ _ rfl, whole]
  rfl

/-- Cut at its line breaks, a listing is the texts of its lines, with nothing behind the last. -/
theorem splitOn_listing {code : Code} (unbroken : ∀ line ∈ code.lines, '\n' ∉ line.content.toList) :
    code.listing.toList.splitOn '\n' = code.lines.map (fun line => line.toText.toList) ++ [[]] := by
  have joined (text : String) : (code.lines.foldl (fun text line => text ++ line.toText ++ "\n")
      text).toList = text.toList ++ code.lines.flatMap fun line => line.toText.toList ++ ['\n'] := by
    induction code.lines generalizing text with
    | nil => simp
    | cons line lines ih => simp [ih]
  rw [listing, joined, String.toList_empty, List.nil_append]
  generalize code.lines = lines at unbroken
  induction lines with
  | nil => rfl
  | cons line lines ih =>
    rw [List.flatMap_cons, List.append_assoc, List.singleton_append, splitOn_append_newline
      (newline_not_mem_toText (unbroken line List.mem_cons_self)),
      ih fun other inside => unbroken other (List.mem_cons_of_mem _ inside)]
    rfl

end Code

end Mustache
