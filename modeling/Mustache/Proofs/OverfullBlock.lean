import Mustache.Proofs.PoolCounts
import Mustache.Proofs.Reparse
import Mustache.Proofs.WrittenTags

/-!
# Blocks whose source is larger than their body

A close tag that stands alone takes the blanks before it out of the body, but they stay in the
source of the block, where they are literal text. So the source can ask for one text constant more
than the body. A row of lines, each with a text and a partial of its own, fills the constants of a
block up to the last one; then the template compiles, and the source of its block does not.
-/

namespace Mustache

set_option autoImplicit false

namespace Node

theorem demandAll_append (first second : List Node) :
    demandAll (first ++ second) = (demandAll first).and (demandAll second) := by
  induction first with
  | nil => rfl
  | cons node first ih =>
    rw [List.cons_append, demandAll, demandAll, ih]
    simp [Demand.and]

theorem demandAll_literal {text : List Char} (filled : text ≠ []) :
    demandAll (literal text) = .ofConstant (String.ofList text) := by
  have nonempty : (String.ofList text).isEmpty = false := by simpa using filled
  unfold literal
  rw [if_neg (by simpa using filled), demandAll, demand, nonempty]
  rfl

end Node

theorem Tag.scan?_of_dark {delimiters : Delimiters} {position : Position} {first : Char}
    {rest : List Char} (dark : Text.isBlank first = false)
    (absent : ¬ delimiters.mark <+: first :: rest) :
    scan? delimiters ⟨position, first :: rest⟩ = none := by
  apply scan?_eq_none
  rintro ⟨-, leading, following, split, blanks⟩
  cases leading with
  | nil => exact absent ⟨following, split.symm⟩
  | cons head leading =>
    obtain ⟨rfl, -⟩ := List.cons.inj split
    rw [blanks first (List.mem_cons_self ..)] at dark
    cases dark

namespace Lexer

variable (delimiters : Delimiters) (position : Position)

/-- A line of text before a tag leaves the blanks behind its end to the tag. -/
theorem reads_line (first : Char) (more blanks rest : List Char)
    (nonempty : delimiters.mark ≠ []) (dark : Text.isBlank first = false)
    (ends : (first :: more).getLast? = some '\n')
    (all : ∀ character ∈ blanks, Text.isBlank character = true)
    (absent : Text.AbsentBefore delimiters.mark (first :: (more ++ blanks))
      (delimiters.mark ++ rest)) :
    Lexer.Reads ⟨delimiters, ⟨position, first :: (more ++ blanks ++ (delimiters.mark ++ rest))⟩⟩
      [.text (first :: more)]
      ⟨delimiters, ⟨position.after (first :: more), blanks ++ (delimiters.mark ++ rest)⟩⟩ := by
  obtain ⟨here, later⟩ := Text.absentBefore_cons.1 absent
  have cut := (Text.splitAt?_eq_some_iff nonempty).2
    ⟨rfl, List.prefix_append delimiters.mark rest, later⟩
  have stops : Text.StopsAt Text.isBlank (first :: more).reverse := by
    intro character found
    rw [List.head?_reverse, ends] at found
    cases found
    rfl
  have kept : Text.dropBlanksAtEnd (first :: (more ++ blanks)) = first :: more := by
    rw [← List.cons_append, (Text.blanksAtEnd_append fun _ => stops).1,
      (Text.dropBlanksAtEnd_of_blank all).1, List.append_nil]
  have literal : Lexeme.literal delimiters.mark first
      (more ++ blanks ++ (delimiters.mark ++ rest)) = first :: more := by
    unfold Lexeme.literal
    rw [cut]
    change (if (Text.dropBlanksAtEnd (first :: (more ++ blanks))).getLast? = some '\n' then
      Text.dropBlanksAtEnd (first :: (more ++ blanks)) else _) = _
    rw [kept, if_pos ends]
  apply reads_of_next?
  unfold next?
  dsimp only
  rw [Tag.scan?_of_dark dark here]
  dsimp only
  rw [literal]
  simp [Cursor.take, Cursor.pass]

theorem reads_last (first : Char) (more : List Char) (nonempty : delimiters.mark ≠ [])
    (dark : Text.isBlank first = false)
    (absent : Text.AbsentBefore delimiters.mark (first :: more) []) :
    Lexer.Reads ⟨delimiters, ⟨position, first :: more⟩⟩ [.text (first :: more)]
      ⟨delimiters, ⟨position.after (first :: more), []⟩⟩ := by
  obtain ⟨here, later⟩ := Text.absentBefore_cons.1 absent
  rw [List.append_nil] at here
  have literal : Lexeme.literal delimiters.mark first more = first :: more := by
    unfold Lexeme.literal
    rw [(Text.splitAt?_eq_none_iff nonempty).2 later]
  apply reads_of_next?
  unfold next?
  dsimp only
  rw [Tag.scan?_of_dark dark here]
  dsimp only
  rw [literal]
  simp [Cursor.take, Cursor.pass]

end Lexer

namespace TagParts

/-- A sigil and a name, with no space around them. -/
def named (sigil : Sigil) (name : List Char) : TagParts := ⟨some sigil, [], name, [], []⟩

theorem fits_named (sigil : Sigil) (name : List Char) (free : sigil.takesFreeText = false)
    (other : sigil.closingChar ≠ '\x7d') (filled : name ≠ [])
    (all : ∀ character ∈ name, isNameChar character = true) :
    (named sigil name).Fits Delimiters.standard.closing.toList := by
  apply fits_of_name (by simpa using free) ⟨filled, all⟩ (by simp) (by decide)
  · exact Text.stopsAt_cons.2 rfl
  · simp
  · exact Text.stopsAt_cons.2 rfl
  · refine .inl ⟨rfl, Text.stopsAt_cons.2 ?_⟩
    change (some sigil.closingChar == some '\x7d') = false
    simpa using other

end TagParts

namespace Overfull

def written (sigil : Sigil) (name : List Char) : List Char :=
  Delimiters.standard.mark ++
    ((TagParts.named sigil name).inner ++ Delimiters.standard.closing.toList)

def line (number : Nat) : List Char := Nat.toDigits 10 number ++ ['\n']

/-- A name that the lines 0 and 1 share; no others do. -/
def name (number : Nat) : List Char := Nat.toDigits 10 (number - 1)

/-- The line of a number and a partial tag at the beginning of the next line. -/
def cell (number : Nat) : List Char := line number ++ written .greater (name number)

theorem isNameChar_of_isDigit {character : Char} (digit : character.isDigit = true) :
    isNameChar character = true := by
  unfold isNameChar Char.isAlphanum
  rw [digit]
  simp

theorem isDigit_of_mem_toDigits (number : Nat) :
    ∀ character ∈ Nat.toDigits 10 number, character.isDigit = true :=
  fun _ inside => Nat.isDigit_of_mem_toDigits (by decide) (by decide) inside

/-- A number begins with a digit, and no line break or tag does. -/
theorem exists_digits (number : Nat) : ∃ first more, Nat.toDigits 10 number = first :: more ∧
    first.isDigit = true ∧ ∀ character ∈ more, character.isDigit = true := by
  have digits := isDigit_of_mem_toDigits number
  cases known : Nat.toDigits 10 number with
  | nil => exact absurd known Nat.toDigits_ne_nil
  | cons first more =>
    rw [known] at digits
    exact ⟨first, more, rfl, digits first (List.mem_cons_self ..), fun character inside =>
      digits character (List.mem_cons_of_mem first inside)⟩

theorem isSpace_of_isDigit {character : Char} (digit : character.isDigit = true) :
    Text.isSpace character = false := by
  have bounds : 48 ≤ character.toNat ∧ character.toNat ≤ 57 := by
    simpa [Char.isDigit, UInt32.le_iff_toNat_le] using digit
  simp only [Text.isSpace, Bool.or_eq_false_iff, Bool.and_eq_false_iff, decide_eq_false_iff_not,
    beq_eq_false_iff_ne]
  omega

/-- The constants of the partial tag and of the line before it. -/
def constants (number : Nat) : List String :=
  [String.ofList (line number), String.ofList (name number), ""]

/-- A cell before anything that does not begin with blanks up to the end of a line is read as its
line and a tag that does not stand alone. -/
theorem reads_cell (number : Nat) (position : Position) {rest : List Char}
    (dark : Text.startsInBlanks rest = false) :
    ∃ lexemes nodes,
      Lexer.Reads ⟨.standard, ⟨position, cell number ++ rest⟩⟩ lexemes
        ⟨.standard, ⟨position.after (cell number), rest⟩⟩ ∧
      Nests lexemes nodes ∧ Node.demandAll nodes = ⟨constants number, [], []⟩ ∧
      lexemes.flatMap Lexeme.source = cell number := by
  obtain ⟨first, more, digits, digit, others⟩ := exists_digits number
  obtain ⟨head, tail, named, -, -⟩ := exists_digits (number - 1)
  have filled : name number ≠ [] := by
    rw [name, named]
    exact List.cons_ne_nil head tail
  have fits := TagParts.fits_named .greater (name number) rfl (by decide) filled
    fun character inside => isNameChar_of_isDigit (isDigit_of_mem_toDigits _ character inside)
  have begins : line number = first :: (more ++ ['\n']) := by
    rw [line, digits, List.cons_append]
  have unmarked : '\x7b' ∉ first :: (more ++ ['\n'] ++ []) := by
    intro inside
    rw [List.append_nil, ← List.cons_append, ← digits] at inside
    rcases List.mem_append.1 inside with inside | inside
    · cases isDigit_of_mem_toDigits number _ inside
    · cases List.mem_singleton.1 inside
  have text := Lexer.reads_line .standard position first (more ++ ['\n']) []
    ((TagParts.named .greater (name number)).inner ++ Delimiters.standard.closing.toList ++ rest)
    (by decide) (Text.isBlank_of_dark (isSpace_of_isDigit digit)) (by rw [← List.cons_append, List.getLast?_concat])
    (by simp) (Text.absentBefore_of_not_mem unmarked _)
  have tag := Lexer.reads_tag .standard (position.after (line number)) [] rest
    Delimiters.standard_plain (by decide) (by simp) fits rfl (Tag.settle_of_dark dark)
  have whole : cell number ++ rest = first :: (more ++ ['\n'] ++ [] ++ (Delimiters.standard.mark ++
      ((TagParts.named .greater (name number)).inner ++
        Delimiters.standard.closing.toList ++ rest))) := by
    simp [cell, begins, written]
  rw [whole]
  rw [cell, Position.after_append]
  rw [← begins] at text
  refine ⟨_, _, text.trans tag, .text (line number) (.leaf _ _ rfl .nil), ?_, ?_⟩
  · rw [Node.demandAll_append, Node.demandAll_literal (by simp [begins])]
    rfl
  · simp [Lexeme.source, Tag.source, Tag.span, TagParts.toTag, written, TagParts.inner,
      TagParts.named]

def row (numbers : List Nat) : List Char := numbers.flatMap cell

theorem startsInBlanks_line (number : Nat) (rest : List Char) :
    Text.startsInBlanks (line number ++ rest) = false := by
  obtain ⟨first, more, digits, digit, -⟩ := exists_digits number
  rw [line, digits]
  exact Text.startsInBlanks_of_dark (isSpace_of_isDigit digit) _

theorem startsInBlanks_row (numbers : List Nat) {rest : List Char}
    (dark : Text.startsInBlanks rest = false) :
    Text.startsInBlanks (row numbers ++ rest) = false := by
  cases numbers with
  | nil => exact dark
  | cons number numbers =>
    rw [row, List.flatMap_cons, cell, List.append_assoc, List.append_assoc]
    exact startsInBlanks_line number _

theorem reads_row (numbers : List Nat) (position : Position) {rest : List Char}
    (dark : Text.startsInBlanks rest = false) :
    ∃ lexemes nodes,
      Lexer.Reads ⟨.standard, ⟨position, row numbers ++ rest⟩⟩ lexemes
        ⟨.standard, ⟨position.after (row numbers), rest⟩⟩ ∧
      Nests lexemes nodes ∧
      Node.demandAll nodes = ⟨numbers.flatMap constants, [], []⟩ ∧
      lexemes.flatMap Lexeme.source = row numbers := by
  induction numbers generalizing position with
  | nil => exact ⟨[], [], Lexer.Reads.refl _, .nil, rfl, rfl⟩
  | cons number numbers ih =>
    obtain ⟨first, front, readsFirst, nestsFirst, demandFirst, sourceFirst⟩ :=
      reads_cell number position (startsInBlanks_row numbers dark)
    obtain ⟨later, back, readsLater, nestsLater, demandLater, sourceLater⟩ :=
      ih (position.after (cell number))
    refine ⟨first ++ later, front ++ back, ?_, nestsFirst.append nestsLater, ?_, ?_⟩
    · have whole := readsFirst.trans readsLater
      rw [← List.append_assoc, ← Position.after_append] at whole
      exact whole
    · rw [Node.demandAll_append, demandFirst, demandLater]
      rfl
    · rw [List.flatMap_append, sourceFirst, sourceLater]
      rfl

/-- A row, its first line once more, and a blank. -/
def raw (numbers : List Nat) : List Char := row numbers ++ (line 0 ++ [' '])

/-- A section over all of it, with a close tag that stands alone. -/
def source (numbers : List Nat) : List Char :=
  written .hash ['s'] ++ (raw numbers ++ written .slash ['s'])

/-- At the end of a text the blank belongs to the last literal text. -/
theorem parse_raw (numbers : List Nat) :
    ∃ tree, parse .standard (String.ofList (raw numbers)) = .ok tree ∧
      tree.demand = ⟨numbers.flatMap constants ++ [String.ofList (line 0 ++ [' '])], [], []⟩ := by
  obtain ⟨lexemes, nodes, reads, nests, demand, -⟩ := reads_row numbers Position.start
    (startsInBlanks_line 0 [' '])
  have last := Lexer.reads_last .standard (Position.start.after (row numbers)) '0' ['\n', ' ']
    (by decide) (by decide)
    (Text.absentBefore_of_not_mem (by decide) [])
  have lexed : Lexing.ofText .standard (raw numbers) =
      ⟨lexemes ++ [.text (line 0 ++ [' '])], none⟩ := (reads.trans last).collect
  have whole := nests.append (.text (line 0 ++ [' ']) .nil)
  refine ⟨.sequence (nodes ++ (Node.literal (line 0 ++ [' ']) ++ [])),
    (parse_eq_ok_iff _ _ _).2 ⟨_, rfl, ?_, ?_⟩, ?_⟩
  · rw [String.toList_ofList, lexed]
  · rw [String.toList_ofList, lexed]
    exact whole
  · rw [Node.demand, Node.demandAll_append, demand, List.append_nil,
      Node.demandAll_literal (by simp [line])]
    rfl

/-- The close tag takes the blank before it, which is left to the source of the block. -/
theorem parse_source (numbers : List Nat) :
    ∃ body, parse .standard (String.ofList (source numbers)) =
        .ok (.sequence [.block ⟨["s"]⟩ body (String.ofList (raw numbers)) .standard
          Position.start]) ∧
      Node.demandAll body = ⟨numbers.flatMap constants ++ [String.ofList (line 0)], [], []⟩ := by
  obtain ⟨lexemes, nodes, reads, nests, demand, spelled⟩ :=
    reads_row numbers (Position.start.after (written .hash ['s']))
      (startsInBlanks_line 0 ([' '] ++ written .slash ['s']))
  have fits (sigil : Sigil) (free : sigil.takesFreeText = false)
      (other : sigil.closingChar ≠ '\x7d') :=
    TagParts.fits_named sigil ['s'] free other (by decide) (List.forall_mem_singleton.2 rfl)
  have opened := Lexer.reads_tag .standard Position.start []
    (row numbers ++ (line 0 ++ ([' '] ++ written .slash ['s'])))
    Delimiters.standard_plain (by decide) (by simp) (fits .hash rfl (by decide)) rfl
    (Tag.settle_of_dark (startsInBlanks_row numbers (startsInBlanks_line 0 _)))
  have last := Lexer.reads_line .standard
    ((Position.start.after (written .hash ['s'])).after (row numbers)) '0' ['\n'] [' ']
    ((TagParts.named .slash ['s']).inner ++ Delimiters.standard.closing.toList)
    (by decide) (by decide) rfl (List.forall_mem_singleton.2 rfl)
    (Text.absentBefore_of_not_mem (by decide) _)
  have alone (position : Position) : ((TagParts.named .slash ['s']).toTag .standard position
      .closeSection).mayStandAlone = true := by
    rw [Tag.mayStandAlone, Tag.sigil?_toTag (fits .slash rfl (by decide))]
    rfl
  have closed := Lexer.reads_tag .standard
    (((Position.start.after (written .hash ['s'])).after (row numbers)).after (line 0)) [' '] []
    Delimiters.standard_plain (by decide) (List.forall_mem_singleton.2 rfl)
    (fits .slash rfl (by decide)) rfl (Tag.settle_of_alone rfl (alone _) rfl)
  have split : source numbers =
      written .hash ['s'] ++ (row numbers ++ (line 0 ++ ([' '] ++ written .slash ['s']))) := by
    simp [source, raw]
  have lexed := (opened.trans ((reads.trans last).trans closed)).collect
  have parsed := parse_of_enclosed String.toList_ofList lexed rfl rfl rfl
    (nests.append (.text (line 0) .nil)) rfl rfl
  refine ⟨nodes ++ (Node.literal (line 0) ++ []), ?_, ?_⟩
  · have spelledAll : (lexemes ++ [Lexeme.text (line 0)]).flatMap Lexeme.source ++ [' '] =
        raw numbers := by
      rw [List.flatMap_append, spelled, raw]
      simp [Lexeme.source]
    rw [split, ← spelledAll]
    exact parsed
  · rw [Node.demandAll_append, demand, List.append_nil, Node.demandAll_literal (by decide)]
    rfl

/-- The constants of a row of `count + 1` cells, each of them once. -/
def distinct (count : Nat) : List String :=
  "" :: ((List.range (count + 1)).map (fun number => String.ofList (line number)) ++
    (List.range count).map fun number => String.ofList (Nat.toDigits 10 number))

theorem length_distinct (count : Nat) : (distinct count).length = 2 * (count + 1) := by
  simp [distinct]
  omega

theorem toDigits_inj {first second : Nat}
    (same : Nat.toDigits 10 first = Nat.toDigits 10 second) : first = second := by
  rw [← Nat.ofDigitChars_ten_toDigits (n := first), same, Nat.ofDigitChars_ten_toDigits]

theorem not_mem_toDigits (number : Nat) {character : Char} (other : character.isDigit = false) :
    character ∉ Nat.toDigits 10 number := by
  intro inside
  rw [isDigit_of_mem_toDigits number character inside] at other
  cases other

theorem nodup_distinct (count : Nat) : (distinct count).Nodup := by
  rw [distinct, List.nodup_cons, List.nodup_append]
  refine ⟨?_, ?_, ?_, ?_⟩
  · intro inside
    rcases List.mem_append.1 inside with inside | inside
    · obtain ⟨number, -, empty⟩ := List.mem_map.1 inside
      simp [line] at empty
    · obtain ⟨number, -, empty⟩ := List.mem_map.1 inside
      exact Nat.toDigits_ne_nil (String.ofList_inj.1 empty)
  · apply List.Nodup.map _ List.nodup_range
    intro first second same
    exact toDigits_inj (List.append_cancel_right (String.ofList_inj.1 same))
  · apply List.Nodup.map _ List.nodup_range
    intro first second same
    exact toDigits_inj (String.ofList_inj.1 same)
  · rintro _ left _ right rfl
    obtain ⟨first, -, rfl⟩ := List.mem_map.1 left
    obtain ⟨second, -, same⟩ := List.mem_map.1 right
    have inside : '\n' ∈ Nat.toDigits 10 second := by
      rw [String.ofList_inj.1 same]
      simp [line]
    exact not_mem_toDigits second rfl inside

theorem mem_distinct_iff {count : Nat} (positive : 0 < count) (text : String) :
    text ∈ distinct count ↔ text ∈ (List.range (count + 1)).flatMap constants := by
  simp only [distinct, constants, List.mem_cons, List.mem_append, List.mem_map, List.mem_flatMap,
    List.mem_range, List.not_mem_nil, or_false]
  constructor
  · rintro (rfl | ⟨number, bound, rfl⟩ | ⟨number, bound, rfl⟩)
    · exact ⟨0, by omega, .inr (.inr rfl)⟩
    · exact ⟨number, bound, .inl rfl⟩
    · exact ⟨number + 1, by omega, .inr (.inl rfl)⟩
  · rintro ⟨number, bound, rfl | rfl | rfl⟩
    · exact .inr (.inl ⟨number, bound, rfl⟩)
    · exact .inr (.inr ⟨number - 1, by omega, rfl⟩)
    · exact .inl rfl

/-- The last line repeats the first and needs no constant of its own. -/
theorem size_body_le {count : Nat} (positive : 0 < count) :
    (Pool.empty.internAll ((List.range (count + 1)).flatMap constants ++
      [String.ofList (line 0)])).items.size ≤ 2 * (count + 1) := by
  rw [← length_distinct count]
  apply Pool.size_le_length (Pool.faithful_internAll Pool.faithful_empty _)
  intro text inside
  rw [Pool.mem_internAll Pool.faithful_empty, List.mem_append, List.mem_singleton] at inside
  rcases inside with impossible | inside | rfl
  · simp [Pool.empty] at impossible
  · exact (mem_distinct_iff positive text).2 inside
  · rw [mem_distinct_iff positive]
    exact List.mem_flatMap.2 ⟨0, by simp, by simp [constants]⟩

theorem not_mem_distinct (count : Nat) : String.ofList (line 0 ++ [' ']) ∉ distinct count := by
  simp only [distinct, List.mem_cons, List.mem_append, List.mem_map]
  rintro (empty | ⟨number, -, same⟩ | ⟨number, -, same⟩)
  · simp at empty
  · have ends := congrArg List.getLast? (String.ofList_inj.1 same)
    rw [line, List.getLast?_concat, List.getLast?_concat] at ends
    cases ends
  · have inside : ' ' ∈ Nat.toDigits 10 number := by
      rw [String.ofList_inj.1 same]
      simp
    exact not_mem_toDigits number rfl inside

/-- With the blank behind it, the last line is a constant of its own. -/
theorem lt_size_raw {count : Nat} (positive : 0 < count) :
    2 * (count + 1) < (Pool.empty.internAll ((List.range (count + 1)).flatMap constants ++
      [String.ofList (line 0 ++ [' '])])).items.size := by
  have bound : (String.ofList (line 0 ++ [' ']) :: distinct count).length ≤
      (Pool.empty.internAll ((List.range (count + 1)).flatMap constants ++
        [String.ofList (line 0 ++ [' '])])).items.size := by
    apply Pool.length_le_size
      (List.nodup_cons.2 ⟨not_mem_distinct count, nodup_distinct count⟩)
    intro text inside
    rw [Pool.mem_internAll Pool.faithful_empty, List.mem_append, List.mem_singleton,
      ← mem_distinct_iff positive]
    rcases List.mem_cons.1 inside with rfl | inside
    · exact .inr (.inr rfl)
    · exact .inr (.inl inside)
  rw [List.length_cons, length_distinct] at bound
  omega

end Overfull

/-- A template that compiles, with a block whose own source does not. -/
theorem compile_raw_tooLarge :
    ∃ code tree block,
      compile "" .standard (String.ofList (Overfull.source (List.range 32768))) = .ok code ∧
      parse .standard (String.ofList (Overfull.source (List.range 32768))) = .ok tree ∧
      block ∈ tree.blocks ∧
      ∀ name, ∃ overflow,
        compile name block.delimiters block.raw = .error (.tooLarge overflow) := by
  obtain ⟨body, parsed, demand⟩ := Overfull.parse_source (List.range (32767 + 1))
  obtain ⟨tree, parsedRaw, demandRaw⟩ := Overfull.parse_raw (List.range (32767 + 1))
  -- The pool has room for the constants of all rows, and for not one more.
  have positive : 0 < 32767 := by decide
  have size : UInt16.size = 2 * (32767 + 1) := rfl
  have bodyAdmitted : (Compiler.start "").Admits (Node.demandAll body) := by
    rw [demand]
    refine ⟨?_, Nat.zero_le _, Nat.zero_le _, by simp⟩
    rw [size]
    exact Overfull.size_body_le positive
  have rawRefused (name : String) : ¬ (Compiler.start name).Admits tree.demand := by
    intro admits
    have room := admits.constants
    rw [demandRaw, size] at room
    exact Nat.not_lt.2 room (Overfull.lt_size_raw positive)
  rcases compile_of_parse parsed "" with ⟨-, code, compiled⟩ | ⟨refused, -⟩
  · refine ⟨code, _, _, compiled, parsed, List.mem_cons_self .., ?_⟩
    intro name
    rcases compile_of_parse parsedRaw name with ⟨admits, -⟩ | ⟨-, overflow, failed⟩
    · exact absurd admits (rawRefused name)
    · exact ⟨overflow, failed⟩
  · exact absurd (Compiler.admits_block bodyAdmitted "" _ _ _ _) refused

end Mustache
