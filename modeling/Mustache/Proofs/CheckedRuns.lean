import Mathlib
import Mustache.Proofs.CheckedReading

/-!
# Runs over checked offsets

Every run of the byte reader stands, turn after turn, where a run of the reader stands. So whatever
the text and the delimiters are, no turn meets an unsound offset, what a turn leaves behind holds
sound offsets only, and a run that comes to an end has come to what the text parses to. Only an
opening text that begins with a blank can keep it from an end: such a text is searched for, but no
tag begins with it.
-/

namespace Mustache

set_option autoImplicit false

theorem Delimiters.exists_of_hidden {delimiters : Delimiters} (hidden : ¬ delimiters.Visible) :
    ∃ first rest, delimiters.opening.toList = first :: rest ∧ Text.isBlank first = true := by
  unfold Visible at hidden
  cases known : delimiters.opening.toList with
  | nil =>
    rw [known] at hidden
    exact absurd (Text.stopsAt_nil _) hidden
  | cons first rest =>
    rw [known, Text.stopsAt_cons, Bool.not_eq_false] at hidden
    exact ⟨first, rest, rfl, hidden⟩

theorem Cursor.rest_of_until? {cursor : Cursor} {literal : List Char}
    (ahead : cursor.until? literal ≠ none) : cursor.rest.isEmpty = false := by
  rw [List.isEmpty_eq_false_iff]
  intro ended
  apply ahead
  rw [until?, ended, Text.splitAt?_empty]
  rfl

/-- Text is read up to the open delimiter at most, so a delimiter that is ahead stays ahead. -/
theorem Lexer.until?_scanText {lexer : Lexer} (marked : lexer.delimiters.opening.toList ≠ [])
    (ahead : lexer.cursor.until? lexer.delimiters.opening.toList ≠ none) :
    lexer.scanText.2.cursor.until? lexer.delimiters.opening.toList ≠ none := by
  obtain ⟨⟨before, next⟩, found⟩ := Option.ne_none_iff_exists'.1 ahead
  obtain ⟨⟨text, after⟩, cut, same⟩ := Option.map_eq_some_iff.1 found
  cases same
  obtain ⟨split, begins, absent⟩ := (Text.splitAt?_eq_some_iff marked).1 cut
  obtain ⟨later, whole⟩ := lexer.cursor.textBefore_prefix before
  have parts : lexer.cursor.rest = lexer.cursor.textBefore before ++ (later ++ after) := by
    rw [split, ← List.append_assoc, whole]
  have rest : lexer.scanText.2.cursor.rest = later ++ after := by
    rw [scanText_of_until? found]
    change lexer.cursor.rest.drop (lexer.cursor.textBefore before).length = _
    rw [parts, List.drop_left]
  rw [← whole] at absent
  unfold Cursor.until?
  rw [rest, (Text.splitAt?_eq_some_iff marked).2 ⟨rfl, begins, absent.right⟩]
  simp

/-- Without an open delimiter ahead, all the rest is one text. -/
theorem Lexer.next?_of_hidden {lexer : Lexer} (hidden : ¬ lexer.delimiters.Visible)
    (filled : lexer.cursor.rest ≠ []) :
    lexer.next? =
      some (.ok (.text lexer.cursor.rest, ⟨lexer.delimiters, lexer.cursor.takeRest.2⟩)) := by
  obtain ⟨blank, others, known, isBlank⟩ := Delimiters.exists_of_hidden hidden
  apply next?_of_untagged ?_ filled
  intro marked
  apply absurd ?_ marked
  unfold Delimiters.mark
  rw [known]
  exact if_pos isBlank

namespace Reader

variable {reader : Reader} {turns : Nat} {outcome : Except Failure (List Node)}

/-- More turns than a run needs change nothing. -/
theorem run_add (ran : reader.run turns = some outcome) (more : Nat) :
    reader.run (turns + more) = some outcome := by
  induction turns generalizing reader with
  | zero =>
    rw [run] at ran
    rw [Nat.zero_add]
    unfold run
    split at ran
    · rename_i ended
      rw [if_pos ended, ran]
    · cases ran
  | succ turns ih =>
    rw [run] at ran
    rw [Nat.add_right_comm, run]
    split at ran
    · rename_i ended
      rw [if_pos ended, ran]
    · rename_i ahead
      rw [if_neg ahead]
      cases taken : reader.turn with
      | error failure =>
        rw [taken] at ran
        exact ran
      | ok next =>
        rw [taken] at ran
        exact ih ran

/-- An opening text that begins with a blank opens no tag. -/
theorem turn_of_hidden (hidden : ¬ reader.lexer.delimiters.Visible) :
    reader.turn = (reader.builder.add (.text reader.lexer.scanText.1)).map
      (mk reader.lexer.scanText.2) := by
  have missed : (reader.lexer.cursor.takeWhile Text.isBlank).2.literal?
      reader.lexer.delimiters.opening.toList = none := by
    rw [Option.eq_none_iff_forall_ne_some]
    intro inside entered
    exact hidden (Lexer.visible_of_entered entered)
  unfold turn Lexer.turn Lexer.scanTag
  dsimp only
  rw [missed]
  rfl

/-- A hidden opening text that is ahead stays ahead. -/
theorem run_of_hidden (hidden : ¬ reader.lexer.delimiters.Visible)
    (ahead : reader.lexer.cursor.until? reader.lexer.delimiters.opening.toList ≠ none) :
    reader.run turns = none := by
  induction turns generalizing reader with
  | zero =>
    rw [run, Cursor.rest_of_until? ahead]
    rfl
  | succ turns ih =>
    obtain ⟨first, rest, known, -⟩ := Delimiters.exists_of_hidden hidden
    have marked : reader.lexer.delimiters.opening.toList ≠ [] := by simp [known]
    have later := Lexer.until?_scanText marked ahead
    rw [run, Cursor.rest_of_until? ahead, turn_of_hidden hidden]
    apply ih
    · exact hidden
    · exact later

/-- A run that ends with a hidden opening text has found it nowhere. -/
theorem run_of_absent (hidden : ¬ reader.lexer.delimiters.Visible)
    (absent : reader.lexer.cursor.until? reader.lexer.delimiters.opening.toList = none)
    (ran : reader.run turns = some outcome) :
    outcome = complete reader.builder (reader.lexer.collect []) := by
  by_cases ended : reader.lexer.cursor.rest = []
  · unfold run at ran
    rw [ended] at ran
    rw [Lexer.collect_of_none [] (Lexer.next?_eq_none_iff.2 ended)]
    exact (Option.some.inj ran).symm
  · have read := Lexer.next?_of_hidden hidden ended
    have text : reader.lexer.scanText =
        (reader.lexer.cursor.rest, ⟨reader.lexer.delimiters, reader.lexer.cursor.takeRest.2⟩) := by
      unfold Lexer.scanText
      rw [absent]
      rfl
    have filled : reader.lexer.cursor.rest.isEmpty = false := by simpa using ended
    rw [Lexer.collect_of_ok [] read, Lexer.collect_eq_cons]
    change outcome = complete reader.builder (Lexing.cons _ (Lexer.collect _ []))
    rw [complete_cons, Lexer.collect_of_none [] (Lexer.next?_eq_none_iff.2 rfl)]
    cases turns with
    | zero =>
      rw [run, filled] at ran
      cases ran
    | succ turns =>
      rw [run, filled, turn_of_hidden hidden, text] at ran
      change run _ turns = some outcome at ran
      unfold run at ran
      exact (Option.some.inj ran).symm

/-- A run that ends comes to what is left to be done. -/
theorem run_eq_complete (ran : reader.run turns = some outcome) :
    outcome = complete reader.builder (reader.lexer.collect []) := by
  by_cases visible : reader.lexer.delimiters.Visible
  · have more := run_add ran reader.lexer.cursor.rest.length
    have enough := reader.run_eq visible (turns + reader.lexer.cursor.rest.length)
      (Nat.le_add_left _ _)
    rw [enough] at more
    exact (Option.some.inj more).symm
  · cases found : reader.lexer.cursor.until? reader.lexer.delimiters.opening.toList with
    | none => exact run_of_absent visible found ran
    | some parts =>
      have never : reader.run turns = none := run_of_hidden visible (by simp [found])
      rw [never] at ran
      cases ran

/-- A turn that fails blames a place of the text. -/
theorem Follows.liesIn_error {text : String} {failure : Failure} (follows : reader.Follows text)
    (failed : reader.turn = .error failure) : failure.position.LiesIn text.toList := by
  have stands := follows.stands
  have atTag := stands.passes (reader.lexer.cursor.passes_takeWhile Text.isBlank)
  unfold Reader.turn Lexer.turn at failed
  cases read : reader.lexer.scanTag with
  | error reason =>
    rw [read] at failed
    cases failed
    unfold Lexer.scanTag at read
    dsimp only at read
    split at read
    · cases read
    · rename_i inside entered
      have passes := (Cursor.passes_literal? _ _ _ entered).1
      cases scanned : Tag.scanInside reader.lexer.delimiters reader.lexer.cursor.atLineStart
          (reader.lexer.cursor.takeWhile Text.isBlank).1
          (reader.lexer.cursor.takeWhile Text.isBlank).2.position inside with
      | error reason =>
        rw [scanned] at read
        cases read
        exact Tag.liesIn_scanInside (atTag.passes passes) atTag.liesIn scanned
      | ok pair =>
        rw [scanned] at read
        cases read
  | ok found =>
    rw [read] at failed
    cases found with
    | none => cases failed
    | some pair =>
      obtain ⟨tag, lexer⟩ := pair
      have here : tag.position.LiesIn text.toList := by
        rw [(Lexer.readsTag read).position]
        exact atTag.liesIn
      cases added : reader.builder.addTag tag with
      | error reason =>
        have refused := follows.keeps.refused here added
        change (reader.builder.addTag tag).map (Reader.mk lexer) = .error failure at failed
        rw [added] at failed
        cases failed
        exact refused
      | ok builder =>
        change (reader.builder.addTag tag).map (Reader.mk lexer) = .error failure at failed
        rw [added] at failed
        cases failed

end Reader

/-- The position and the start of its line are sound offsets of the text. -/
structure Position.SoundIn (text : String) (position : Position) : Prop where
  offset : Text.Boundary text position.offset
  lineStart : Text.Boundary text position.lineStart
  ordered : position.lineStart ≤ position.offset

theorem Position.LiesIn.soundIn {text : String} {position : Position}
    (lies : position.LiesIn text.toList) : position.SoundIn text := by
  obtain ⟨front, back, split, rfl⟩ := lies
  obtain ⟨lines, current, rfl, ends, unbroken⟩ := Text.exists_lines front
  have offset : (start.after (lines ++ current)).offset = Text.byteLength (lines ++ current) := by
    rw [offset_after]
    simp [start]
  constructor
  · exact Text.boundary_iff.2 ⟨_, back, split, offset⟩
  · rw [lineStart_after ends unbroken]
    exact Text.boundary_iff.2 ⟨lines, current ++ back, by rw [split, List.append_assoc], rfl⟩
  · rw [lineStart_after ends unbroken, offset]
    simp

namespace ByteReader

/-- Every offset that the reader holds is sound. -/
structure Sound (text : String) (reader : ByteReader) : Prop where
  source : reader.cursor.text = text
  cursor : Text.Boundary text reader.cursor.offset
  nodes : ∀ place ∈ Node.placesAll reader.nodes, place.SoundIn text
  bodies : ∀ opened ∈ reader.sections,
    Text.Boundary text opened.bodyStart ∧ opened.bodyStart ≤ reader.cursor.offset
  sections : ∀ opened ∈ reader.sections,
    opened.position.SoundIn text ∧ ∀ place ∈ Node.placesAll opened.parent, place.SoundIn text

/-- The readers that a run takes turns with. -/
inductive Reached (delimiters : Delimiters) (text : String) : ByteReader → Prop where
  | start : Reached delimiters text (ofText delimiters text)
  | turn {reader next : ByteReader} (reached : Reached delimiters text reader)
      (ahead : reader.cursor.atEnd = false) (taken : reader.turn? = some (.ok next)) :
      Reached delimiters text next

end ByteReader

/-- Every body begins behind source that was read before. -/
theorem exists_of_mem_sectionsInBytes {sections : List OpenSection} {opened : ByteSection}
    (inside : opened ∈ sectionsInBytes sections) :
    (∃ front, front <+: spelledBefore sections ∧ opened.bodyStart = Text.byteLength front) ∧
      ∃ source ∈ sections, opened.position = source.position ∧ opened.parent = source.before := by
  induction sections with
  | nil => cases inside
  | cons first outer ih =>
    rcases List.mem_cons.1 inside with rfl | inside
    · exact ⟨⟨_, List.prefix_rfl, rfl⟩, first, List.mem_cons_self, rfl, rfl⟩
    · obtain ⟨⟨front, begins, bodyStart⟩, source, among, same⟩ := ih inside
      refine ⟨⟨front, ?_, bodyStart⟩, source, List.mem_cons_of_mem _ among, same⟩
      rw [spelledBefore, List.append_assoc]
      exact begins.trans (List.prefix_append _ _)

namespace Reader

variable {reader : Reader} {text : String}

/-- At the place of a reader, all offsets are sound. -/
theorem Follows.sound (follows : reader.Follows text) : (reader.inBytes text).Sound text := by
  have stands := follows.stands
  constructor
  · rfl
  · exact ByteCursor.boundary_inBytes stands
  · exact fun place inside => (follows.keeps.nodes place inside).soundIn
  · intro opened inside
    obtain ⟨⟨front, ⟨more, begins⟩, bodyStart⟩, -⟩ := exists_of_mem_sectionsInBytes inside
    have split : text.toList = front ++ (more ++ reader.builder.raw.reverse.flatten ++
        reader.lexer.cursor.rest) := by
      rw [follows.spelled, TreeBuilder.spelled, ← begins]
      simp
    refine ⟨Text.boundary_iff.2 ⟨front, _, split, bodyStart⟩, ?_⟩
    change opened.bodyStart ≤ reader.lexer.cursor.position.offset
    rw [follows.reached, Position.offset_after, TreeBuilder.spelled, ← begins, bodyStart]
    simp [Position.start]
  · intro opened inside
    obtain ⟨-, source, among, position, parent⟩ := exists_of_mem_sectionsInBytes inside
    obtain ⟨begins, before⟩ := follows.keeps.sections source among
    rw [position, parent]
    exact ⟨begins.soundIn, fun place inside => (before place inside).soundIn⟩

theorem le_of_turn {next : Reader} (taken : reader.turn = .ok next) :
    reader.lexer.cursor.position.offset ≤ next.lexer.cursor.position.offset := by
  obtain ⟨lexeme, passes, -, -⟩ := exists_of_turn taken
  rw [ByteCursor.offset_passes passes]
  exact Nat.le_add_right _ _

theorem exists_of_reached {delimiters : Delimiters} {bytes : ByteReader}
    (reached : ByteReader.Reached delimiters text bytes) :
    ∃ reader : Reader, bytes = reader.inBytes text ∧ reader.Follows text := by
  induction reached with
  | start => exact ⟨_, rfl, follows_ofText delimiters text⟩
  | turn reached ahead taken ih =>
    obtain ⟨reader, rfl, follows⟩ := ih
    rw [turn?_inBytes follows] at taken
    cases came : reader.turn with
    | error failure =>
      rw [came] at taken
      cases taken
    | ok next =>
      rw [came] at taken
      cases taken
      exact ⟨next, rfl, follows.turn came⟩

end Reader

theorem parse_eq_reported (delimiters : Delimiters) (text : String) :
    parse delimiters text =
      reported text Node.sequence (Lexing.ofText delimiters text.toList).toNodes := by
  unfold parse
  cases (Lexing.ofText delimiters text.toList).toNodes with
  | error failure => rfl
  | ok nodes => rfl

/-- Reading never meets an unsound offset. Every reader that a run takes turns with holds sound
offsets only. Its next turn passes all checks, does not move the cursor back, and blames a sound
place if it fails; the end of the text passes all checks too. Whenever a run ends, it has come to
the tree or the error of the template, and it ends unless the opening text begins with a blank. -/
theorem ByteReader.reads_at_sound_offsets (delimiters : Delimiters) (text : String) :
    (∀ reader, Reached delimiters text reader →
      reader.Sound text ∧
      (∃ outcome, reader.turn? = some outcome ∧
        (∀ next, outcome = .ok next → reader.cursor.offset ≤ next.cursor.offset) ∧
        ∀ error, outcome = .error error → error.position.SoundIn text) ∧
      ∃ outcome, reader.finish? = some outcome) ∧
    (∀ turns, (ofText delimiters text).run? turns = some none ∨
      (ofText delimiters text).run? turns = some (some (parse delimiters text))) ∧
    (delimiters.Visible → (ofText delimiters text).run? text.toList.length =
      some (some (parse delimiters text))) := by
  have begins := Reader.follows_ofText delimiters text
  have same : ofText delimiters text = (Reader.ofText delimiters text.toList).inBytes text := rfl
  have whole : Reader.complete TreeBuilder.empty (Lexing.ofText delimiters text.toList) =
      (Lexing.ofText delimiters text.toList).toNodes := rfl
  refine ⟨?_, ?_, ?_⟩
  · intro bytes reached
    obtain ⟨reader, rfl, follows⟩ := Reader.exists_of_reached reached
    refine ⟨follows.sound, ⟨_, Reader.turn?_inBytes follows, ?_, ?_⟩,
      _, Reader.finish?_inBytes follows⟩
    · intro next came
      cases taken : reader.turn with
      | error failure =>
        rw [taken] at came
        cases came
      | ok read =>
        rw [taken] at came
        cases came
        exact Reader.le_of_turn taken
    · intro error came
      cases taken : reader.turn with
      | error failure =>
        rw [taken] at came
        cases came
        exact (follows.liesIn_error taken).soundIn
      | ok read =>
        rw [taken] at came
        cases came
  · intro turns
    rw [same, Reader.run?_inBytes begins]
    cases ran : (Reader.ofText delimiters text.toList).run turns with
    | none => exact .inl rfl
    | some outcome =>
      right
      rw [Reader.run_eq_complete ran, parse_eq_reported, ← whole]
      rfl
  · intro visible
    have enough : (Reader.ofText delimiters text.toList).run text.toList.length = _ :=
      Reader.run_eq _ visible _ (Nat.le_refl _)
    rw [same, Reader.run?_inBytes begins, enough, parse_eq_reported, ← whole]
    rfl

theorem ByteReader.reads_at_sound_offsets_arrows :
    (⟨"→", "←"⟩ : Delimiters).Visible ∧
      (∃ reader, Reached ⟨"→", "←"⟩ "é→#a←ü→/a←" reader ∧
        reader.sections.map ByteSection.bodyStart = [10] ∧ reader.Sound "é→#a←ü→/a←") ∧
      (ofText ⟨"→", "←"⟩ "é→#a←ü→/a←").run? 10 =
        some (some (.ok (.sequence [.text "é",
          .block ⟨["a"]⟩ [.text "ü"] "ü" ⟨"→", "←"⟩ ⟨2, 0, 0, 2⟩]))) := by
  have visible : (⟨"→", "←"⟩ : Delimiters).Visible := by decide
  obtain ⟨states, -, ends⟩ := reads_at_sound_offsets ⟨"→", "←"⟩ "é→#a←ü→/a←"
  have begins := Reader.follows_ofText ⟨"→", "←"⟩ "é→#a←ü→/a←"
  have text : (Reader.ofText ⟨"→", "←"⟩ "é→#a←ü→/a←".toList).turn =
      .ok ⟨⟨⟨"→", "←"⟩, ⟨⟨2, 0, 0, 2⟩, "→#a←ü→/a←".toList⟩⟩, ⟨[.text "é"], [['é']], []⟩⟩ := by cbv
  have follows := begins.turn text
  have tag : Reader.turn ⟨⟨⟨"→", "←"⟩, ⟨⟨2, 0, 0, 2⟩, "→#a←ü→/a←".toList⟩⟩,
      ⟨[.text "é"], [['é']], []⟩⟩ = .ok ⟨⟨⟨"→", "←"⟩, ⟨⟨10, 0, 0, 10⟩, "ü→/a←".toList⟩⟩,
        ⟨[], [], [⟨['a'], false, ⟨2, 0, 0, 2⟩, ⟨"→", "←"⟩, "→#a←".toList, [.text "é"],
          [['é']]⟩]⟩⟩ := by
    cbv
  have textTaken := (Reader.turn?_inBytes begins).trans
    (congrArg (fun outcome => some (reported _ _ outcome)) text)
  have tagTaken := (Reader.turn?_inBytes follows).trans
    (congrArg (fun outcome => some (reported _ _ outcome)) tag)
  have opened := Reached.turn (.turn .start (Reader.atEnd_inBytes begins) textTaken)
    (Reader.atEnd_inBytes follows) tagTaken
  refine ⟨visible, ⟨_, opened, rfl, (states _ opened).1⟩, ?_⟩
  have parsed : parse ⟨"→", "←"⟩ "é→#a←ü→/a←" =
      .ok (.sequence [.text "é",
        .block ⟨["a"]⟩ [.text "ü"] "ü" ⟨"→", "←"⟩ ⟨2, 0, 0, 2⟩]) := by cbv
  rw [← parsed]
  exact ends visible

end Mustache
