import Mustache.Machine
import Mustache.Proofs.RunLaws

/-!
# Monitored runs

A monitor stands around the run of every block, around every step into a partial or the output of a
callable, and at every value that is taken off the stack. One that does nothing leaves the machine
as it is. What another monitor keeps count of, or checks, can then be compared with the machine
instruction by instruction.
-/

namespace Mustache

set_option autoImplicit false

theorem Code.sizeOf_lt_of_mem {code child : Code} (found : child ∈ code.children) :
    sizeOf child < sizeOf code := by
  obtain ⟨index, known⟩ := Array.getElem?_of_mem found
  exact code.sizeOf_child_lt child index known

/-- Every run is bounded by the levels that remain, the blocks below, and the words ahead. -/
theorem Frame.descent {motive : Nat → Frame → Prop}
    (step : ∀ (remaining : Nat) (frame : Frame),
      (∀ child ∈ frame.code.children, motive remaining (Frame.start child)) →
      (∀ (below : Nat) (template : Code), remaining = below + 1 →
        motive below (Frame.start template)) →
      (∀ next : Frame, next.code = frame.code → next.ahead.length < frame.ahead.length →
        motive remaining next) →
      motive remaining frame)
    (remaining : Nat) (frame : Frame) : motive remaining frame := by
  apply step
  · intro child found
    exact descent step remaining (Frame.start child)
  · intro below template level
    exact descent step below (Frame.start template)
  · intro next same shorter
    exact descent step remaining next
termination_by (remaining, sizeOf frame.code, frame.ahead.length)
decreasing_by
  · exact Prod.Lex.right _ (Prod.Lex.left _ _ (Code.sizeOf_lt_of_mem found))
  · rw [level]
    exact Prod.Lex.left _ _ (Nat.lt_succ_self _)
  · rw [same]
    exact Prod.Lex.right _ (Prod.Lex.right _ shorter)

theorem Frame.decode?_cases (frame : Frame) :
    frame.decode? = none ∨ (∃ defect, frame.decode? = some (.error defect)) ∨
      (∃ next, frame.decode? = some (.ok (.halt, next))) ∨
      ∃ instruction next, instruction ≠ .halt ∧
        frame.decode? = some (.ok (instruction, next)) := by
  cases frame.decode? with
  | none => exact .inl rfl
  | some result =>
    cases result with
    | error defect => exact .inr (.inl ⟨defect, rfl⟩)
    | ok read =>
      obtain ⟨instruction, next⟩ := read
      by_cases halts : instruction = .halt
      · rw [halts]
        exact .inr (.inr (.inl ⟨next, rfl⟩))
      · exact .inr (.inr (.inr ⟨instruction, next, halts, rfl⟩))

variable {State : Type} [Host State]

namespace Run

/-- What an instruction does, apart from how values are popped, how the blocks below are run and
how another template is entered. -/
def effect (code : Code) (pop : Run State Value)
    (inside : (child : Code) → child ∈ code.children → Run State Unit)
    (deeper : ((Code → Run State Unit) → Run State Unit) → Run State Unit) :
    Instruction → Run State Unit
  | .halt => pure ()
  | .text index => do
    let text ← fromPool .textConstants index code.constants[index]?
    write text
  | .escapedTag => do
    let value ← pop
    writeEscaped value.tagText
  | .unescapedTag => do
    let value ← pop
    write value.tagText
  | .fetch index => do
    let name ← fromPool .names index code.names[index]?
    let value ← fromContext fun context => context.fetch name
    pushValue value
  | .fetchImplicit => do
    let value ← fromContext Context.top
    pushValue value
  | .find index => do
    let container ← pop
    let name ← fromPool .names index code.names[index]?
    pushValue (Context.find container name)
  | .block index => do
    let value ← pop
    let entry ← fromPool .sections index code.sections[index]?
    match found : code.children[entry.body]? with
    | none => fault (.outOfRange .sectionBodies entry.body)
    | some body =>
      let enter := inside body (Array.mem_of_getElem? found)
      match SectionPlan.of value with
      | .skip => pure ()
      | .once => enter
      | .enter frame => withFrame frame enter
      | .iterate items => forEach (fun item => withFrame item enter) items
      | .expand callable =>
        let text := (callable.apply entry.raw).text
        if Text.contains entry.delimiters.opening.toList text.toList then
          deeper fun run => do
            let expansion ← ask fun host => Host.expand host text entry.delimiters
            run expansion
        else write text
  | .inverted index => do
    let value ← pop
    if value.isFalsy then
      match found : code.children[index]? with
      | none => fault (.outOfRange .sectionBodies index)
      | some body => inside body (Array.mem_of_getElem? found)
    else pure ()
  | .partialTag nameIndex indentationIndex => do
    let name ← fromPool .textConstants nameIndex code.constants[nameIndex]?
    let indentation ← fromPool .textConstants indentationIndex code.constants[indentationIndex]?
    deeper fun run => do
      let found ← ask fun host => Host.partial? host name
      match found with
      | none => pure ()
      | some template =>
        if indentation.isEmpty then run template else indented indentation (run template)

/-- Enters another template one level deeper, unless no level is left. -/
def descend (limit remaining : Nat) (run : Nat → Code → Run State Unit)
    (body : (Code → Run State Unit) → Run State Unit) : Run State Unit :=
  match remaining with
  | 0 => fail (.depthExceeded limit)
  | below + 1 => body (run below)

theorem perform_eq_effect (limit remaining : Nat) (code : Code) (instruction : Instruction) :
    (perform limit remaining code instruction : Run State Unit) =
      effect code popValue (fun child _ => execute limit remaining (Frame.start child))
        (descend limit remaining fun below template => execute limit below (Frame.start template))
        instruction := by
  rw [perform.eq_def]
  cases remaining <;> cases instruction <;> rfl

theorem execute_eq (limit remaining : Nat) (frame : Frame) :
    (execute limit remaining frame : Run State Unit) =
      match frame.decode? with
      | none => pure ()
      | some (.error defect) => fault defect
      | some (.ok (.halt, _)) => pure ()
      | some (.ok (instruction, next)) =>
        located frame.location? (perform limit remaining frame.code instruction) >>= fun _ =>
          execute limit remaining next := by
  rw [execute]
  split <;> simp_all

theorem execute_of_step {limit remaining : Nat} {frame next : Frame} {instruction : Instruction}
    (goes : instruction ≠ .halt) (decoded : frame.decode? = some (.ok (instruction, next))) :
    (execute limit remaining frame : Run State Unit) =
      located frame.location? (perform limit remaining frame.code instruction) >>= fun _ =>
        execute limit remaining next := by
  rw [execute_eq, decoded]
  cases instruction with
  | halt => exact absurd rfl goes
  | _ => rfl

end Run

/-- What is done around the runs of a machine. -/
structure Monitor (State : Type) where
  /-- Takes the latest value off the stack. -/
  pop : Run State Value
  /-- Around the run of a block. -/
  around : Run State Unit → Run State Unit
  /-- Around what is done one level deeper. -/
  deeper : Run State Unit → Run State Unit

namespace Monitor

open Run

variable (monitor : Monitor State)

/-- Runs the words ahead of a frame under a monitor. -/
def execute (limit remaining : Nat) (frame : Frame) : Run State Unit :=
  match _decoded : frame.decode? with
  | none => pure ()
  | some (.error defect) => fault defect
  | some (.ok (.halt, _)) => pure ()
  | some (.ok (instruction, next)) => do
    located frame.location? (effect frame.code monitor.pop
      (fun child _found => monitor.around (execute limit remaining (Frame.start child)))
      (fun body => monitor.deeper
        (match remaining with
        | 0 => fail (.depthExceeded limit)
        | below + 1 => body fun template =>
          monitor.around (execute limit below (Frame.start template))))
      instruction)
    execute limit remaining next
termination_by (remaining, sizeOf frame.code, frame.ahead.length)
decreasing_by
  · exact Prod.Lex.right _ (Prod.Lex.left _ _ (Code.sizeOf_lt_of_mem _found))
  · exact Prod.Lex.left _ _ (Nat.lt_succ_self _)
  · have shorter := frame.decode?_shorter next instruction _decoded
    rw [shorter.1]
    exact Prod.Lex.right _ (Prod.Lex.right _ shorter.2)

/-- Runs a block under a monitor. -/
def run (limit remaining : Nat) (code : Code) : Run State Unit :=
  monitor.around (monitor.execute limit remaining (Frame.start code))

theorem execute_eq (limit remaining : Nat) (frame : Frame) :
    monitor.execute limit remaining frame =
      match frame.decode? with
      | none => pure ()
      | some (.error defect) => fault defect
      | some (.ok (.halt, _)) => pure ()
      | some (.ok (instruction, next)) =>
        located frame.location? (effect frame.code monitor.pop
          (fun child _ => monitor.run limit remaining child)
          (fun body => monitor.deeper (descend limit remaining (monitor.run limit) body))
          instruction) >>= fun _ => monitor.execute limit remaining next := by
  rw [execute]
  split <;> simp_all
  cases remaining <;> rfl

theorem execute_of_step {limit remaining : Nat} {frame next : Frame} {instruction : Instruction}
    (goes : instruction ≠ .halt) (decoded : frame.decode? = some (.ok (instruction, next))) :
    monitor.execute limit remaining frame =
      located frame.location? (effect frame.code monitor.pop
        (fun child _ => monitor.run limit remaining child)
        (fun body => monitor.deeper (descend limit remaining (monitor.run limit) body))
        instruction) >>= fun _ => monitor.execute limit remaining next := by
  rw [execute_eq, decoded]
  cases instruction with
  | halt => exact absurd rfl goes
  | _ => rfl

end Monitor

/-- Related runs stay related however they are put together. `rel` relates runs of two hosts, or
runs of one host to themselves. -/
structure Run.Closed {First Second : Type} [Host First] [Host Second]
    (rel : {Result : Type} → Run First Result → Run Second Result → Prop) : Prop where
  stop : ∀ {Result : Type} (reason : Stop), rel (Run.stop reason : Run First Result) (Run.stop reason)
  done : ∀ {Result : Type} (result : Result), rel (Run.done result) (Run.done result)
  bind : ∀ {Result Other : Type} {first : Run First Result} {second : Run Second Result}
    {next : Result → Run First Other} {later : Result → Run Second Other}, rel first second →
    (∀ result, rel (next result) (later result)) → rel (first >>= next) (second >>= later)
  pushValue : ∀ value, rel (Run.pushValue value) (Run.pushValue value)
  fromContext : ∀ {Result : Type} (read : Context → Result),
    rel (Run.fromContext read) (Run.fromContext read)
  write : ∀ text, rel (Run.write text) (Run.write text)
  writeEscaped : ∀ text, rel (Run.writeEscaped text) (Run.writeEscaped text)
  withFrame : ∀ (frame : Value) {first : Run First Unit} {second : Run Second Unit},
    rel first second → rel (Run.withFrame frame first) (Run.withFrame frame second)
  indented : ∀ (indentation : String) {first : Run First Unit} {second : Run Second Unit},
    rel first second → rel (Run.indented indentation first) (Run.indented indentation second)
  located : ∀ (location : Option Location) {first : Run First Unit} {second : Run Second Unit},
    rel first second → rel (Run.located location first) (Run.located location second)
  partial? : ∀ name, rel (Run.ask fun host => Host.partial? host name)
    (Run.ask fun host => Host.partial? host name)
  expand : ∀ text pair, rel (Run.ask fun host => Host.expand host text pair)
    (Run.ask fun host => Host.expand host text pair)

namespace Run.Closed

variable {First Second : Type} [Host First] [Host Second]
  {rel deep : {Result : Type} → Run First Result → Run Second Result → Prop}

theorem fromPool (closed : Closed rel) {Result : Type} (pool : PoolKind) (index : Nat)
    (value : Option Result) : rel (Run.fromPool pool index value) (Run.fromPool pool index value) := by
  cases value with
  | none => exact closed.stop _
  | some result => exact closed.done result

theorem forEach (closed : Closed rel) {first : Value → Run First Unit}
    {second : Value → Run Second Unit} (body : ∀ item, rel (first item) (second item))
    (items : List Value) : rel (Run.forEach first items) (Run.forEach second items) := by
  induction items with
  | nil => exact closed.done ()
  | cons item items ih => exact closed.bind (body item) fun _ => ih

/-- Instructions are related if values are popped, blocks below are run and other templates are
entered in a related way. -/
theorem effect (closed : Closed rel) (closedDeep : Closed deep) {code : Code}
    {pop : Run First Value} {popOther : Run Second Value} (pops : rel pop popOther)
    {inside : (child : Code) → child ∈ code.children → Run First Unit}
    {insideOther : (child : Code) → child ∈ code.children → Run Second Unit}
    (enters : ∀ child found, rel (inside child found) (insideOther child found))
    {deeper : ((Code → Run First Unit) → Run First Unit) → Run First Unit}
    {deeperOther : ((Code → Run Second Unit) → Run Second Unit) → Run Second Unit}
    (descends : ∀ body bodyOther,
      (∀ run runOther, (∀ template, deep (run template) (runOther template)) →
        deep (body run) (bodyOther runOther)) → rel (deeper body) (deeperOther bodyOther))
    (instruction : Instruction) :
    rel (Run.effect code pop inside deeper instruction)
      (Run.effect code popOther insideOther deeperOther instruction) := by
  cases instruction with
  | halt => exact closed.done ()
  | text index => exact closed.bind (closed.fromPool _ _ _) fun text => closed.write text
  | escapedTag => exact closed.bind pops fun value => closed.writeEscaped _
  | unescapedTag => exact closed.bind pops fun value => closed.write _
  | fetch index =>
    apply closed.bind (closed.fromPool _ _ _)
    intro name
    exact closed.bind (closed.fromContext _) closed.pushValue
  | fetchImplicit => exact closed.bind (closed.fromContext _) closed.pushValue
  | find index =>
    apply closed.bind pops
    intro container
    exact closed.bind (closed.fromPool _ _ _) fun name => closed.pushValue _
  | block index =>
    apply closed.bind pops
    intro value
    apply closed.bind (closed.fromPool _ _ _)
    intro entry
    dsimp only
    split
    · exact closed.stop _
    · rename_i body found
      have enter := enters body (Array.mem_of_getElem? found)
      split
      · exact closed.done ()
      · exact enter
      · exact closed.withFrame _ enter
      · exact closed.forEach (fun item => closed.withFrame item enter) _
      · split
        · apply descends
          intro run runOther runs
          exact closedDeep.bind (closedDeep.expand _ _) runs
        · exact closed.write _
  | inverted index =>
    apply closed.bind pops
    intro value
    split
    · split
      · exact closed.stop _
      · rename_i body found
        exact enters body (Array.mem_of_getElem? found)
    · exact closed.done ()
  | partialTag nameIndex indentationIndex =>
    apply closed.bind (closed.fromPool _ _ _)
    intro name
    apply closed.bind (closed.fromPool _ _ _)
    intro indentation
    apply descends
    intro run runOther runs
    apply closedDeep.bind (closedDeep.partial? name)
    intro found
    cases found with
    | none => exact closedDeep.done ()
    | some template =>
      dsimp only
      split
      · exact runs template
      · exact closedDeep.indented _ (runs template)

/-- Words ahead are related if what the next instruction does is, and the words behind it. -/
theorem execute (closed : Closed rel) (monitor : Monitor First) {limit fuel other remaining : Nat}
    {frame : Frame}
    (performs : ∀ instruction, rel
      (Run.effect frame.code monitor.pop (fun child _ => monitor.run limit fuel child)
        (fun body => monitor.deeper (descend limit fuel (monitor.run limit) body)) instruction)
      (perform other remaining frame.code instruction))
    (later : ∀ next : Frame, next.code = frame.code → next.ahead.length < frame.ahead.length →
      rel (monitor.execute limit fuel next) (Run.execute other remaining next)) :
    rel (monitor.execute limit fuel frame) (Run.execute other remaining frame) := by
  rcases frame.decode?_cases with none | ⟨defect, broken⟩ | ⟨next, halts⟩ |
      ⟨instruction, next, goes, decoded⟩
  · rw [monitor.execute_eq, execute_eq, none]
    exact closed.done ()
  · rw [monitor.execute_eq, execute_eq, broken]
    exact closed.stop _
  · rw [monitor.execute_eq, execute_eq, halts]
    exact closed.done ()
  · have shorter := frame.decode?_shorter next instruction decoded
    rw [monitor.execute_of_step goes decoded, execute_of_step goes decoded]
    apply closed.bind
    · exact closed.located _ (performs instruction)
    · intro _
      exact later next shorter.1 shorter.2

end Run.Closed

theorem Run.closed_eq :
    Closed fun {Result : Type} (first second : Run State Result) => first = second where
  stop _ := rfl
  done _ := rfl
  bind same next := by rw [same, funext next]
  pushValue _ := rfl
  fromContext _ := rfl
  write _ := rfl
  writeEscaped _ := rfl
  withFrame _ _ _ same := by rw [same]
  indented _ _ _ same := by rw [same]
  located _ _ _ same := by rw [same]
  partial? _ := rfl
  expand _ _ := rfl

def Monitor.idle : Monitor State := ⟨Run.popValue, id, id⟩

/-- Under the monitor that does nothing the machine runs as it does without one. -/
theorem Monitor.execute_idle (limit remaining : Nat) (frame : Frame) :
    (idle : Monitor State).execute limit remaining frame = Run.execute limit remaining frame := by
  induction remaining, frame using Frame.descent with
  | step remaining frame inside deeper later =>
    apply Run.closed_eq.execute idle
    · intro instruction
      rw [Run.perform_eq_effect]
      apply Run.closed_eq.effect Run.closed_eq rfl
      · exact inside
      · intro body bodyOther related
        cases remaining with
        | zero => rfl
        | succ below =>
          apply related
          intro template
          exact deeper below template rfl
    · exact later

end Mustache
