import Mustache.Proofs.Evaluation
import Mustache.Proofs.NodeLayout
import Mustache.Proofs.RunLaws

/-!
# Running the code of a tree
-/

namespace Mustache

set_option autoImplicit false

namespace Run

variable {State : Type} [Host State] {limit remaining : Nat} {code : Code}

theorem execute_of_holds {offset next : Nat} {instruction : Instruction}
    (holds : code.Holds offset instruction next) (goes : instruction ≠ .halt) :
    (execute limit remaining (Frame.atOffset code offset) : Run State Unit) = (do
      located (code.location? offset) (perform limit remaining code instruction)
      execute limit remaining (Frame.atOffset code next)) := by
  rw [execute]
  split
  · rename_i ended
    rw [holds] at ended
    cases ended
  · rename_i defect broken
    rw [holds] at broken
    cases broken
  · rename_i after stopped
    rw [holds] at stopped
    cases stopped
    exact absurd rfl goes
  · rename_i found after _ decoded
    rw [holds] at decoded
    cases decoded
    rfl

theorem execute_of_halt {offset next : Nat} (holds : code.Holds offset .halt next) :
    (execute limit remaining (Frame.atOffset code offset) : Run State Unit) = pure () := by
  rw [execute]
  split
  · rfl
  · rename_i defect broken
    rw [holds] at broken
    cases broken
  · rfl
  · rename_i found after goes decoded
    rw [holds] at decoded
    cases decoded
    exact absurd rfl goes

theorem perform_text {index : Nat} {text : String} (found : code.constants[index]? = some text) :
    (perform limit remaining code (.text index) : Run State Unit) = write text := by
  rw [perform, found]
  rfl

theorem perform_escapedTag : (perform limit remaining code .escapedTag : Run State Unit) = (do
    let value ← popValue
    writeEscaped value.tagText) := by
  rw [perform]

theorem perform_unescapedTag : (perform limit remaining code .unescapedTag : Run State Unit) = (do
    let value ← popValue
    write value.tagText) := by
  rw [perform]

theorem perform_fetch {index : Nat} {name : String} (found : code.names[index]? = some name) :
    (perform limit remaining code (.fetch index) : Run State Unit) = (do
      let value ← fromContext fun context => context.fetch name
      pushValue value) := by
  rw [perform, found]
  rfl

theorem perform_find {index : Nat} {name : String} (found : code.names[index]? = some name) :
    (perform limit remaining code (.find index) : Run State Unit) = (do
      let container ← popValue
      pushValue (Context.find container name)) := by
  rw [perform, found]
  rfl

/-- Where a callable leads: its text is written, or expanded if it may hold a tag. -/
def expansion (limit remaining : Nat) (entry : SectionEntry) (callable : Callable Value) :
    Run State Unit :=
  let text := (callable.apply entry.raw).text
  if Text.contains entry.delimiters.opening.toList text.toList then
    match remaining with
    | 0 => fail (.depthExceeded limit)
    | below + 1 => do
      let code ← ask fun host => Host.expand host text entry.delimiters
      execute limit below (Frame.start code)
  else write text

omit [Host State] in
/-- Planning a section first gives the section-value table. -/
theorem plan_eq_table (body : Run State Unit) (call : Callable Value → Run State Unit)
    (value : Value) :
    (match SectionPlan.of value with
      | .skip => pure ()
      | .once => body
      | .enter frame => withFrame frame body
      | .iterate items => forEach (fun item => withFrame item body) items
      | .expand callable => call callable) = table body call value := by
  cases value with
  | null | lambda => rfl
  | bool truth => cases truth <;> rfl
  | list items => cases items <;> rfl
  | int | float => rfl
  | string content | map content | object content =>
    unfold SectionPlan.of table
    dsimp only
    generalize Value.isEmpty _ = empty
    cases empty <;> rfl

theorem perform_block {index : Nat} {entry : SectionEntry} {body : Code}
    (found : code.sections[index]? = some entry) (child : code.children[entry.body]? = some body) :
    (perform limit remaining code (.block index) : Run State Unit) = (do
      let value ← popValue
      table (execute limit remaining (Frame.start body)) (expansion limit remaining entry)
        value) := by
  rw [perform]
  congr 1
  funext value
  have entered : fromPool .sections index (some entry) =
      (pure entry : Run State SectionEntry) := rfl
  rw [found, entered, pure_bind]
  split
  · rename_i absent
    rw [child] at absent
    cases absent
  · rename_i present known
    rw [child] at known
    cases known
    exact plan_eq_table _ _ value

theorem perform_inverted {index : Nat} {body : Code} (child : code.children[index]? = some body) :
    (perform limit remaining code (.inverted index) : Run State Unit) = (do
      let value ← popValue
      if value.isFalsy then execute limit remaining (Frame.start body) else pure ()) := by
  rw [perform]
  congr 1
  funext value
  split
  · split
    · rename_i absent
      rw [child] at absent
      cases absent
    · rename_i present known
      rw [child] at known
      cases known
      rfl
  · rfl

theorem perform_partialTag {nameIndex indentationIndex : Nat} {name indentation : String}
    (named : code.constants[nameIndex]? = some name)
    (indented : code.constants[indentationIndex]? = some indentation) :
    (perform limit remaining code (.partialTag nameIndex indentationIndex) : Run State Unit) =
      (match remaining with
      | 0 => fail (.depthExceeded limit)
      | below + 1 => do
        let found ← ask fun host => Host.partial? host name
        match found with
        | none => pure ()
        | some template =>
          if indentation.isEmpty then execute limit below (Frame.start template)
          else Run.indented indentation (execute limit below (Frame.start template))) := by
  rw [perform, named, indented]
  rfl

end Run

namespace Run

variable {State : Type} [Host State] {limit remaining : Nat} {code : Code}

/-- The look-ups of a path's further segments replace the value on the stack. -/
theorem execute_of_finds {names : List String} {start stop : Nat}
    (finds : code.Finds start names stop) (value : Value) :
    (pushValue value >>= fun _ =>
        execute limit remaining (Frame.atOffset code start) : Run State Unit) =
      (pushValue (names.foldl Context.find value) >>= fun _ =>
        execute limit remaining (Frame.atOffset code stop)) := by
  induction names generalizing start value with
  | nil =>
    cases finds
    rfl
  | cons name rest ih =>
    obtain ⟨index, next, known, holds, others⟩ := finds
    rw [List.foldl_cons, ← ih others (Context.find value name), execute_of_holds holds (by simp),
      perform_find known]
    rfl

theorem execute_of_resolves {path : Path} {start stop : Nat}
    (resolves : code.Resolves start path stop) :
    (execute limit remaining (Frame.atOffset code start) : Run State Unit) = (do
      let value ← Node.valueOf path
      pushValue value
      execute limit remaining (Frame.atOffset code stop)) := by
  obtain ⟨segments⟩ := path
  unfold Code.Resolves at resolves
  unfold Node.valueOf Context.resolve
  cases segments with
  | nil =>
    rw [execute_of_holds resolves (by simp), perform]
    rfl
  | cons first rest =>
    obtain ⟨index, next, known, holds, finds⟩ := resolves
    rw [execute_of_holds holds (by simp), perform_fetch known]
    calc
      _ = (fromContext fun context => context.fetch first) >>= fun value => pushValue value >>=
          fun _ => execute limit remaining (Frame.atOffset code next) := rfl
      _ = _ := by
        simp only [execute_of_finds finds]
        rfl

theorem execute_of_use {path : Path} {instruction : Instruction} {start tag stop : Nat}
    (use : Value → Run State Unit) (resolves : code.Resolves start path tag)
    (holds : code.Holds tag instruction stop) (goes : instruction ≠ .halt)
    (performs : perform limit remaining code instruction = popValue >>= use) :
    (execute limit remaining (Frame.atOffset code start) : Run State Unit) = (do
      located (code.location? tag) (Node.valueOf path >>= use)
      execute limit remaining (Frame.atOffset code stop)) := by
  rw [execute_of_resolves resolves]
  simp only [execute_of_holds holds goes, performs]
  rfl

end Run

end Mustache
