import Mustache.Run

/-!
# Laws of runs

Runs compose like any other sequence of effects, and blaming a location leaves the state alone.
-/

namespace Mustache.Run

set_option autoImplicit false

variable {State Result Other Item : Type}

theorem bind_def (first : Run State Result) (next : Result → Run State Other) :
    first >>= next = andThen first next := rfl

theorem pure_def (result : Result) : (pure result : Run State Result) = done result := rfl

theorem id_map_run (run : Run State Result) : id <$> run = run := by
  funext state
  change andThen run done state = run state
  unfold andThen
  split <;> simp_all [done]

theorem bind_assoc_run (first : Run State Result) (second : Result → Run State Other)
    (third : Other → Run State Item) :
    first >>= second >>= third = first >>= fun result => second result >>= third := by
  funext state
  simp only [bind_def, andThen]
  cases first state with
  | mk outcome after => cases outcome <;> rfl

instance : LawfulMonad (Run State) :=
  LawfulMonad.mk' (Run State) id_map_run (fun _ _ => rfl) bind_assoc_run

/-- What holds where the first run ends, and what every next run keeps, holds at the end. -/
theorem bind_after (holds : RunState State → Prop) {first : Run State Result}
    {next : Result → Run State Other} {state : RunState State} (early : holds (first state).2)
    (late : ∀ result after, holds after → holds (next result after).2) :
    holds ((first >>= next) state).2 := by
  simp only [bind_def, andThen]
  cases ran : first state with
  | mk outcome after =>
    rw [ran] at early
    cases outcome with
    | error reason => exact early
    | ok result => exact late result after early

/-- Blaming a location changes nothing but an error. -/
theorem located_apply (location : Option Location) (body : Run State Result)
    (state : RunState State) :
    located location body state = (match (body state).1 with
      | .error (.error error) => .error (.error (error.orLocation location))
      | outcome => outcome, (body state).2) := by
  unfold located
  cases body state with
  | mk outcome after =>
    cases outcome with
    | ok result => rfl
    | error reason => cases reason <;> rfl

theorem located_after (location : Option Location) (body : Run State Result)
    (state : RunState State) : (located location body state).2 = (body state).2 := by
  rw [located_apply]

theorem fromPool_of_some {pool : PoolKind} {index : Nat} {value : Option Result} {result : Result}
    (found : value = some result) :
    (fromPool pool index value : Run State Result) = pure result := by
  rw [found]
  rfl

theorem write_empty : (write "" : Run State Unit) = pure () := by
  funext state
  simp [write, Output.pushTrusted, pure_def, done]

end Mustache.Run
