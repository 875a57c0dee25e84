import Jack.Proofs.Machine.Evaluation

namespace Jack

def Ending.andThen (later : Store → Option Ending) : Ending → Option Ending
  | next store => later store
  | returned word store => some (returned word store)

variable (callee : Callee) (context : Context)

/-- The runs as a function. The fuel bounds the depth of a run, and every run that ends has fuel enough. -/
def run? : Nat → Task → Store → Option Ending
  | 0, _, _ => none
  | _ + 1, .all [], store => some (.next store)
  | fuel + 1, .all (statement :: statements), store =>
    (run? fuel (.one statement) store).bind (Ending.andThen (run? fuel (.all statements)))
  | fuel + 1, .one statement, store =>
    match statement with
    | .assign _ target _ value _ =>
      let (word, after) := value.eval callee context store
      some (.next (after.writeName target word))
    | .assignElement _ array _ index _ _ value _ =>
      let (offset, middle) := index.eval callee context store
      let (word, after) := value.eval callee context middle
      some (.next (after.writeHeap (store.readName array + offset) word))
    | .when _ _ condition _ body =>
      let (word, middle) := condition.eval callee context store
      if word = 0 then some (.next middle) else run? fuel (.all body.statements) middle
    | .whenElse _ _ condition _ body _ alternative =>
      let (word, middle) := condition.eval callee context store
      if word = 0 then run? fuel (.all alternative.statements) middle
      else run? fuel (.all body.statements) middle
    | .loop keyword opening condition closing body =>
      let (word, middle) := condition.eval callee context store
      if word = 0 then some (.next middle)
      else
        (run? fuel (.all body.statements) middle).bind
          (Ending.andThen (run? fuel (.one (.loop keyword opening condition closing body))))
    | .call _ call _ => some (.next (call.eval callee context store).2)
    | .leave _ _ => some (.returned 0 store)
    | .leaveWith _ value _ =>
      let (word, after) := value.eval callee context store
      some (.returned word after)

variable {callee context} {fuel : Nat} {task : Task} {store : Store} {ending : Ending}

theorem exists_of_andThen {first? : Option Ending} {later : Store → Option Ending}
    (ended : first?.bind (Ending.andThen later) = some ending) :
    (∃ middle, first? = some (.next middle) ∧ later middle = some ending) ∨
      ∃ word last, first? = some (.returned word last) ∧ ending = .returned word last := by
  cases first? with
  | none => cases ended
  | some first =>
    cases first with
    | next middle => exact .inl ⟨middle, rfl, ended⟩
    | returned word last =>
      cases ended
      exact .inr ⟨word, last, rfl, rfl⟩

theorem runs_of_run? (ended : run? callee context fuel task store = some ending) :
    Runs callee context task store ending := by
  induction fuel generalizing task store ending with
  | zero => cases ended
  | succ fuel ih =>
    cases task with
    | all statements =>
      cases statements with
      | nil =>
        cases ended
        exact .nothing
      | cons statement statements =>
        rcases exists_of_andThen ended with ⟨middle, first, later⟩ | ⟨word, last, first, rfl⟩
        · exact .goesOn (ih first) (ih later)
        · exact .stops (ih first)
    | one statement =>
      cases statement with
      | assign keyword target equals value semicolon =>
        cases ended
        exact .assign rfl
      | assignElement keyword array opening index closing equals value semicolon =>
        cases ended
        exact .assignElement rfl rfl
      | when keyword opening condition closing body =>
        simp only [run?] at ended
        split at ended
        · rename_i zero
          cases ended
          exact .whenFalse (Prod.ext zero rfl)
        · rename_i holds
          exact .whenTrue rfl holds (ih ended)
      | whenElse keyword opening condition closing body elseKeyword alternative =>
        simp only [run?] at ended
        split at ended
        · rename_i zero
          exact .elseFalse (Prod.ext zero rfl) (ih ended)
        · rename_i holds
          exact .elseTrue rfl holds (ih ended)
      | loop keyword opening condition closing body =>
        simp only [run?] at ended
        split at ended
        · rename_i zero
          cases ended
          exact .loopEnds (Prod.ext zero rfl)
        · rename_i holds
          rcases exists_of_andThen ended with ⟨round, inside, again⟩ | ⟨word, last, inside, rfl⟩
          · exact .loopAgain rfl holds (ih inside) (ih again)
          · exact .loopStops rfl holds (ih inside)
      | call keyword call semicolon =>
        cases ended
        exact .call
      | leave keyword semicolon =>
        cases ended
        exact .leave
      | leaveWith keyword value semicolon =>
        cases ended
        exact .leaveWith rfl

private theorem exists_enough {holds : Nat → Prop} (low : Nat)
    (above : ∀ fuel, low ≤ fuel → holds (fuel + 1)) : ∃ enough, ∀ fuel, enough ≤ fuel → holds fuel := by
  refine ⟨low + 1, ?_⟩
  intro fuel enough
  obtain ⟨less, rfl⟩ : ∃ less, fuel = less + 1 := ⟨fuel - 1, by omega⟩
  exact above less (by omega)

theorem Runs.exists_fuel (runs : Runs callee context task store ending) :
    ∃ enough, ∀ fuel, enough ≤ fuel → run? callee context fuel task store = some ending := by
  induction runs with
  | nothing => exact exists_enough 0 fun fuel _ => by simp [run?]
  | goesOn first later ihFirst ihLater =>
    obtain ⟨one, first⟩ := ihFirst
    obtain ⟨two, later⟩ := ihLater
    -- Both parts run with the fuel that one of them needs more of.
    apply exists_enough (max one two)
    intro fuel enough
    simp [run?, first fuel (by omega), later fuel (by omega), Ending.andThen]
  | stops first ih =>
    obtain ⟨enough, first⟩ := ih
    apply exists_enough enough
    intro fuel enough
    simp [run?, first fuel enough, Ending.andThen]
  | assign evaluated => exact exists_enough 0 fun fuel _ => by simp [run?, evaluated]
  | assignElement placed evaluated =>
    exact exists_enough 0 fun fuel _ => by simp [run?, placed, evaluated]
  | whenTrue tested holds inside ih =>
    obtain ⟨enough, inside⟩ := ih
    apply exists_enough enough
    intro fuel enough
    simp [run?, tested, holds, inside fuel enough]
  | whenFalse tested => exact exists_enough 0 fun fuel _ => by simp [run?, tested]
  | elseTrue tested holds inside ih =>
    obtain ⟨enough, inside⟩ := ih
    apply exists_enough enough
    intro fuel enough
    simp [run?, tested, holds, inside fuel enough]
  | elseFalse tested inside ih =>
    obtain ⟨enough, inside⟩ := ih
    apply exists_enough enough
    intro fuel enough
    simp [run?, tested, inside fuel enough]
  | loopEnds tested => exact exists_enough 0 fun fuel _ => by simp [run?, tested]
  | loopAgain tested holds inside again ihInside ihAgain =>
    obtain ⟨one, inside⟩ := ihInside
    obtain ⟨two, again⟩ := ihAgain
    apply exists_enough (max one two)
    intro fuel enough
    simp [run?, tested, holds, inside fuel (by omega), again fuel (by omega), Ending.andThen]
  | loopStops tested holds inside ih =>
    obtain ⟨enough, inside⟩ := ih
    apply exists_enough enough
    intro fuel enough
    simp [run?, tested, holds, inside fuel enough, Ending.andThen]
  | call => exact exists_enough 0 fun fuel _ => by simp [run?]
  | leave => exact exists_enough 0 fun fuel _ => by simp [run?]
  | leaveWith evaluated => exact exists_enough 0 fun fuel _ => by simp [run?, evaluated]

theorem runs_iff_run? : Runs callee context task store ending ↔
    ∃ fuel, run? callee context fuel task store = some ending := by
  constructor
  · intro runs
    obtain ⟨enough, ended⟩ := runs.exists_fuel
    exact ⟨enough, ended enough (Nat.le_refl enough)⟩
  · intro seen
    obtain ⟨fuel, ended⟩ := seen
    exact runs_of_run? ended

theorem Runs.deterministic {other : Ending} (runs : Runs callee context task store ending)
    (also : Runs callee context task store other) : ending = other := by
  obtain ⟨one, ended⟩ := runs.exists_fuel
  obtain ⟨two, endedToo⟩ := also.exists_fuel
  have same := (ended (max one two) (by omega)).symm.trans (endedToo (max one two) (by omega))
  exact Option.some.inj same

end Jack
