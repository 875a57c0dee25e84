import Jack.Parse.Reader
import Jack.Proofs.Parse.Transfer

namespace Jack

variable {α κ ε δ : Type}

def Reply.state : Reply α ε → ParseState ε
  | .ok _ t => t
  | .error _ t => t

theorem Reply.state_map (f : ε → δ) (reply : Reply α ε) :
    Reply.state (Reply.map f reply) = (Reply.state reply).map f := by
  cases reply <;> rfl

variable {f : ε → δ}

theorem ParseState.maps_selected {select : LexemeKind → Option κ} (expected : String)
    {item : (s : ParseState ε) → κ → Step α s.remaining ε}
    {item' : (s : ParseState δ) → κ → Step α s.remaining δ}
    (each : ∀ s choice, (item s choice).Maps f (item' (s.map f) choice)) (s : ParseState ε) :
    (s.selected select expected item).Maps f ((s.map f).selected select expected item') := by
  apply maps_sight
  intro next
  cases select next.kind with
  | some choice => exact each s choice
  | none =>
    apply Step.Maps.andThen (maps_advance s)
    intro token s₁ h₁ _
    exact Step.maps_fail _ _

variable [Emitter ε] [Emitter δ]

theorem BodyReader.read_map (along : Emitter.Along f) (reader : BodyReader α) (s : ParseState ε) :
    reader.read (s.map f) = Reply.map f (reader.read s) := by
  cases reader with
  | term => exact ParseState.maps_term along s
  | nameTerm token => exact ParseState.maps_nameTerm along s token
  | expression => exact ParseState.maps_expression along s
  | call => exact ParseState.maps_call along s
  | arguments => exact ParseState.maps_arguments along s
  | statement kind => exact ParseState.maps_statementOf along s kind
  | statements => exact ParseState.maps_statements along s
  | block => exact ParseState.maps_block along s

theorem DeclarationReader.read_map (along : Emitter.Along f) (reader : DeclarationReader α)
    (s : ParseState ε) : reader.read (s.map f) = Reply.map f (reader.read s) := by
  cases reader with
  | typeName => exact ParseState.maps_typeName s
  | names type kind => exact ParseState.maps_newVariables s type kind []
  | classVarDec => exact ParseState.maps_selected _ ParseState.maps_variableDec s
  | varDec => exact ParseState.maps_selected _ ParseState.maps_variableDec s
  | parameters => exact ParseState.maps_parameters s
  | subroutineBody kind functionName => exact ParseState.maps_subroutineBody along s kind functionName
  | subroutineDec => exact ParseState.maps_selected _ (ParseState.maps_subroutine along) s
  | classDec => exact ParseState.maps_classDec along s
  | unit => exact ParseState.maps_unit along s

namespace ParseState

/-- The state with an empty record in the place of its emitter. -/
def recorded (s : ParseState ε) : ParseState :=
  { s with emitted := [] }

def replay (s : ParseState ε) (record : List Instruction) : ε :=
  Emitter.takeAll s.emitted record.reverse

theorem along_replay (s : ParseState ε) : Emitter.Along s.replay :=
  Emitter.along_replay s.emitted

end ParseState

theorem BodyReader.read_eq (reader : BodyReader α) (s : ParseState ε) :
    reader.read s = Reply.map s.replay (reader.read s.recorded) :=
  reader.read_map s.along_replay s.recorded

theorem DeclarationReader.read_eq (reader : DeclarationReader α) (s : ParseState ε) :
    reader.read s = Reply.map s.replay (reader.read s.recorded) :=
  reader.read_map s.along_replay s.recorded

end Jack
