import Jack.Parse.ClassDec
import Jack.Proofs.Reading.Statement

namespace Jack

namespace Reading

open ParseState

variable {s : ParseState}

def TypeName.ofToken (token : Token) : TypeName :=
  if isBuiltinType token.kind then .builtin token else .className ⟨token, .className false⟩

def typeName : Reading TypeName := do
  let token ← accept (fun token => isBuiltinType token.kind || token.isIdentifier) "type"
  pure (TypeName.ofToken token)

def returnType : Reading TypeName := do
  let next ← look
  if next.isKeyword .voidKw then
    let token ← keyword .voidKw
    pure (.builtin token)
  else typeName

def newVariable (type : String) (kind : VariableKind) : Reading Name := do
  let token ← identifier
  let count ← ask (·.names.count kind)
  change (·.define token.text type kind)
  pure ⟨token, .ofVariable kind true count⟩

def newVariables (type : String) (kind : VariableKind) (found : List (Name × Token)) :
    Reading (List (Name × Token)) := fun s => (s.newVariables type kind found).reply

def variableDec (kind : VariableKind) (word : Token) : Reading VariableDec := do
  let type ← typeName
  let names ← newVariables type.text kind []
  pure ⟨word, type, names⟩

def moreParameters (found : List Parameter) : Reading (List Parameter) :=
  fun s => (s.moreParameters found).reply

def parameters : Reading (List Parameter) := do
  let next ← look
  if next.isSymbol ')' then pure [] else moreParameters []

def items {α κ : Type} (select : LexemeKind → Option κ)
    (item : (s : ParseState) → κ → Step α s.remaining) (found : List α) : Reading (List α) :=
  fun s => (many select item s found).reply

def variableDecs (select : LexemeKind → Option VariableKind) :
    List VariableDec → Reading (List VariableDec) :=
  items select ParseState.variableDec

def subroutineBody (kind : SubroutineKind) (functionName : String) : Reading SubroutineBody := do
  let opening ← symbol '{'
  let locals ← variableDecs VariableKind.ofLocalKeyword? []
  let localCount ← ask (·.names.count .localVar)
  let fieldCount ← ask (·.names.count .field)
  emit (.function functionName localCount :: kind.prologue fieldCount)
  let statements ← moreStatements []
  let closing ← symbol '}'
  pure ⟨opening, locals, statements, closing⟩

def subroutine (kind : SubroutineKind) (word : Token) : Reading Subroutine := do
  change (·.enterSubroutine kind)
  let type ← returnType
  let name ← identifier
  let className ← ask (·.className)
  let opening ← symbol '('
  let parameters ← parameters
  let closing ← symbol ')'
  let body ← subroutineBody kind (className ++ "." ++ name.text)
  pure ⟨word, kind, type, ⟨name, .subroutine true⟩, opening, parameters, closing, body⟩

def subroutines : List Subroutine → Reading (List Subroutine) :=
  items SubroutineKind.ofKind? ParseState.subroutine

def classDec : Reading ClassDec := do
  let word ← keyword .classKw
  let name ← identifier
  change (·.setClassName name.text)
  let opening ← symbol '{'
  let declarations ← variableDecs VariableKind.ofClassKeyword? []
  let subroutines ← subroutines []
  let closing ← symbol '}'
  pure ⟨word, ⟨name, .className true⟩, opening, declarations, subroutines, closing⟩

theorem reply_typeName (s : ParseState) : s.typeName.reply = typeName s := by
  unfold ParseState.typeName typeName
  apply reply_advance
  · intro token rest fits _ passes
    by_cases builtin : isBuiltinType token.kind
    · rw [if_pos builtin, TypeName.ofToken, if_pos builtin]
      rfl
    · have isName : token.isIdentifier := by simpa [builtin] using passes
      rw [if_neg builtin, if_pos isName, TypeName.ofToken, if_neg builtin]
      rfl
  · intro token rest fits _ fails
    obtain ⟨builtin, isName⟩ := not_or.mp (mt (Bool.or_eq_true _ _).mpr fails)
    rw [if_neg builtin, if_neg isName]
    rfl

theorem reply_returnType (s : ParseState) : s.returnType.reply = returnType s := by
  unfold ParseState.returnType returnType
  apply reply_sight
  intro next ahead seen
  by_cases isVoid : next.isKeyword .voidKw
  · rw [if_pos isVoid, if_pos isVoid]
    apply reply_advance_of_sight seen isVoid
    intro fits
    rfl
  · rw [if_neg isVoid, if_neg isVoid]
    exact reply_typeName s

theorem reply_newVariable (s : ParseState) (type : String) (kind : VariableKind) :
    (s.newVariable type kind).reply = newVariable type kind s :=
  reply_andThen (reply_expectIdentifier s) fun _ _ _ _ => rfl

theorem newVariables_eq (type : String) (kind : VariableKind) (found : List (Name × Token)) :
    newVariables type kind found = (do
      let name ← newVariable type kind
      let separator ←
        accept (fun token => token.isSymbol ',' || token.isSymbol ';') "`,` or `;`"
      if separator.isSymbol ',' then newVariables type kind ((name, separator) :: found)
      else pure ((name, separator) :: found).reverse) := by
  funext s
  change (s.newVariables type kind found).reply = _
  rw [ParseState.newVariables]
  apply reply_andThen (reply_newVariable _ _ _)
  intro name t fits _
  apply reply_advance
  · intro separator rest fits _ passes
    by_cases more : separator.isSymbol ','
    · rw [if_pos more, if_pos more]
      rfl
    · have ends : separator.isSymbol ';' := by simpa [more] using passes
      rw [if_neg more, if_neg more, if_pos ends]
      rfl
  · intro separator rest fits _ fails
    obtain ⟨more, ends⟩ := not_or.mp (mt (Bool.or_eq_true _ _).mpr fails)
    rw [if_neg more, if_neg ends]
    rfl

theorem moreParameters_eq (found : List Parameter) :
    moreParameters found = (do
      let type ← typeName
      let name ← newVariable type.text .argument
      let next ← look
      if next.isSymbol ',' then
        let comma ← symbol ','
        moreParameters (⟨type, name, some comma⟩ :: found)
      else pure (⟨type, name, none⟩ :: found).reverse) := by
  funext s
  change (s.moreParameters found).reply = _
  rw [ParseState.moreParameters]
  apply reply_andThen (reply_typeName _)
  intro type t fits _
  apply reply_andThen (reply_newVariable _ _ _)
  intro name t fits _
  apply reply_sight
  intro next ahead seen
  by_cases more : next.isSymbol ','
  · rw [if_pos more, if_pos more]
    apply reply_advance_of_sight seen more
    intro fits
    rfl
  · rw [if_neg more, if_neg more]
    rfl

theorem reply_parameters (s : ParseState) : s.parameters.reply = parameters s := by
  unfold ParseState.parameters parameters
  apply reply_sight
  intro next ahead seen
  by_cases closes : next.isSymbol ')'
  · rw [if_pos closes, if_pos closes]
    rfl
  · rw [if_neg closes, if_neg closes]
    rfl

theorem items_eq {α κ : Type} [DecidableEq κ] {select : LexemeKind → Option κ}
    {step : (s : ParseState) → κ → Step α s.remaining} {item : κ → Token → Reading α}
    (same : ∀ s choice token rest, s.cursor.ahead = token :: rest →
      (step s choice).reply = item choice token (after s token rest)) (found : List α) :
    items select step found = (do
      let next ← look
      match select next.kind with
      | some choice =>
        let token ← accept (select ·.kind == some choice) "item"
        let value ← item choice token
        items select step (value :: found)
      | none => pure found.reverse) := by
  funext s
  change (many select step s found).reply = _
  rw [many]
  apply reply_sight
  intro next ahead seen
  cases selected : select next.kind with
  | none => rfl
  | some choice =>
    have accepted : accept (select ·.kind == some choice) "item" s =
        .ok next (after s next ahead) := by
      rw [accept]
      simp only [seen, selected, beq_self_eq_true, if_true]
    change _ = (_ >>= _ : Reading (List α)) s
    rw [bind_apply, accepted]
    exact reply_andThen (same s choice next ahead seen) fun _ _ _ _ => rfl

theorem reply_variableDec {word : Token} {rest : List Token} (ahead : s.cursor.ahead = word :: rest)
    (kind : VariableKind) :
    (s.variableDec kind).reply = variableDec kind word (after s word rest) := by
  have accepted : accept (fun _ => true) "" s = .ok word (after s word rest) := by
    rw [accept]
    simp only [ahead, if_true]
  have whole : (s.variableDec kind).reply = (accept (fun _ => true) "" >>= variableDec kind) s := by
    apply reply_advance_of_sight ahead rfl
    intro fits
    apply reply_andThen (reply_typeName _)
    intro type t fits _
    exact reply_andThen rfl fun _ _ _ _ => rfl
  rw [whole, bind_apply, accepted]

theorem reply_subroutineBody (s : ParseState) (kind : SubroutineKind) (functionName : String) :
    (s.subroutineBody kind functionName).reply = subroutineBody kind functionName s := by
  unfold ParseState.subroutineBody subroutineBody
  apply reply_andThen (reply_expectSymbol _ _)
  intro opening t fits _
  apply reply_andThen rfl
  intro locals t fits _
  apply reply_andThen (by rw [ParseState.statements]; rfl)
  intro statements t fits _
  apply reply_andThen (reply_expectSymbol _ _)
  intro closing t fits _
  rfl

theorem reply_subroutine {word : Token} {rest : List Token} (ahead : s.cursor.ahead = word :: rest)
    (kind : SubroutineKind) :
    (s.subroutine kind).reply = subroutine kind word (after s word rest) := by
  have accepted : accept (fun _ => true) "" s = .ok word (after s word rest) := by
    rw [accept]
    simp only [ahead, if_true]
  have whole : (s.subroutine kind).reply = (accept (fun _ => true) "" >>= subroutine kind) s := by
    apply reply_advance_of_sight ahead rfl
    intro fits
    have returns : ((after s word rest).enterSubroutine kind).returnType.reply = _ :=
      reply_returnType _
    apply reply_andThen returns
    intro type t fits _
    apply reply_andThen (reply_expectIdentifier _)
    intro name t fits _
    apply reply_andThen (reply_expectSymbol _ _)
    intro opening t' fits _
    apply reply_andThen (reply_parameters _)
    intro parameters t' fits _
    apply reply_andThen (reply_expectSymbol _ _)
    intro closing t' fits _
    exact reply_andThen (reply_subroutineBody _ _ _) fun _ _ _ _ => rfl
  rw [whole, bind_apply, accepted]

theorem reply_classDec (s : ParseState) : s.classDec.reply = classDec s := by
  unfold ParseState.classDec classDec
  apply reply_andThen (reply_expectKeyword _ _)
  intro word t fits _
  apply reply_andThen (reply_expectIdentifier _)
  intro name t fits _
  apply reply_andThen (reply_expectSymbol _ _)
  intro opening t fits _
  apply reply_andThen rfl
  intro declarations t fits _
  apply reply_andThen rfl
  intro subroutines t fits _
  apply reply_andThen (reply_expectSymbol _ _)
  intro closing t fits _
  rfl

end Reading

end Jack
