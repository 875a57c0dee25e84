import Jack.Parse.Statement
import Jack.Program.ClassDec

namespace Jack

def VariableKind.ofClassKeyword? : LexemeKind → Option VariableKind
  | .keyword .staticKw => some .static
  | .keyword .fieldKw => some .field
  | _ => none

def VariableKind.ofLocalKeyword? : LexemeKind → Option VariableKind
  | .keyword .varKw => some .localVar
  | _ => none

def isBuiltinType : LexemeKind → Bool
  | .keyword .intKw | .keyword .charKw | .keyword .booleanKw => true
  | _ => false

namespace ParseState

variable {ε : Type}

def typeName (s : ParseState ε) : Step TypeName s.remaining ε :=
  s.advance.andThen fun token s₁ h₁ =>
  if isBuiltinType token.kind then .done (.builtin token) s₁ h₁
  else if token.isIdentifier then .done (.className ⟨token, .className false⟩) s₁ h₁
  else .fail (unexpected "type" token) s₁

def returnType (s : ParseState ε) : Step TypeName s.remaining ε :=
  s.sight fun next =>
  if next.isKeyword .voidKw then
    s.advance.andThen fun token s₁ h₁ => .done (.builtin token) s₁ h₁
  else s.typeName

/-- Names are declared as they are read, so a name has to be declared before its uses. -/
def newVariable (s : ParseState ε) (type : String) (kind : VariableKind) : Step Name s.remaining ε :=
  s.expectIdentifier.andThen fun token s₁ h₁ =>
  .done ⟨token, .ofVariable kind true (s₁.names.count kind)⟩ (s₁.define token.text type kind)
    (by grind)

def newVariables (s : ParseState ε) (type : String) (kind : VariableKind)
    (found : List (Name × Token)) : Step (List (Name × Token)) s.remaining ε :=
  (s.newVariable type kind).andThen fun name s₁ h₁ =>
  s₁.advance.andThen fun separator s₂ h₂ =>
  if separator.isSymbol ',' then
    (s₂.newVariables type kind ((name, separator) :: found)).weaken (by omega)
  else if separator.isSymbol ';' then .done ((name, separator) :: found).reverse s₂ (by omega)
  else .fail (unexpected "`,` or `;`" separator) s₂
termination_by s.remaining

def variableDec (s : ParseState ε) (kind : VariableKind) : Step VariableDec s.remaining ε :=
  s.advance.andThen fun keyword s₁ h₁ =>
  s₁.typeName.andThen fun type s₂ h₂ =>
  (s₂.newVariables type.text kind []).andThen fun names s₃ h₃ =>
  .done ⟨keyword, type, names⟩ s₃ (remaining_lt_trans h₁ h₂ h₃)

def moreParameters (s : ParseState ε) (found : List Parameter) :
    Step (List Parameter) s.remaining ε :=
  s.typeName.andThen fun type s₁ h₁ =>
  (s₁.newVariable type.text .argument).andThen fun name s₂ h₂ =>
  s₂.sight fun next =>
  if next.isSymbol ',' then
    s₂.advance.andThen fun comma s₃ h₃ =>
    (s₃.moreParameters (⟨type, name, some comma⟩ :: found)).weaken (by omega)
  else .done (⟨type, name, none⟩ :: found).reverse s₂ (by omega)
termination_by s.remaining

/-- The parameters before a closing parenthesis, which is not read. -/
def parameters (s : ParseState ε) : Step (List Parameter) (s.remaining + 1) ε :=
  s.sight fun next =>
  if next.isSymbol ')' then .done [] s s.remaining_lt_succ
  else (s.moreParameters []).weaken s.remaining_le_succ

/-- The function header has to wait for the locals, which it counts. -/
def subroutineBody [Emitter ε] (s : ParseState ε) (kind : SubroutineKind)
    (functionName : String) : Step SubroutineBody s.remaining ε :=
  (s.expectSymbol '{').andThen fun opening s₁ h₁ =>
  (s₁.many VariableKind.ofLocalKeyword? variableDec []).andThen fun locals s₂ h₂ =>
  let header := .function functionName (s₂.names.count .localVar)
  let prologue := kind.prologue (s₂.names.count .field)
  (s₂.emit (header :: prologue)).statements.andThen fun statements s₃ h₃ =>
  (s₃.expectSymbol '}').andThen fun closing s₄ h₄ =>
  .done ⟨opening, locals, statements, closing⟩ s₄ (by grind)

/-- Begins a subroutine: no labels are used, and the only variable of its own is the object that a
method is called on. -/
def enterSubroutine (s : ParseState ε) (kind : SubroutineKind) : ParseState ε :=
  let fresh := s.startSubroutine.resetLabels
  match kind with
  | .method => fresh.define "this" s.className .argument
  | .ctor | .function => fresh

@[simp, grind =] theorem remaining_enterSubroutine (s : ParseState ε) (kind : SubroutineKind) :
    (s.enterSubroutine kind).remaining = s.remaining := by
  cases kind <;> rfl

def subroutine [Emitter ε] (s : ParseState ε) (kind : SubroutineKind) :
    Step Subroutine s.remaining ε :=
  s.advance.andThen fun keyword s₁ h₁ =>
  (s₁.enterSubroutine kind).returnType.andThen fun type s₂ h₂ =>
  s₂.expectIdentifier.andThen fun name s₃ h₃ =>
  (s₃.expectSymbol '(').andThen fun opening s₄ h₄ =>
  s₄.parameters.andThen fun parameters s₅ h₅ =>
  (s₅.expectSymbol ')').andThen fun closing s₆ h₆ =>
  (s₆.subroutineBody kind (s₃.className ++ "." ++ name.text)).andThen fun body s₇ h₇ =>
  .done ⟨keyword, kind, type, ⟨name, .subroutine true⟩, opening, parameters, closing, body⟩ s₇
    (by grind)

def classDec [Emitter ε] (s : ParseState ε) : Step ClassDec s.remaining ε :=
  (s.expectKeyword .classKw).andThen fun keyword s₁ h₁ =>
  s₁.expectIdentifier.andThen fun name s₂ h₂ =>
  ((s₂.setClassName name.text).expectSymbol '{').andThen fun opening s₃ h₃ =>
  (s₃.many VariableKind.ofClassKeyword? variableDec []).andThen fun declarations s₄ h₄ =>
  (s₄.many SubroutineKind.ofKind? subroutine []).andThen fun subroutines s₅ h₅ =>
  (s₅.expectSymbol '}').andThen fun closing s₆ h₆ =>
  .done ⟨keyword, ⟨name, .className true⟩, opening, declarations, subroutines, closing⟩ s₆
    (by grind)

def unit [Emitter ε] (s : ParseState ε) : Step ClassDec s.remaining ε :=
  s.classDec.andThen fun declaration s₁ h₁ =>
  match s₁.cursor.ahead with
  | [] => .done declaration s₁ h₁
  | token :: _ => .fail (unexpected "end of input" token) s₁

end ParseState

end Jack
