import Jack.Proofs.Reading.ClassDec
import Jack.Proofs.Viability.Expression

namespace Jack

open Grammar Marked Reading

namespace Marked

def names (word : List Marked) : List String :=
  (marks word).map (·.text)

variable (token : Token) (word later : List Marked)

@[simp] theorem names_nil : names [] = [] := rfl

@[simp] theorem names_unmarked : names ((token, false) :: word) = names word := rfl

@[simp] theorem names_marked : names ((token, true) :: word) = token.text :: names word := rfl

@[simp] theorem names_append : names (word ++ later) = names word ++ names later := by
  simp [names]

end Marked

namespace Fragment

/-- A production whose words have a mark at each name that they declare. -/
def declaring (derives : List Token → List String → Prop)
    (inhabited : ∃ word, derives (tokens word) (names word)) : Fragment where
  words := {word | derives (tokens word) (names word)}
  inhabited := inhabited

variable {derives : List Token → List String → Prop} {parts : List Fragment}
  {inhabited : ∃ word, derives (tokens word) (names word)}

theorem forall_all_declaring {property : List Marked → Prop} :
    (∀ word ∈ all (declaring derives inhabited :: parts), property word) ↔
      ∀ first, derives (tokens first) (names first) →
        ∀ word ∈ all parts, property (first ++ word) :=
  forall_all_cons

theorem mem_all_declaring {word : List Marked} :
    word ∈ all [declaring derives inhabited] ↔ derives (tokens word) (names word) :=
  mem_all_single

abbrev type : Fragment :=
  one (fun token => isBuiltinType token.kind || token.isIdentifier) false (by
    obtain ⟨token, isName⟩ := exists_identifier
    exact ⟨token, by simp [isName]⟩)

theorem isType_of_test {token : Token} (passes : isBuiltinType token.kind || token.isIdentifier) :
    IsType token := by
  rcases Bool.or_eq_true_iff.mp passes with builtin | isName
  · exact isType_of_builtin builtin
  · exact .inr (.inr (.inr isName))

abbrev returnType : Fragment :=
  one (fun token => token.isKeyword .voidKw || (isBuiltinType token.kind || token.isIdentifier))
    false (by
    obtain ⟨token, isVoid⟩ := exists_keyword .voidKw
    exact ⟨token, by simp [isVoid]⟩)

theorem isReturn_of_test {token : Token}
    (passes : token.isKeyword .voidKw || (isBuiltinType token.kind || token.isIdentifier)) :
    token.isKeyword .voidKw ∨ IsType token :=
  (Bool.or_eq_true_iff.mp passes).imp_right isType_of_test

abbrev declaredNames : Fragment :=
  declaring DerivesNames (by
    obtain ⟨name, isName⟩ := exists_identifier
    obtain ⟨semicolon, ends⟩ := exists_symbol ';'
    exact ⟨[(name, true), (semicolon, false)], .last isName ends⟩)

abbrev parameters : Fragment :=
  declaring DerivesParameters (by
    obtain ⟨name, isName⟩ := exists_identifier
    exact ⟨[(name, false), (name, true)], .last (.inr (.inr (.inr isName))) isName⟩)

abbrev parameterList : Fragment :=
  declaring DerivesParameterList ⟨[], .none⟩

abbrev repeated (derives : List Token → List String → Prop) : Fragment :=
  declaring (Repeated derives) ⟨[], .none⟩

end Fragment

namespace Course

open Fragment

variable {course : Course} {n : Nat} {kind : VariableKind}

def Declares (course : Course) (kind : VariableKind) : Prop :=
  ∀ marked table name type, course.holds marked table →
    course.holds (marked ++ [name]) (table.define name.text type kind)

theorem Keeps.declaring {α : Type} {derives : List Token → List String → Prop}
    {inhabited : ∃ word, derives (tokens word) (names word)} {program : Reading α} (parts : List Fragment)
    (all : ∀ word ∈ Fragment.all parts, derives (tokens word) (names word))
    (keeps : course.Keeps n parts program) : course.Keeps n [.declaring derives inhabited] program :=
  .as parts (fun word member => mem_all_single.mpr (all word member)) keeps

theorem typeName_keeps : course.Keeps n [.type] typeName := by
  refine Keeps.bind (Keeps.tested ?_ (by decide)) fun _ => .pure _
  exact fun token passes => ⟨token, passes, rfl⟩

theorem returnType_keeps : course.Keeps n [.returnType] Reading.returnType := by
  refine .look fun next => ?_
  split
  · refine .as [.keyword .voidKw] ?_ ((Keeps.keyword .voidKw).bind fun _ => .pure _)
    rw [forall_all_one]
    exact fun token isVoid word member => cons_mem_all_one (by simp [isVoid]) member
  · refine .as [.type] ?_ typeName_keeps
    rw [forall_all_one]
    exact fun token passes word member => cons_mem_all_one (by simp [passes]) member

theorem newVariable_keeps (declares : course.Declares kind) (type : String) :
    course.Keeps n [.variableName] (newVariable type kind) := by
  apply Keeps.mono _ (Nat.le_succ n)
  apply Keeps.acceptEach (by decide)
  intro token others later s isName awaits few
  refine ⟨?_, Nat.le_refl _⟩
  apply awaits.step (Awaits.within_of_mem ⟨token, isName, rfl⟩)
  · exact fun marked holds => declares marked _ token type holds
  · rfl

theorem newVariables_keeps (declares : course.Declares kind) (type : String) (n : Nat)
    (found : List (Name × Token)) :
    course.Keeps n [.declaredNames] (newVariables type kind found) := by
  induction n generalizing found with
  | zero => exact .zero _
  | succ n ih =>
    rw [newVariables_eq]
    refine .declaring [.variableName, .either [.symbol ',', .declaredNames] [.symbol ';']] ?_ ?_
    · simp only [forall_all_one, forall_all_either, forall_all_nil, mem_all_declaring]
      intro name isName
      constructor
      · intro comma separates later rest
        simpa using DerivesNames.more isName separates rest
      · intro semicolon ends
        exact .last isName ends
    · refine (newVariable_keeps declares type).bind fun name => ?_
      apply Keeps.acceptEach (by decide)
      intro separator others later s passes awaits few
      split
      · rename_i separates
        have more : course.Awaits ([.declaredNames] ++ later) (after s separator others) := by
          apply awaits.begin
          exact fun word member => mem_all_single.mpr (.inl (cons_mem_all_one separates member))
        exact (ih _).justified few more
      · rename_i noMore
        have ends : separator.isSymbol ';' := by simpa [noMore] using passes
        have last : course.Awaits ([] ++ later) (after s separator others) := by
          apply awaits.begin
          exact fun word member => mem_all_single.mpr (.inr (cons_mem_all_one ends member))
        exact (Keeps.pure _).justified few last

theorem variableDec_keeps (declares : course.Declares kind) (word : Token) :
    course.Keeps n [.type, .declaredNames] (variableDec kind word) := by
  refine typeName_keeps.bind fun type => ?_
  exact (newVariables_keeps declares _ n []).bind fun names => .pure _

theorem moreParameters_keeps (declares : course.Declares .argument) (n : Nat)
    (found : List Parameter) : course.Keeps n [.parameters] (moreParameters found) := by
  induction n generalizing found with
  | zero => exact .zero _
  | succ n ih =>
    rw [moreParameters_eq]
    refine .declaring [.type, .variableName, .either [.symbol ',', .parameters] []] ?_ ?_
    · simp only [forall_all_one, forall_all_either, forall_all_nil, mem_all_declaring]
      intro type passes name isName
      have isType := isType_of_test passes
      constructor
      · intro comma separates later rest
        simpa using DerivesParameters.more isType isName separates rest
      · exact .last isType isName
    · refine typeName_keeps.bind fun type => ?_
      refine (newVariable_keeps declares _).bind fun name => ?_
      refine .look fun next => ?_
      split
      · apply Keeps.left
        refine .accept (fun comma separates => ⟨comma, separates, rfl⟩) (Keeps.inBackticks_ne _) ?_
        exact fun comma _ => ih _
      · exact (Keeps.pure _).right

theorem parameters_keeps (declares : course.Declares .argument) :
    course.Keeps n [.parameterList] Reading.parameters := by
  refine .look fun next => ?_
  split
  · refine .declaring [] ?_ (.pure _)
    rw [forall_all_nil]
    exact .none
  · refine .declaring [.parameters] ?_ (moreParameters_keeps declares n _)
    exact fun word member => .some (mem_all_declaring.mp member)

theorem variableDecs_keeps {derives : List Token → List String → Prop}
    {select : LexemeKind → Option VariableKind}
    (forms : ∀ {keyword type : Token} {later : List Token} {declared : List String},
      (select keyword.kind).isSome → IsType type → DerivesNames later declared →
      derives (keyword :: type :: later) declared)
    (declares : ∀ word kind, select word = some kind → course.Declares kind) (n : Nat)
    (found : List VariableDec) :
    course.Keeps n [.repeated derives] (variableDecs select found) := by
  induction n generalizing found with
  | zero => exact .zero _
  | succ n ih =>
    rw [variableDecs, items_eq fun _ kind _ _ ahead => reply_variableDec ahead kind]
    refine .look fun next => ?_
    split
    · rename_i kind selected
      refine .declaring [.one (fun token => (select token.kind).isSome) false
        ⟨next, by simp [selected]⟩, .type, .declaredNames, .repeated derives] ?_ ?_
      · simp only [forall_all_one, forall_all_declaring, forall_all_nil]
        intro keyword begins type passes later names rest others
        have first := forms begins (isType_of_test passes) names
        simpa using Repeated.next first others
      · refine .accept ?_ (by decide) fun token _ => ?_
        · exact fun token passes => ⟨token, by simp [eq_of_beq passes], rfl⟩
        · exact (variableDec_keeps (declares _ _ selected) token).bind fun value => ih _
    · refine .declaring [] ?_ (.pure _)
      rw [forall_all_nil]
      exact .none

end Course

end Jack
