import Jack.Proofs.Grammar.Soundness
import Jack.Proofs.Reading.Expression
import Jack.Proofs.Viability.Course

namespace Jack

open Grammar Marked Reading

namespace Fragment

def operator : Fragment :=
  .one (fun token => (BinaryOperator.ofKind? token.kind).isSome) false (by
    obtain ⟨token, isPlus⟩ := exists_symbol '+'
    exact ⟨token, by rw [Token.kind_of_isSymbol isPlus]; rfl⟩)

def callTail : Fragment :=
  .either [.symbol '.', .name, .symbol '(', .phrase .expressionList, .symbol ')']
    [.symbol '(', .phrase .expressionList, .symbol ')']

theorem derives_call {token : Token} (isName : token.isIdentifier) :
    ∀ word ∈ all [callTail], Derives .call (tokens ((token, false) :: word))
      (marks ((token, false) :: word)) := by
  rw [callTail, forall_all_either]
  simp only [forall_all_phrase, forall_all_nil, forall_all_one]
  constructor
  · intro dot dots name isName' opening opens list inside closing closes
    simpa using Derives.qualifiedCall isName dots isName' opens inside closes
  · intro opening opens list inside closing closes
    simpa using Derives.plainCall isName opens inside closes

end Fragment

namespace Course

open Fragment

variable {site : Site} {n : Nat}

section

variable (terms : site.statements.Keeps n [.phrase .term] term)
include terms

theorem operations_keeps (left : Expression) :
    site.statements.Keeps n [.phrase .operations] (operations left) := by
  induction n generalizing left with
  | zero => exact .zero _
  | succ n ih =>
    have fewer := terms.mono (Nat.le_succ n)
    rw [operations_eq]
    refine .look fun next => ?_
    split
    · rename_i operator _
      refine .phrase [.operator, .phrase .term, .phrase .operations] ?_ ?_
      · simp only [forall_all_phrase, forall_all_nil, forall_all_one, Fragment.operator]
        intro operator isOperator operand inside later rest
        obtain ⟨value, same⟩ := Option.isSome_iff_exists.mp isOperator
        obtain ⟨mark, isMark, isSymbol⟩ := isSymbol_of_binary same
        simpa using Derives.operation isMark isSymbol inside rest
      · refine .accept ?_ (by decide) fun token _ => ?_
        · intro token passes
          exact ⟨token, by simp [eq_of_beq passes], rfl⟩
        · refine fewer.bind fun right => ?_
          exact (Keeps.emit _).bind fun _ => ih fewer _
    · refine .phrase [] ?_ (.pure left)
      rw [forall_all_nil]
      exact .noOperation

theorem expression_keeps : site.statements.Keeps n [.phrase .expression] expression := by
  rw [expression_eq]
  refine .phrase [.phrase .term, .phrase .operations] ?_ ?_
  · simp only [forall_all_phrase, forall_all_nil]
    intro first derived later rest
    simpa using Derives.expression derived rest
  · exact terms.bind fun first => operations_keeps terms _

theorem moreArguments_keeps (before : Arguments) :
    site.statements.Keeps n [.phrase .moreExpressions] (moreArguments before) := by
  induction n generalizing before with
  | zero => exact .zero _
  | succ n ih =>
    have fewer := terms.mono (Nat.le_succ n)
    rw [moreArguments_eq]
    refine .look fun next => ?_
    split
    · refine .phrase [.symbol ',', .phrase .expression, .phrase .moreExpressions] ?_ ?_
      · simp only [forall_all_phrase, forall_all_nil, forall_all_one]
        intro comma separates value derived later rest
        simpa using Derives.more separates derived rest
      · refine .accept (fun comma separates => ⟨comma, separates, rfl⟩) (Keeps.inBackticks_ne _) ?_
        intro comma _
        exact (expression_keeps fewer).bind fun value => ih fewer _
    · refine .phrase [] ?_ (.pure before)
      rw [forall_all_nil]
      exact .noMore

theorem arguments_keeps :
    site.statements.Keeps n [.phrase .expressionList] arguments := by
  rw [arguments_eq]
  refine .look fun next => ?_
  split
  · refine .phrase [] ?_ (.pure _)
    rw [forall_all_nil]
    exact .noExpressions
  · refine .phrase [.phrase .expression, .phrase .moreExpressions] ?_ ?_
    · simp only [forall_all_phrase, forall_all_nil]
      intro first derived later rest
      simpa using Derives.expressions derived rest
    · exact (expression_keeps terms).bind fun value => moreArguments_keeps terms _

theorem qualifiedCall_keeps (qualifier : Name) (target : String) (implicit : Nat) :
    site.statements.Keeps n
      [.symbol '.', .name, .symbol '(', .phrase .expressionList, .symbol ')']
      (qualifiedCall qualifier target implicit) := by
  refine (Keeps.symbol '.').bind fun dot => ?_
  refine Keeps.name.bind fun subroutine => ?_
  refine (Keeps.symbol '(').bind fun opening => ?_
  refine (arguments_keeps terms).bind fun arguments => ?_
  refine (Keeps.symbol ')').bind fun closing => ?_
  exact (Keeps.emit _).bind fun _ => .pure _

theorem callAfter_keeps (first : Token) :
    site.statements.Keeps n [.callTail] (callAfter first) := by
  refine .look fun next => ?_
  split
  · apply Keeps.left
    refine (Keeps.ask _).bind fun entry? => ?_
    split
    · exact qualifiedCall_keeps terms _ _ _
    · exact (Keeps.emit _).bind fun _ => qualifiedCall_keeps terms _ _ _
  · apply Keeps.right
    refine (Keeps.emit _).bind fun _ => ?_
    refine (Keeps.symbol '(').bind fun opening => ?_
    refine (arguments_keeps terms).bind fun arguments => ?_
    refine (Keeps.symbol ')').bind fun closing => ?_
    refine (Keeps.ask _).bind fun className => ?_
    exact (Keeps.emit _).bind fun _ => .pure _

theorem call_keeps : site.statements.Keeps n [.phrase .call] call := by
  rw [call_eq]
  refine .phrase [.name, .callTail] ?_ ?_
  · rw [forall_all_one]
    exact fun token isName => derives_call isName
  · exact Keeps.name.bind fun first => callAfter_keeps terms first

theorem justified_termAfter {s : ParseState} {later : List Fragment} {token : Token} {rest : List Token}
    (awaits : site.statements.Awaits ([.phrase .term] ++ later) s)
    (isName : token.isIdentifier) (few : (after s token rest).remaining < n) :
    Justified (after s token rest).remaining (site.statements.Awaits later)
      (termAfter token (after s token rest)) := by
  -- The name alone could be all of the term, so what was read is viable whatever comes next.
  have use : site.statements.Awaits ([.variableName] ++ later) s := by
    apply awaits.as
    simp only [forall_all_one, forall_all_nil, mem_all_phrase]
    exact fun name isName => .use isName
  have left : site.statements.Awaits ([] ++ later) (after s token rest) := use.variable isName
  apply Justified.look left.viable
  intro next
  split
  · have element : site.statements.Awaits
        ([.variableName, .symbol '[', .phrase .expression, .symbol ']'] ++ later) s := by
      apply awaits.as
      simp only [forall_all_one, forall_all_phrase, forall_all_nil, mem_all_phrase]
      intro array isName opening opens index inside closing closes
      simpa using Derives.element isName opens inside closes
    apply justified_resolve element isName
    intro entry
    refine Keeps.justified ?_ few (element.variable isName)
    refine (Keeps.emit _).bind fun _ => ?_
    refine (Keeps.symbol '[').bind fun opening => ?_
    refine (expression_keeps terms).bind fun index => ?_
    refine (Keeps.symbol ']').bind fun closing => ?_
    exact (Keeps.emit _).bind fun _ => .pure _
  · split
    · have called : site.statements.Awaits ([.callTail] ++ later)
          (after s token rest) := by
        apply awaits.begin
        simp only [mem_all_phrase]
        exact fun word member => .called (derives_call isName word member)
      refine Keeps.justified ?_ few called
      exact (callAfter_keeps terms token).bind fun call => .pure _
    · apply justified_resolve use isName
      intro entry
      refine Keeps.justified ?_ few left
      exact (Keeps.emit _).bind fun _ => .pure _

end

theorem term_keeps (n : Nat) : site.statements.Keeps n [.phrase .term] term := by
  induction n with
  | zero => exact .zero _
  | succ n ih =>
    rw [term_eq]
    apply Keeps.acceptEach (by decide)
    intro token rest later s begins awaits few
    cases start : TermStart.ofKind? token.kind with
    | none => simp [start] at begins
    | some first =>
      cases first with
      | constant value =>
        have single : site.statements.Awaits ([] ++ later) (after s token rest) := by
          apply awaits.begin
          rw [forall_all_nil, mem_all_phrase]
          exact derives_constant (ParseState.constant_of_ofKind? start)
        refine Keeps.justified ?_ few single
        exact (Keeps.emit _).bind fun _ => .pure _
      | group =>
        have opens := ParseState.opens_of_ofKind? start
        have group : site.statements.Awaits
            ([.phrase .expression, .symbol ')'] ++ later) (after s token rest) := by
          apply awaits.begin
          simp only [forall_all_one, forall_all_phrase, forall_all_nil, mem_all_phrase]
          intro inner derived closing closes
          simpa using Derives.group opens derived closes
        refine Keeps.justified ?_ few group
        refine (expression_keeps ih).bind fun inner => ?_
        exact (Keeps.symbol ')').bind fun closing => .pure _
      | unary operator =>
        have unary : site.statements.Awaits
            ([.phrase .term] ++ later) (after s token rest) := by
          apply awaits.begin
          simp only [mem_all_phrase]
          exact fun operand derived => .unary (isSymbol_of_unary start) derived
        refine Keeps.justified ?_ few unary
        refine ih.bind fun operand => ?_
        exact (Keeps.emit _).bind fun _ => .pure _
      | name => exact justified_termAfter ih awaits (ParseState.identifier_of_ofKind? start) few

end Course

end Jack
