import Mathlib.Computability.Language
import Jack.Proofs.Grammar.Basic
import Jack.Tree.Basic

namespace Jack

open Computability

abbrev Shape := Language Node

namespace Shape

def plain (fits : LexemeKind → Prop) : Shape :=
  {nodes | ∃ token : Token, fits token.kind ∧ nodes = [.token token]}

def keyword (word : Keyword) : Shape :=
  plain (· = .keyword word)

def symbol (mark : Char) : Shape :=
  plain (· = .symbol mark)

def integer : Shape :=
  plain fun kind => ∃ value, kind = .integer value

def string : Shape :=
  plain fun kind => ∃ contents, kind = .string contents

def constant : Shape :=
  [integer, string, (Grammar.constantWords.map keyword).sum].sum

def operator : Shape :=
  (Grammar.operatorMarks.map symbol).sum

def name : Shape :=
  {nodes | ∃ (token : Token) (resolution : Resolution),
    token.isIdentifier ∧ nodes = [.name token resolution]}

def branch (production : Production) : Shape :=
  {nodes | ∃ children, nodes = [.branch production children]}

def perhaps (shapes : List Shape) : Shape :=
  1 + shapes.prod

def repeated (shapes : List Shape) : Shape :=
  shapes.prod∗

def typeName : Shape :=
  [keyword .intKw, keyword .charKw, keyword .booleanKw, name].sum

def index : List Shape :=
  [symbol '[', branch .expression, symbol ']']

def operation : List Shape :=
  [operator, branch .term]

def furtherArgument : List Shape :=
  [symbol ',', branch .expression]

def furtherParameter : List Shape :=
  [symbol ',', typeName, name]

def furtherName : List Shape :=
  [symbol ',', name]

def declaredNames : List Shape :=
  [typeName, name, repeated furtherName, symbol ';']

def call : List Shape :=
  [perhaps [name, symbol '.'], name, symbol '(', branch .expressionList, symbol ')']

def parenthesized : List Shape :=
  [symbol '(', branch .expression, symbol ')']

def statement : Shape :=
  [branch .letStatement, branch .ifStatement, branch .whileStatement, branch .doStatement,
    branch .returnStatement].sum

def block : List Shape :=
  [symbol '{', branch .statements, symbol '}']

def alternative : List Shape :=
  keyword .elseKw :: block

end Shape

open Shape

/-- The nodes that a branch of a production has. Calls and blocks have no branch of their own, so their
nodes stand among those of the branch around them. -/
def Production.shape : Production → Shape
  | classDec =>
    [keyword .classKw, name, symbol '{', repeated [branch classVarDec],
      repeated [branch subroutineDec], symbol '}'].prod
  | classVarDec => ([keyword .staticKw, keyword .fieldKw].sum :: declaredNames).prod
  | varDec => (keyword .varKw :: declaredNames).prod
  | subroutineDec =>
    [[keyword .constructorKw, keyword .functionKw, keyword .methodKw].sum,
      [keyword .voidKw, typeName].sum, name, symbol '(', branch parameterList, symbol ')',
      branch subroutineBody].prod
  | parameterList => perhaps [typeName, name, repeated furtherParameter]
  | subroutineBody =>
    [symbol '{', repeated [branch varDec], branch statements, symbol '}'].prod
  | statements => repeated [statement]
  | letStatement =>
    [keyword .letKw, name, perhaps index, symbol '=', branch expression, symbol ';'].prod
  | ifStatement =>
    (keyword .ifKw :: (parenthesized ++ (block ++ [perhaps alternative]))).prod
  | whileStatement => (keyword .whileKw :: (parenthesized ++ block)).prod
  | doStatement => (keyword .doKw :: (call ++ [symbol ';'])).prod
  | returnStatement => [keyword .returnKw, perhaps [branch expression], symbol ';'].prod
  | expression => [branch term, repeated operation].prod
  | term =>
    [constant, [name, perhaps index].prod, call.prod, parenthesized.prod,
      [[symbol '-', symbol '~'].sum, branch term].prod].sum
  | expressionList => perhaps [branch expression, repeated furtherArgument]

namespace Node

mutual

def Formed : Node → Prop
  | leaf _ => True
  | branch production children => children ∈ production.shape ∧ FormedAll children

def FormedAll : List Node → Prop
  | [] => True
  | node :: nodes => node.Formed ∧ FormedAll nodes

end

theorem FormedAll.append {nodes later : List Node} (first : FormedAll nodes)
    (rest : FormedAll later) : FormedAll (nodes ++ later) := by
  induction nodes with
  | nil => exact rest
  | cons node nodes ih => exact ⟨first.1, ih first.2⟩

mutual

theorem Formed.of_mem_findAll {production : Production} {node found : Node} (formed : node.Formed)
    (member : found ∈ node.findAll production) :
    found.production? = some production ∧ found.children ∈ production.shape := by
  cases node with
  | leaf leaf => cases member
  | branch here children =>
    rw [findAll] at member
    split at member
    · rename_i same
      subst same
      rcases List.mem_cons.mp member with rfl | inside
      · exact ⟨rfl, formed.1⟩
      · exact FormedAll.of_mem_findAllIn formed.2 inside
    · exact FormedAll.of_mem_findAllIn formed.2 member

theorem FormedAll.of_mem_findAllIn {production : Production} {nodes : List Node} {found : Node}
    (formed : FormedAll nodes) (member : found ∈ findAllIn production nodes) :
    found.production? = some production ∧ found.children ∈ production.shape := by
  cases nodes with
  | nil => cases member
  | cons node nodes =>
    rcases List.mem_append.mp member with here | later
    · exact Formed.of_mem_findAll formed.1 here
    · exact FormedAll.of_mem_findAllIn formed.2 later

end

end Node

end Jack
