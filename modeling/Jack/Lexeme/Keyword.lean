namespace Jack

inductive Keyword where
  | classKw | constructorKw | functionKw | methodKw | fieldKw | staticKw | varKw
  | intKw | charKw | booleanKw | voidKw | trueKw | falseKw | nullKw | thisKw
  | letKw | doKw | ifKw | elseKw | whileKw | returnKw
deriving DecidableEq, Repr

namespace Keyword

def text : Keyword → String
  | classKw => "class"
  | constructorKw => "constructor"
  | functionKw => "function"
  | methodKw => "method"
  | fieldKw => "field"
  | staticKw => "static"
  | varKw => "var"
  | intKw => "int"
  | charKw => "char"
  | booleanKw => "boolean"
  | voidKw => "void"
  | trueKw => "true"
  | falseKw => "false"
  | nullKw => "null"
  | thisKw => "this"
  | letKw => "let"
  | doKw => "do"
  | ifKw => "if"
  | elseKw => "else"
  | whileKw => "while"
  | returnKw => "return"

def all : List Keyword :=
  [classKw, constructorKw, functionKw, methodKw, fieldKw, staticKw, varKw,
    intKw, charKw, booleanKw, voidKw, trueKw, falseKw, nullKw, thisKw,
    letKw, doKw, ifKw, elseKw, whileKw, returnKw]

theorem mem_all (keyword : Keyword) : keyword ∈ all := by
  cases keyword <;> simp [all]

def ofText? (text : String) : Option Keyword :=
  all.find? fun keyword => keyword.text == text

theorem text_of_ofText? {text : String} {keyword : Keyword} (found : ofText? text = some keyword) :
    keyword.text = text := by
  simpa using List.find?_some found

end Keyword

end Jack
