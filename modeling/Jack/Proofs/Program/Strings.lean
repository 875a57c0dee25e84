import Jack.Proofs.Program.Constants

namespace Jack

namespace Token

def contents? (token : Token) : Option String :=
  match token.kind with
  | .string contents => some contents
  | _ => none

theorem contents?_eq_some_iff {token : Token} {contents : String} :
    token.contents? = some contents ↔ token.kind = .string contents := by
  cases kind : token.kind <;> simp [contents?, kind]

end Token

def stringsOf (tokens : List Token) : List String :=
  tokens.filterMap Token.contents?

theorem mem_stringsOf {tokens : List Token} {contents : String} :
    contents ∈ stringsOf tokens ↔ ∃ token ∈ tokens, token.kind = .string contents := by
  simp only [stringsOf, List.mem_filterMap, Token.contents?_eq_some_iff]

def Builds (code : List Instruction) (strings : List String) : Prop :=
  Holds code (strings.map Constant.stringCode)

def Constant.contents? : Constant → Option String
  | string contents => some contents
  | _ => none

theorem Token.contents?_eq (token : Token) :
    token.contents? = token.constant?.bind Constant.contents? := by
  unfold contents? constant? Constant.ofKind?
  cases token.kind with
  | keyword word => cases word <;> rfl
  | _ => rfl

theorem stringsOf_eq (tokens : List Token) :
    stringsOf tokens = (constantsOf tokens).filterMap Constant.contents? := by
  rw [stringsOf, constantsOf, List.filterMap_filterMap, funext Token.contents?_eq]

theorem Holds.builds {code : List Instruction} {constants : List Constant}
    (holds : Holds code (constants.map Constant.code)) :
    Builds code (constants.filterMap Constant.contents?) := by
  induction constants generalizing code with
  | nil => exact .nothing
  | cons constant constants ih =>
    cases holds with
    | next rest =>
      have later := ih rest
      cases found : constant.contents? with
      | none =>
        rw [List.filterMap_cons_none found, ← List.append_assoc]
        exact later.prepend _
      | some contents =>
        obtain rfl : constant = .string contents := by
          cases constant <;> cases found
          rfl
        rw [List.filterMap_cons_some found]
        exact .next later

theorem ClassDec.builds_code {declaration : ClassDec} (grammatical : declaration.Grammatical) :
    Builds declaration.code (stringsOf declaration.tokens) := by
  rw [stringsOf_eq]
  exact (holds_constants grammatical).builds

end Jack
