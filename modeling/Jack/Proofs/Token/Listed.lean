import Jack.Proofs.Text.Split
import Jack.Proofs.Token.Spelling
import Jack.Proofs.Token.Split
import Jack.Proofs.Tree.Unplaced

namespace Jack

def symbolOfEntity : String → String
  | "&lt;" => "<"
  | "&gt;" => ">"
  | "&amp;" => "&"
  | text => text

namespace Token

def unlisted (tag text : String) : String :=
  match tag with
  | "symbol" => symbolOfEntity text
  | "stringConstant" => "\"" ++ text ++ "\""
  | _ => text

theorem symbolOfEntity_mark {text : String} {mark : Char} (single : text.toList = [mark]) :
    symbolOfEntity text = text := by
  unfold symbolOfEntity
  split
  · simp at single
  · simp at single
  · simp at single
  · rfl

theorem unlisted_listed (token : Token) : unlisted token.kind.tag token.listed = token.text := by
  rcases token.spelling with ⟨mark, kind, text, _⟩ | ⟨isWord, _, _⟩ | ⟨contents, kind, text, _⟩
  · have same : token.text = String.ofList [mark] := by
      rw [← text, String.ofList_toList]
    unfold listed
    rw [kind]
    split
    · rename_i less
      cases less
      exact same.symm
    · rename_i greater
      cases greater
      exact same.symm
    · rename_i ampersand
      cases ampersand
      exact same.symm
    · rename_i isString
      cases isString
    · exact symbolOfEntity_mark text
  · cases kind : token.kind with
    | keyword word => rw [listed, kind]; rfl
    | identifier => rw [listed, kind]; rfl
    | integer value => rw [listed, kind]; rfl
    | symbol mark =>
      rw [kind] at isWord
      cases isWord
    | string contents =>
      rw [kind] at isWord
      cases isWord
  · have same : token.text = "\"" ++ contents ++ "\"" := by
      apply String.toList_inj.mp
      simp [text]
    rw [listed, kind, same]
    rfl

theorem text_of_string {token : Token} {contents : String} (string : token.kind = .string contents) :
    token.text = "\"" ++ contents ++ "\"" := by
  have text := token.unlisted_listed
  rw [listed, string] at text
  exact text.symm

def ofListed? (tag text : String) : Option Token :=
  (ofText? (unlisted tag text) 0 0).filter (·.kind.tag == tag)

theorem ofListed?_listed (token : Token) :
    ofListed? token.kind.tag token.listed = some token.unplaced := by
  have read : ofText? token.text 0 0 = some token.unplaced := token.unplaced.ofText?_text
  rw [ofListed?, unlisted_listed, read, Option.filter_some]
  simp [unplaced]

theorem oneLine_text (token : Token) : OneLine token.text := by
  intro inside
  rcases token.spelling with ⟨mark, _, text, isMark⟩ | ⟨_, _, word⟩ | ⟨contents, _, text, string⟩
  · rw [text] at inside
    obtain rfl := List.mem_singleton.mp inside
    exact absurd isMark (by decide)
  · exact absurd (word '\n' inside) (by decide)
  · rw [text] at inside
    rcases List.mem_cons.mp inside with quote | inside
    · exact absurd quote (by decide)
    · rcases List.mem_append.mp inside with inside | quote
      · exact absurd (string '\n' inside) (by decide)
      · exact absurd (List.mem_singleton.mp quote) (by decide)

theorem oneLine_listed (token : Token) : OneLine token.listed := by
  have text := token.oneLine_text
  unfold listed
  split
  · decide
  · decide
  · decide
  · rename_i contents kind
    have whole := token.unlisted_listed
    rw [kind, listed, kind] at whole
    intro inside
    rw [← whole] at text
    apply text
    simp [LexemeKind.tag, unlisted, inside]
  · exact text

end Token

end Jack
