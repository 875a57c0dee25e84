import Jack.Proofs.Replay
import Jack.Proofs.Tree.Spells

namespace Jack

theorem of_analyze {source : String} {file? : Option String} {analysis : Analysis}
    (accepted : analyze source file? = .ok analysis) :
    tokenize source = .ok analysis.tokens ∧
      ∃ s, parse analysis.tokens = .ok analysis.declaration s := by
  cases split : tokenize source with
  | error fault =>
    rw [analyze, readUnit_of_fault _ split] at accepted
    cases accepted
  | ok tokens =>
    rw [analyze_of_tokens split] at accepted
    cases parsed : parse tokens with
    | error fault s =>
      rw [parsed] at accepted
      cases accepted
    | ok declaration s =>
      rw [parsed] at accepted
      cases accepted
      exact ⟨rfl, s, parsed⟩

theorem ClassDec.spells_of_parse {tokens : List Token} {declaration : ClassDec} {s : ParseState}
    (accepted : parse tokens = .ok declaration s) :
    Spells [declaration.node] [.branch .classDec] tokens := by
  rw [tokens_of_parse accepted]
  exact ClassDec.spells (parse_reads accepted).1.grammatical

theorem tree_derives_tokens {source : String} {file? : Option String} {analysis : Analysis}
    (accepted : analyze source file? = .ok analysis) :
    tokenize source = .ok analysis.tokens ∧ analysis.tree.tokens = analysis.tokens ∧
      analysis.tree.production? = some .classDec ∧
      ∀ production, ∀ branch ∈ analysis.tree.findAll production,
        branch.production? = some production ∧ branch.children ∈ production.shape := by
  obtain ⟨split, s, parsed⟩ := of_analyze accepted
  have spells : Spells [analysis.tree] [.branch .classDec] analysis.tokens :=
    ClassDec.spells_of_parse parsed
  refine ⟨split, ?_, rfl, ?_⟩
  · have leaves := spells.spelled
    rwa [Node.leavesOfAll, Node.leavesOfAll, List.append_nil] at leaves
  · intro production branch member
    exact Node.Formed.of_mem_findAll spells.formed.1 member

def stackSource : String :=
  "class Stack {
  field Array cells; // the newest last
  field int size;
  method int pop() {
    let size = size - 1;
    do Output.printInt(size);
    if (empty()) { return -1; }
    return cells[size];
  }
  method boolean empty() { return size < 0; }
}"

theorem tree_of_stack_derives_tokens : ∃ analysis, analyze stackSource none = .ok analysis ∧
    analysis.tokens.length = 64 ∧ tokenize stackSource = .ok analysis.tokens ∧
    analysis.tree.tokens = analysis.tokens ∧ analysis.tree.production? = some .classDec ∧
      ∀ production, ∀ branch ∈ analysis.tree.findAll production,
        branch.production? = some production ∧ branch.children ∈ production.shape := by
  have passes : (analyze stackSource none).toOption.any (·.tokens.length == 64) := by
    decide +kernel
  cases accepted : analyze stackSource none with
  | error diagnostic =>
    rw [accepted] at passes
    cases passes
  | ok analysis =>
    rw [accepted] at passes
    exact ⟨analysis, rfl, eq_of_beq passes, tree_derives_tokens accepted⟩

end Jack
