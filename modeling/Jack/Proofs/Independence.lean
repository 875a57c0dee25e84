import Jack.Proofs.Incremental
import Jack.Proofs.Printing
import Jack.Proofs.Program.Functions
import Jack.Proofs.Reading.Alone
import Jack.Proofs.Replay

namespace Jack

open Reading ParseState

namespace Reading

def opened (keyword name opening : Token) (rest : List Token) : ParseState :=
  ⟨⟨[opening, name, keyword], rest, false⟩, .empty, name.text, 0, []⟩

theorem bind_ok {α β : Type} {first : Reading α} {next : α → Reading β} {s u : ParseState} {value : β}
    (run : (first >>= next) s = .ok value u) :
    ∃ found t, first s = .ok found t ∧ next found t = .ok value u := by
  rw [bind_apply] at run
  cases same : first s with
  | ok found t =>
    rw [same] at run
    exact ⟨found, t, rfl, run⟩
  | error fault t =>
    rw [same] at run
    cases run

variable {keyword name opening closing : Token} {rest : List Token}

theorem classDec_opened (isClass : keyword.isKeyword .classKw) (isName : name.isIdentifier)
    (opens : opening.isSymbol '{') :
    classDec (.start (keyword :: name :: opening :: rest)) = (do
      let declarations ← variableDecs VariableKind.ofClassKeyword? []
      let subroutines ← subroutines []
      let closing ← symbol '}'
      pure ⟨keyword, ⟨name, .className true⟩, opening, declarations, subroutines, closing⟩ :
        Reading ClassDec) (opened keyword name opening rest) := by
  unfold classDec
  rw [Reading.keyword, accept_bind rfl isClass, identifier, accept_bind rfl isName, bind_apply, change]
  dsimp only
  rw [symbol, accept_bind rfl opens]
  rfl

theorem parse_of_parts (isClass : keyword.isKeyword .classKw) (isName : name.isIdentifier)
    (opens : opening.isSymbol '{') (closes : closing.isSymbol '}') {declarations : List VariableDec}
    {routines : List Subroutine} {s t : ParseState}
    (declared : variableDecs VariableKind.ofClassKeyword? [] (opened keyword name opening rest) =
      .ok declarations s)
    (read : subroutines [] s = .ok routines t) (ahead : t.cursor.ahead = [closing]) :
    ∃ u, parse (keyword :: name :: opening :: rest) =
      .ok ⟨keyword, ⟨name, .className true⟩, opening, declarations, routines, closing⟩ u := by
  rw [parse_eq, classDec_opened isClass isName opens, bind_apply, declared]
  dsimp only
  rw [bind_apply, read]
  dsimp only
  rw [symbol, accept_bind ahead closes]
  exact ⟨_, rfl⟩

theorem parts_of_parse {declaration : ClassDec} {u : ParseState} (isClass : keyword.isKeyword .classKw)
    (isName : name.isIdentifier) (opens : opening.isSymbol '{')
    (accepted : parse (keyword :: name :: opening :: rest) = .ok declaration u) :
    ∃ s t, variableDecs VariableKind.ofClassKeyword? [] (opened keyword name opening rest) =
        .ok declaration.declarations s ∧
      subroutines [] s = .ok declaration.subroutines t := by
  have whole := (classDec_of_parse accepted).1
  rw [classDec_opened isClass isName opens] at whole
  obtain ⟨declarations, s, declared, later⟩ := bind_ok whole
  obtain ⟨routines, t, read, last⟩ := bind_ok later
  obtain ⟨closing, v, _, ends⟩ := bind_ok last
  cases ends
  exact ⟨s, t, declared, read⟩

theorem reads_of_declared {declarations : List VariableDec} {s : ParseState}
    (declared : variableDecs VariableKind.ofClassKeyword? [] (opened keyword name opening rest) =
      .ok declarations s) :
    (opened keyword name opening rest).Reads
      ⟨declarations.flatMap VariableDec.tokens, [], 0,
        declarations.flatMap (VariableDec.declaredBy VariableKind.ofClassKeyword?)⟩ s :=
  ((variableDecs_reads _ classScope_ofClassKeyword?).of_ok declared).reads

end Reading

theorem noClassVariable {subroutines : List Subroutine} {closing : Token}
    (all : ∀ subroutine ∈ subroutines, subroutine.Grammatical) (closes : closing.isSymbol '}')
    {tokens : List Token}
    (same : tokens.map (·.text) =
      (subroutines.flatMap Subroutine.tokens ++ [closing]).map (·.text)) :
    ∃ first later, tokens = first :: later ∧ VariableKind.ofClassKeyword? first.kind = none := by
  cases subroutines with
  | nil =>
    obtain ⟨first, later, split, kind, _, _⟩ := exists_of_texts_cons same
    refine ⟨first, later, split, ?_⟩
    rw [kind, Token.kind_of_isSymbol closes]
    rfl
  | cons subroutine subroutines =>
    obtain ⟨first, later, split, kind, _, _⟩ := exists_of_texts_cons same
    refine ⟨first, later, split, ?_⟩
    have begins := (all subroutine List.mem_cons_self).1
    rw [kind]
    rcases SubroutineKind.isKeyword_of_ofKind? begins with isWord | isWord | isWord <;>
      rw [Token.kind_of_isKeyword isWord] <;> rfl

namespace ClassDec

def withSubroutines (declaration : ClassDec) (chosen : List Subroutine) : ClassDec :=
  { declaration with subroutines := chosen }

/-- A subroutine that reads well among the variables of a class. -/
def Admits (declaration : ClassDec) (subroutine : Subroutine) : Prop :=
  subroutine.Grammatical ∧ subroutine.Resolved declaration.name.token.text declaration.table

/-- A class that is read from the tokens of another one with chosen subroutines, up to the places.
-/
structure Corresponds (declaration : ClassDec) (chosen : List Subroutine) (other : ClassDec) :
    Prop where
  keyword : other.keyword.text = declaration.keyword.text
  name : other.name.token.text = declaration.name.token.text
  resolution : other.name.resolution = declaration.name.resolution
  opening : other.opening.text = declaration.opening.text
  closing : other.closing.text = declaration.closing.text
  table : other.table = declaration.table
  declarations : List.Forall₂ (Node.SameTree (VariableDec.node .classVarDec))
    declaration.declarations other.declarations
  subroutines : List.Forall₂ declaration.Renders chosen other.subroutines

variable {declaration other : ClassDec} {chosen : List Subroutine} {tokens others : List Token}
  {s : ParseState}

theorem admits_of_parse (accepted : parse tokens = .ok declaration s) :
    ∀ subroutine ∈ declaration.subroutines, declaration.Admits subroutine := by
  obtain ⟨yields, _⟩ := parse_reads accepted
  obtain ⟨_, _, _, _, routines, _⟩ := yields.grammatical
  exact fun subroutine own => ⟨routines subroutine own, yields.resolved.2.2 subroutine own⟩

theorem exists_inside (accepted : parse declaration.tokens = .ok declaration s) :
    ∃ t, variableDecs VariableKind.ofClassKeyword? []
        (opened declaration.keyword declaration.name.token declaration.opening
          (declaration.declarations.flatMap VariableDec.tokens ++
            (declaration.subroutines.flatMap Subroutine.tokens ++ [declaration.closing]))) =
        .ok declaration.declarations t ∧
      t.names = declaration.table ∧ declaration.Inside t ∧
      ∀ subroutine ∈ declaration.subroutines, declaration.Renders subroutine subroutine := by
  have admits := admits_of_parse accepted
  obtain ⟨isClass, isName, opens, _, _, closes⟩ := (parse_reads accepted).1.grammatical
  obtain ⟨t, u, declared, read⟩ := parts_of_parse isClass isName opens accepted
  have reads := reads_of_declared declared
  have inside : declaration.Inside t := ⟨reads.className, congrArg (·.classScope) reads.names⟩
  have ahead : t.cursor.ahead =
      declaration.subroutines.flatMap Subroutine.tokens ++ [declaration.closing] :=
    (List.append_cancel_left reads.ahead).symm
  have ends : SubroutineKind.ofKind? declaration.closing.kind = none := by
    rw [Token.kind_of_isSymbol closes]
    rfl
  obtain ⟨trees, v, again, renders, _⟩ := subroutines_read admits inside ahead rfl ends []
  rw [read] at again
  cases again
  exact ⟨t, declared, reads.names, inside, List.forall₂_same.mp renders⟩

theorem exists_corresponds (accepted : parse declaration.tokens = .ok declaration s)
    (admits : ∀ subroutine ∈ chosen, declaration.Admits subroutine)
    (texts : others.map (·.text) = (declaration.withSubroutines chosen).tokens.map (·.text)) :
    ∃ other t, parse others = .ok other t ∧ declaration.Corresponds chosen other := by
  obtain ⟨yields, _⟩ := parse_reads accepted
  obtain ⟨isClass, isName, opens, groups, routines, closes⟩ := yields.grammatical
  obtain ⟨s₁, declared, names, inside, _⟩ := exists_inside accepted
  -- The tokens are cut where those of the given class are.
  rw [withSubroutines, ClassDec.tokens] at texts
  obtain ⟨keyword, _, rfl, keywordKind, keywordText, texts⟩ := exists_of_texts_cons texts
  obtain ⟨name, _, rfl, nameKind, nameText, texts⟩ := exists_of_texts_cons texts
  obtain ⟨opening, _, rfl, openingKind, openingText, texts⟩ := exists_of_texts_cons texts
  obtain ⟨front, back, rfl, frontTexts, texts⟩ := exists_of_texts_append texts
  have isClass' : keyword.isKeyword .classKw := by rwa [Token.isKeyword, keywordKind]
  have isName' : name.isIdentifier := by rwa [Token.isIdentifier, nameKind]
  have opens' : opening.isSymbol '{' := by rwa [Token.isSymbol, openingKind]
  -- The variables are the same, whatever comes after them.
  obtain ⟨next, later, begins, ends⟩ := noClassVariable routines closes rfl
  obtain ⟨next', later', begins', ends'⟩ :=
    noClassVariable (fun subroutine member => (admits subroutine member).1) closes texts
  have start : Alike
      (opened declaration.keyword declaration.name.token declaration.opening
        (declaration.declarations.flatMap VariableDec.tokens ++
          (declaration.subroutines.flatMap Subroutine.tokens ++ [declaration.closing])))
      (opened keyword name opening (front ++ back)) := ⟨rfl, nameText.symm, rfl⟩
  obtain ⟨_, groups', _, s₁', again, declared', sameGroups, alike, _, ahead'⟩ :=
    variableDecs_alike groups start (by rw [opened, begins]) (by rw [opened, begins']) rfl frontTexts
      ends ends' .nil
  rw [declared] at again
  cases again
  have inside' : declaration.Inside s₁' :=
    ⟨alike.className.symm.trans inside.className,
      (congrArg (·.classScope) alike.names.symm).trans inside.classScope⟩
  -- Each of the subroutines renders the chosen one.
  rw [← begins'] at ahead'
  obtain ⟨middle, _, rfl, middleTexts, texts⟩ := exists_of_texts_append texts
  obtain ⟨closing, _, rfl, closingKind, closingText, texts⟩ := exists_of_texts_cons texts
  obtain rfl := List.map_eq_nil_iff.mp texts
  have closes' : closing.isSymbol '}' := by rwa [Token.isSymbol, closingKind]
  have noMore : SubroutineKind.ofKind? closing.kind = none := by
    rw [Token.kind_of_isSymbol closes']
    rfl
  obtain ⟨trees, s₂', read', rendered, last⟩ :=
    subroutines_read admits inside' ahead' middleTexts noMore []
  obtain ⟨t, parsed⟩ := parse_of_parts isClass' isName' opens' closes' declared' read' last
  have table : s₁'.names = VariableTable.empty.declare
      (groups'.flatMap (VariableDec.declaredBy VariableKind.ofClassKeyword?)) :=
    (reads_of_declared declared').names
  refine ⟨_, t, parsed, keywordText, nameText, yields.resolved.1.symm, openingText, closingText, ?_,
    sameGroups, rendered⟩
  exact table.symm.trans (alike.names.symm.trans names)

namespace Corresponds

theorem sameRoutines (corresponds : declaration.Corresponds chosen other)
    (renders : ∀ subroutine ∈ chosen, declaration.Renders subroutine subroutine) :
    List.Forall₂ (Node.SameTree Subroutine.node) chosen other.subroutines ∧
      other.code = chosen.flatMap declaration.subroutineCode := by
  have same : ∀ subroutine ∈ chosen, ∀ tree, declaration.Renders subroutine tree →
      Node.SameTree Subroutine.node subroutine tree ∧
        tree.codeIn declaration.name.token.text declaration.table =
          declaration.subroutineCode subroutine := by
    intro subroutine member tree rendered
    have unique := (renders subroutine member).unique rendered
    exact ⟨unique.1, unique.2.symm.trans (declaration.subroutineCode_eq subroutine).symm⟩
  rw [code_eq, corresponds.name, corresponds.table]
  have all := corresponds.subroutines
  generalize other.subroutines = trees at all
  clear corresponds renders
  induction all with
  | nil => exact ⟨.nil, rfl⟩
  | cons rendered _ ih =>
    obtain ⟨shown, code⟩ := same _ List.mem_cons_self _ rendered
    obtain ⟨others, later⟩ := ih fun subroutine member => same _ (List.mem_cons_of_mem _ member)
    rw [List.flatMap_cons, List.flatMap_cons, code, later]
    exact ⟨.cons shown others, rfl⟩

theorem sameTree (corresponds : declaration.Corresponds chosen other)
    (trees : List.Forall₂ (Node.SameTree Subroutine.node) chosen other.subroutines) :
    Node.SameTree ClassDec.node (declaration.withSubroutines chosen) other := by
  have keyword := Node.unplaced_token corresponds.keyword.symm
  have name := Node.unplaced_name corresponds.name.symm declaration.name.resolution
  have opening := Node.unplaced_token corresponds.opening.symm
  have closing := Node.unplaced_token corresponds.closing.symm
  simp [ClassDec.node, withSubroutines, Name.node, keyword, name, opening, closing,
    corresponds.resolution, Node.SameTree.map corresponds.declarations, Node.SameTree.map trees]

end Corresponds

def select (declaration : ClassDec) (positions : List (Fin declaration.subroutines.length)) :
    ClassDec :=
  declaration.withSubroutines (positions.map declaration.subroutines.get)

theorem parse_select (accepted : parse tokens = .ok declaration s)
    (positions : List (Fin declaration.subroutines.length))
    (texts : others.map (·.text) = (declaration.select positions).tokens.map (·.text)) :
    ∃ other t, parse others = .ok other t ∧ t.className = s.className ∧
      List.Forall₂ (Node.SameTree Subroutine.node) (positions.map declaration.subroutines.get)
        other.subroutines ∧
      Node.SameTree ClassDec.node (declaration.select positions) other ∧
      t.instructions =
        (positions.map declaration.subroutines.get).flatMap declaration.subroutineCode := by
  have split := tokens_of_parse accepted
  rw [split] at accepted
  have own : ∀ subroutine ∈ positions.map declaration.subroutines.get,
      subroutine ∈ declaration.subroutines := by
    intro subroutine member
    obtain ⟨position, _, rfl⟩ := List.mem_map.mp member
    exact List.get_mem _ _
  obtain ⟨_, _, _, _, renders⟩ := exists_inside accepted
  obtain ⟨other, t, parsed, corresponds⟩ := exists_corresponds accepted
    (fun subroutine member => admits_of_parse accepted subroutine (own subroutine member)) texts
  obtain ⟨trees, code⟩ := corresponds.sameRoutines
    fun subroutine member => renders subroutine (own subroutine member)
  have className : t.className = s.className := by
    rw [(parse_reads parsed).1.className, (parse_reads accepted).1.className, corresponds.name]
  exact ⟨other, t, parsed, className, trees, corresponds.sameTree trees,
    (instructions_of_parse parsed).trans code⟩

end ClassDec

theorem vmText_flatMap {α : Type} (code : α → List Instruction) (items : List α) :
    vmText (items.flatMap code) = String.join (items.map fun item => vmText (code item)) := by
  induction items with
  | nil => rfl
  | cons item items ih => rw [List.flatMap_cons, vmText_append, ih, List.map_cons, String.join_cons]

/-- The code of an accepted class is made of one function for each subroutine. A class with the same
variables and the subroutines at any positions has just the functions and trees of these. -/
theorem subroutines_are_independent {source : String} {file? : Option String}
    {compilation : Compilation} (accepted : compile source file? = .ok compilation) :
    let declaration := compilation.declaration
    (∃ s, parse compilation.tokens = .ok declaration s ∧ compilation.vm = vmText s.instructions ∧
      splitFunctions s.instructions =
        ([], declaration.subroutines.map declaration.subroutineCode)) ∧
    ∀ positions : List (Fin declaration.subroutines.length),
      (∃ other tokens, tokenize other = .ok tokens ∧
        tokens.map (·.text) = (declaration.select positions).tokens.map (·.text)) ∧
      ∀ other tokens, tokenize other = .ok tokens →
        tokens.map (·.text) = (declaration.select positions).tokens.map (·.text) →
        ∀ otherFile?, ∃ compiled, compile other otherFile? = .ok compiled ∧
          compiled.className = compilation.className ∧
          compiled.vm = String.join (positions.map fun position =>
            vmText (declaration.subroutineCode (declaration.subroutines.get position))) ∧
          List.Forall₂ (Node.SameTree Subroutine.node)
            (positions.map declaration.subroutines.get) compiled.declaration.subroutines ∧
          Node.SameTree ClassDec.node (declaration.select positions) compiled.declaration := by
  intro declaration
  obtain ⟨_, s, parsed, className, vm⟩ := of_compile accepted
  refine ⟨⟨s, parsed, vm, ?_⟩, fun positions => ⟨exists_source _, ?_⟩⟩
  · rw [instructions_of_parse parsed]
    exact declaration.splitFunctions_code
  · intro other tokens split texts otherFile?
    obtain ⟨selected, t, read, sameName, trees, tree, code⟩ :=
      ClassDec.parse_select parsed positions texts
    have compiled := compile_of_tokens split otherFile?
    rw [read] at compiled
    refine ⟨_, compiled, sameName.trans className, ?_, trees, tree⟩
    rw [code, vmText_flatMap, List.map_map]
    rfl

/-- A class with one subroutine of each kind. The argument of the method hides the field. -/
def gaugeSource : String :=
  "class Gauge {
  field int level;
  constructor Gauge new() { let level = 0; return this; }
  method int fill(int level) {
    while (level < 9) { if (level) { let level = level + 1; } }
    return level;
  }
  function int top() { return 9; }
}"

theorem subroutines_of_gauge_are_independent : ∃ compilation, compile gaugeSource none = .ok compilation ∧
    compilation.declaration.subroutines.length = 3 ∧
    let declaration := compilation.declaration
    (∃ s, parse compilation.tokens = .ok declaration s ∧ compilation.vm = vmText s.instructions ∧
      splitFunctions s.instructions =
        ([], declaration.subroutines.map declaration.subroutineCode)) ∧
    ∀ positions : List (Fin declaration.subroutines.length),
      (∃ other tokens, tokenize other = .ok tokens ∧
        tokens.map (·.text) = (declaration.select positions).tokens.map (·.text)) ∧
      ∀ other tokens, tokenize other = .ok tokens →
        tokens.map (·.text) = (declaration.select positions).tokens.map (·.text) →
        ∀ otherFile?, ∃ compiled, compile other otherFile? = .ok compiled ∧
          compiled.className = compilation.className ∧
          compiled.vm = String.join (positions.map fun position =>
            vmText (declaration.subroutineCode (declaration.subroutines.get position))) ∧
          List.Forall₂ (Node.SameTree Subroutine.node)
            (positions.map declaration.subroutines.get) compiled.declaration.subroutines ∧
          Node.SameTree ClassDec.node (declaration.select positions) compiled.declaration := by
  have passes : (compile gaugeSource none).toOption.any
      (·.declaration.subroutines.length == 3) := by
    decide +kernel
  cases accepted : compile gaugeSource none with
  | error diagnostic =>
    rw [accepted] at passes
    cases passes
  | ok compilation =>
    rw [accepted] at passes
    exact ⟨compilation, rfl, eq_of_beq passes, subroutines_are_independent accepted⟩

end Jack
