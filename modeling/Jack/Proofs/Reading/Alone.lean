import Jack.Proofs.Grammar.Language
import Jack.Proofs.Reading.Elsewhere

namespace Jack

open Reading ParseState Step Grammar

theorem Step.Meets.exists_ok {α : Type} {n : Nat} {step : Step α n} {good : α → ParseState → Prop}
    {bad : Fault → ParseState → Prop} (meets : step.Meets good bad) (never : ∀ fault s, ¬ bad fault s) :
    ∃ value s, step.reply = .ok value s ∧ good value s := by
  cases reply : step.reply with
  | ok value s => exact ⟨value, s, rfl, meets.of_ok reply⟩
  | error fault s => exact absurd (meets.of_error reply) (never fault s)

theorem exists_of_texts_append {tokens : List Token} {first later : List Token}
    (same : tokens.map (·.text) = (first ++ later).map (·.text)) :
    ∃ front back, tokens = front ++ back ∧ front.map (·.text) = first.map (·.text) ∧
      back.map (·.text) = later.map (·.text) := by
  rw [List.map_append] at same
  obtain ⟨front, back, split, left, right⟩ := List.map_eq_append_iff.mp same
  exact ⟨front, back, split, left, right⟩

theorem exists_of_texts_cons {tokens : List Token} {token : Token} {later : List Token}
    (same : tokens.map (·.text) = (token :: later).map (·.text)) :
    ∃ first back, tokens = first :: back ∧ first.kind = token.kind ∧ first.text = token.text ∧
      back.map (·.text) = later.map (·.text) := by
  rw [List.map_cons] at same
  obtain ⟨first, back, split, left, right⟩ := List.map_eq_cons_iff.mp same
  exact ⟨first, back, split, Token.kind_eq_of_text left, left, right⟩

section

variable {s s' : ParseState} {group : VariableDec} {rest rest' : List Token}

theorem VariableDec.exists_alone (grammatical : group.Grammatical VariableKind.ofClassKeyword?)
    (s : ParseState) :
    ∃ kind tree t, VariableKind.ofClassKeyword? group.keyword.kind = some kind ∧
      part variableDec kind (s.confine group.tokens) = .ok tree t ∧ t.cursor.ahead = [] := by
  have reads : ReadsPart DerivesClassVarDec VariableKind.ofClassKeyword? variableDec (fun _ _ => True)
      fun _ _ => False :=
    readsPart_classVarDec fun _ _ _ _ _ _ _ => trivial
  obtain ⟨token, later, kind, same, selected, meets⟩ :=
    reads _ _ (derivesClassVarDec grammatical) (s.confine group.tokens) [] [] trivial
      (List.append_nil _).symm
  obtain ⟨tree, t, read, ended, _⟩ := meets.exists_ok fun _ _ => id
  rw [(List.cons.inj same).1]
  exact ⟨kind, tree, t, selected, read, ended⟩

theorem variableDecs_alike {groups : List VariableDec}
    (grammatical : ∀ group ∈ groups, group.Grammatical VariableKind.ofClassKeyword?)
    {tokens tokens' : List Token} {next next' : Token} (alike : Alike s s')
    (ahead : s.cursor.ahead = tokens ++ next :: rest)
    (ahead' : s'.cursor.ahead = tokens' ++ next' :: rest')
    (same : tokens.map (·.text) = (groups.flatMap VariableDec.tokens).map (·.text))
    (same' : tokens'.map (·.text) = (groups.flatMap VariableDec.tokens).map (·.text))
    (ends : VariableKind.ofClassKeyword? next.kind = none)
    (ends' : VariableKind.ofClassKeyword? next'.kind = none) {found found' : List VariableDec}
    (before : List.Forall₂ (Node.SameTree (VariableDec.node .classVarDec)) found found') :
    ∃ all all' t t', variableDecs VariableKind.ofClassKeyword? found s = .ok all t ∧
      variableDecs VariableKind.ofClassKeyword? found' s' = .ok all' t' ∧
      List.Forall₂ (Node.SameTree (VariableDec.node .classVarDec)) all all' ∧ Alike t t' ∧
      t.cursor.ahead = next :: rest ∧ t'.cursor.ahead = next' :: rest' := by
  induction groups generalizing s s' tokens tokens' found found' with
  | nil =>
    obtain rfl := List.map_eq_nil_iff.mp same
    obtain rfl := List.map_eq_nil_iff.mp same'
    exact ⟨_, _, s, s', items_end ahead ends, items_end ahead' ends',
      List.forall₂_reverse_iff.mpr before, alike, ahead, ahead'⟩
  | cons group groups ih =>
    obtain ⟨first, others⟩ := List.forall_mem_cons.mp grammatical
    obtain ⟨kind, tree, t, selected, alone, ended⟩ := group.exists_alone first s
    obtain ⟨front, back, rfl, texts, later⟩ := exists_of_texts_append same
    obtain ⟨front', back', rfl, texts', later'⟩ := exists_of_texts_append same'
    rw [List.append_assoc] at ahead ahead'
    have movable := movable_variableDec .classVarDec kind
    have here : Alike (s.confine group.tokens) s := ⟨rfl, rfl, rfl⟩
    obtain ⟨value, u, read, shown, alike₁, ahead₁, _⟩ :=
      movable.moves rfl alone ended here ahead texts.symm
    obtain ⟨value', u', read', shown', alike₁', ahead₁', _⟩ :=
      movable.moves rfl alone ended (here.trans alike) ahead' texts'.symm
    obtain ⟨word, _, begins, wordKind, _, _⟩ := exists_of_texts_cons texts
    obtain ⟨word', _, begins', wordKind', _, _⟩ := exists_of_texts_cons texts'
    rw [← wordKind] at selected
    have selected' := selected
    rw [wordKind, ← wordKind'] at selected'
    rw [begins] at ahead
    rw [begins'] at ahead'
    rw [variableDecs, items_next ahead selected read, items_next ahead' selected' read']
    exact ih others (alike₁.symm.trans alike₁') ahead₁ ahead₁' later later'
      (.cons (shown.symm.trans shown') before)

end

namespace ClassDec

variable {declaration : ClassDec} {subroutine tree : Subroutine} {s t : ParseState}

def entry (declaration : ClassDec) (subroutine : Subroutine) : ParseState :=
  ⟨.ofList subroutine.tokens, declaration.table.startSubroutine, declaration.name.token.text, 0, []⟩

structure Alone (declaration : ClassDec) (subroutine tree : Subroutine) (t : ParseState) : Prop where
  read : part ParseState.subroutine subroutine.kind (declaration.entry subroutine) = .ok tree t
  ended : t.cursor.ahead = []

structure Inside (declaration : ClassDec) (s : ParseState) : Prop where
  className : s.className = declaration.name.token.text
  classScope : s.names.classScope = declaration.table.classScope

/-- The tree is that of a subroutine up to the places, and has the code of the subroutine. -/
def Renders (declaration : ClassDec) (subroutine tree : Subroutine) : Prop :=
  ∃ alone t, declaration.Alone subroutine alone t ∧ Node.SameTree Subroutine.node alone tree ∧
    t.instructions = tree.codeIn declaration.name.token.text declaration.table

theorem table_holds (declaration : ClassDec) :
    declaration.table.Holds (declaration.declared.map (·.name)) [] := by
  refine ⟨_, declaration.table_records, ?_, by simp⟩
  rw [ofClass_declared]
  intro name member
  rwa [List.map_reverse, List.mem_reverse]

theorem exists_alone (grammatical : subroutine.Grammatical)
    (resolved : subroutine.Resolved declaration.name.token.text declaration.table) :
    ∃ tree t, declaration.Alone subroutine tree t := by
  obtain ⟨usage, derived, known⟩ := derivesSubroutine grammatical resolved
  have arrives := subroutine_arrives (s := declaration.entry subroutine) derived
    declaration.table_holds.startSubroutine (List.append_nil _).symm subroutine.kind
  have never : ∀ (fault : Fault) (_ : ParseState), ¬ ∃ other ∈ [usage],
      Undeclared (declaration.declared.map (·.name)) other fault := by
    intro fault _ undeclared
    obtain ⟨other, member, token, used, missing, _⟩ := undeclared
    rw [List.mem_singleton.mp member] at used missing
    exact missing (known token used)
  obtain ⟨tree, t, read, ended, _⟩ := arrives.exists_ok never
  exact ⟨tree, t, read, ended⟩

theorem subroutine_restarted (kind : SubroutineKind) (word : Token) (s : ParseState) :
    Reading.subroutine kind word s.startSubroutine.resetLabels = Reading.subroutine kind word s := by
  have same : s.startSubroutine.resetLabels.enterSubroutine kind = s.enterSubroutine kind := by
    cases kind <;> rfl
  unfold Reading.subroutine
  rw [bind_apply, bind_apply, change, same]
  rfl

theorem part_restarted {kind : SubroutineKind} {word : Token} {rest : List Token}
    (ahead : s.cursor.ahead = word :: rest) :
    part ParseState.subroutine kind s.startSubroutine.resetLabels =
      part ParseState.subroutine kind s := by
  have ahead' : s.startSubroutine.resetLabels.cursor.ahead = word :: rest := ahead
  rw [part_subroutine, accept_bind ahead rfl, accept_bind ahead' rfl]
  exact subroutine_restarted kind word (after s word rest)

/-- A subroutine that is read by itself is read among others. -/
theorem Alone.reads (alone : declaration.Alone subroutine tree t)
    (grammatical : subroutine.Grammatical) {tokens rest : List Token} (inside : declaration.Inside s)
    (ahead : s.cursor.ahead = tokens ++ rest)
    (same : tokens.map (·.text) = subroutine.tokens.map (·.text)) :
    ∃ value u, part ParseState.subroutine subroutine.kind s = .ok value u ∧
      declaration.Renders subroutine value ∧ declaration.Inside u ∧ u.cursor.ahead = rest := by
  obtain ⟨word, later, rfl, wordKind, _, _⟩ := exists_of_texts_cons same
  have alike : Alike (declaration.entry subroutine) s.startSubroutine.resetLabels :=
    ⟨startSubroutine_congr inside.classScope.symm, inside.className.symm, rfl⟩
  obtain ⟨value, u, read, shown, _, ahead₁, code⟩ :=
    (movable_subroutine subroutine.kind).moves rfl alone.read alone.ended alike ahead same.symm
  rw [part_restarted ahead] at read
  have selected : SubroutineKind.ofKind? word.kind = some subroutine.kind := by
    rw [wordKind]
    exact grammatical.1
  obtain ⟨_, _, stays⟩ := (subroutine_reads s ahead selected).of_ok read
  have own : value.codeIn s.className s.names =
      value.codeIn declaration.name.token.text declaration.table := by
    simp only [Subroutine.codeIn, Subroutine.table, inside.className,
      startSubroutine_congr inside.classScope]
  have sameCode : t.instructions = value.codeIn declaration.name.token.text declaration.table := by
    have emitted := stays.emitted
    rw [code, own] at emitted
    exact List.append_cancel_left emitted
  exact ⟨value, u, read, ⟨tree, t, alone, shown, sameCode⟩,
    ⟨stays.className.trans inside.className, stays.classScope.trans inside.classScope⟩, ahead₁⟩

theorem subroutines_read {chosen : List Subroutine}
    (all : ∀ subroutine ∈ chosen, subroutine.Grammatical ∧
      subroutine.Resolved declaration.name.token.text declaration.table)
    {tokens rest : List Token} {next : Token} (inside : declaration.Inside s)
    (ahead : s.cursor.ahead = tokens ++ next :: rest)
    (same : tokens.map (·.text) = (chosen.flatMap Subroutine.tokens).map (·.text))
    (ends : SubroutineKind.ofKind? next.kind = none) (found : List Subroutine) :
    ∃ trees u, Reading.subroutines found s = .ok (found.reverse ++ trees) u ∧
      List.Forall₂ declaration.Renders chosen trees ∧ u.cursor.ahead = next :: rest := by
  induction chosen generalizing s tokens found with
  | nil =>
    obtain rfl := List.map_eq_nil_iff.mp same
    refine ⟨[], s, ?_, .nil, ahead⟩
    rw [List.append_nil]
    exact items_end ahead ends
  | cons subroutine chosen ih =>
    obtain ⟨⟨grammatical, resolved⟩, others⟩ := List.forall_mem_cons.mp all
    obtain ⟨front, back, rfl, texts, later⟩ := exists_of_texts_append same
    rw [List.append_assoc] at ahead
    obtain ⟨tree, t, alone⟩ := exists_alone grammatical resolved
    obtain ⟨value, u, read, renders, inside₁, ahead₁⟩ :=
      alone.reads grammatical inside ahead texts
    obtain ⟨word, _, begins, wordKind, _, _⟩ := exists_of_texts_cons texts
    have selected : SubroutineKind.ofKind? word.kind = some subroutine.kind := by
      rw [wordKind]
      exact grammatical.1
    rw [begins] at ahead
    obtain ⟨trees, v, reads, shown, ahead₂⟩ := ih others inside₁ ahead₁ later (value :: found)
    refine ⟨value :: trees, v, ?_, .cons renders shown, ahead₂⟩
    rw [Reading.subroutines, items_next ahead selected read]
    rw [List.reverse_cons, List.append_assoc] at reads
    exact reads

theorem Renders.unique {first second : Subroutine} (renders : declaration.Renders subroutine first)
    (other : declaration.Renders subroutine second) :
    Node.SameTree Subroutine.node first second ∧
      first.codeIn declaration.name.token.text declaration.table =
        second.codeIn declaration.name.token.text declaration.table := by
  obtain ⟨tree, t, alone, shown, code⟩ := renders
  obtain ⟨tree', t', alone', shown', code'⟩ := other
  have same := alone.read.symm.trans alone'.read
  cases same
  exact ⟨shown.symm.trans shown', code.symm.trans code'⟩

end ClassDec

end Jack
