import Jack.Proofs.Accepted
import Jack.Proofs.Variable.Slot

namespace Jack

def Segment.isPlain : Segment → Bool
  | argument | localVar | static | thisCell => false
  | constant | thatCell | pointer | temp => true

namespace Instruction

def Accesses (kind : VariableKind) (index : UInt16) (instruction : Instruction) : Prop :=
  instruction = .push (.ofVariable kind) index ∨ instruction = .pop (.ofVariable kind) index

def isPlain : Instruction → Bool
  | .push segment _ | .pop segment _ => segment.isPlain
  | .apply _ | .label _ | .jump _ | .jumpIfFalse _ | .call _ _ | .function _ _ | .ret => true

theorem not_accesses_of_isPlain {instruction : Instruction} (plain : instruction.isPlain)
    (kind : VariableKind) (index : UInt16) : ¬instruction.Accesses kind index := by
  rintro (rfl | rfl) <;> cases kind <;> cases plain

end Instruction

namespace VariableTable

variable {names : VariableTable}

structure Covers (names : VariableTable) (instruction : Instruction) : Prop where
  known : ∀ kind index, instruction.Accesses kind index →
    ∃ name entry, names.lookup? name = some entry ∧ entry.kind = kind ∧ entry.index = index

def CoversAll (names : VariableTable) (code : List Instruction) : Prop :=
  ∀ instruction ∈ code, names.Covers instruction

theorem covers_of_isPlain {instruction : Instruction} (plain : instruction.isPlain) :
    names.Covers instruction :=
  ⟨fun kind index accesses =>
    absurd accesses (Instruction.not_accesses_of_isPlain plain kind index)⟩

@[simp] theorem coversAll_nil : names.CoversAll [] := by
  simp [CoversAll]

@[simp] theorem coversAll_cons {instruction : Instruction} {code : List Instruction} :
    names.CoversAll (instruction :: code) ↔ names.Covers instruction ∧ names.CoversAll code :=
  List.forall_mem_cons

@[simp] theorem coversAll_append {code later : List Instruction} :
    names.CoversAll (code ++ later) ↔ names.CoversAll code ∧ names.CoversAll later :=
  List.forall_mem_append

theorem coversAll_of_isPlain {code : List Instruction} (plain : code.all Instruction.isPlain) :
    names.CoversAll code :=
  fun instruction member => covers_of_isPlain (List.all_eq_true.mp plain instruction member)

theorem covers_push {name : String} {entry : Variable} (found : names.lookup? name = some entry) :
    names.Covers entry.push := by
  constructor
  rintro kind index (same | same)
  · simp only [Variable.push, Instruction.push.injEq] at same
    refine ⟨name, entry, found, ?_, same.2⟩
    cases own : entry.kind <;> cases kind <;> simp_all [Segment.ofVariable]
  · cases same

theorem covers_pop {name : String} {entry : Variable} (found : names.lookup? name = some entry) :
    names.Covers entry.pop := by
  constructor
  rintro kind index (same | same)
  · cases same
  · simp only [Variable.pop, Instruction.pop.injEq] at same
    refine ⟨name, entry, found, ?_, same.2⟩
    cases own : entry.kind <;> cases kind <;> simp_all [Segment.ofVariable]

theorem lookup?_of_qualifier? {qualifier : String} {entry : Variable}
    (found : names.qualifier? qualifier = some entry) : names.lookup? qualifier = some entry := by
  unfold qualifier? at found
  split at found
  · cases found
  · exact found

end VariableTable

section

variable {names : VariableTable}

theorem Name.Uses.covers_pushCode {name : Name} (uses : name.Uses names) :
    names.CoversAll name.pushCode := by
  obtain ⟨entry, found, same⟩ := uses
  rw [same, Name.pushCode_use]
  simpa using VariableTable.covers_push found

theorem Name.Uses.covers_popCode {name : Name} (uses : name.Uses names) :
    names.CoversAll name.popCode := by
  obtain ⟨entry, found, same⟩ := uses
  rw [same, Name.popCode_use]
  simpa using VariableTable.covers_pop found

theorem Name.Qualifies.covers {name : Name} {slot : Slot} (qualifies : name.Qualifies names)
    (object : name.slot? = some slot) : names.Covers slot.push := by
  unfold Name.Qualifies at qualifies
  split at qualifies
  · rename_i entry found
    rw [qualifies, Name.slot?_use] at object
    cases object
    exact VariableTable.covers_push (VariableTable.lookup?_of_qualifier? found)
  · obtain ⟨token, resolution⟩ := name
    simp only at qualifies
    rw [qualifies, Name.slot?_className] at object
    cases object

theorem Constant.coversAll (value : Constant) : names.CoversAll value.code := by
  apply VariableTable.coversAll_of_isPlain
  cases value with
  | string contents => simp [code, stringCode, charCode, Instruction.isPlain, Segment.isPlain]
  | integer value => rfl
  | truth => rfl
  | falsity => rfl
  | null => rfl
  | this => rfl

theorem UnaryOperator.covers (operator : UnaryOperator) : names.Covers operator.code := by
  cases operator <;> exact VariableTable.covers_of_isPlain rfl

theorem BinaryOperator.covers (operator : BinaryOperator) : names.Covers operator.code := by
  cases operator <;> exact VariableTable.covers_of_isPlain rfl

variable (context : Context)

open VariableTable

mutual

/-- Code accesses the variables that the names in it stand for, and no others. -/
theorem Term.coversAll (term : Term) (resolved : term.Resolved names) :
    names.CoversAll (term.code context) := by
  cases term with
  | constant token value => exact value.coversAll
  | use name => exact resolved.covers_pushCode
  | element array opening index closing =>
    have inside := index.coversAll resolved.2
    have read : names.CoversAll [.apply .add, .pop .pointer 1, .push .thatCell 0] :=
      coversAll_of_isPlain rfl
    exact coversAll_append.mpr ⟨resolved.1.covers_pushCode, coversAll_append.mpr ⟨inside, read⟩⟩
  | call call => exact call.coversAll resolved
  | group opening inner closing => exact inner.coversAll resolved
  | unary token operator operand =>
    have inside := operand.coversAll resolved
    have apply : names.CoversAll [operator.code] := by simpa using operator.covers
    exact coversAll_append.mpr ⟨inside, apply⟩

theorem Expression.coversAll (value : Expression) (resolved : value.Resolved names) :
    names.CoversAll (value.code context) := by
  cases value with
  | term term => exact term.coversAll resolved
  | binary left token operator right =>
    have first := left.coversAll resolved.1
    have second := right.coversAll resolved.2
    have apply : names.CoversAll [operator.code] := by simpa using operator.covers
    exact coversAll_append.mpr ⟨first, coversAll_append.mpr ⟨second, apply⟩⟩

theorem Call.coversAll (call : Call) (resolved : call.Resolved names) :
    names.CoversAll (call.code context) := by
  have calls : ∀ name count, names.CoversAll [.call name count] :=
    fun name count => coversAll_of_isPlain rfl
  cases call with
  | plain subroutine opening arguments closing =>
    have inside := arguments.coversAll resolved.2
    have object : names.Covers (.push .pointer 0) := covers_of_isPlain rfl
    exact coversAll_cons.mpr ⟨object, coversAll_append.mpr ⟨inside, calls _ _⟩⟩
  | qualified qualifier dot subroutine opening arguments closing =>
    have inside := arguments.coversAll resolved.2.2
    rw [Call.code]
    split
    · rename_i slot object
      have push := resolved.1.covers object
      exact coversAll_cons.mpr ⟨push, coversAll_append.mpr ⟨inside, calls _ _⟩⟩
    · exact coversAll_append.mpr ⟨inside, calls _ _⟩

theorem Arguments.coversAll (arguments : Arguments) (resolved : arguments.Resolved names) :
    names.CoversAll (arguments.code context) := by
  cases arguments with
  | none => exact coversAll_nil
  | one value => exact value.coversAll resolved
  | more before comma value =>
    have first := before.coversAll resolved.1
    have second := value.coversAll resolved.2
    exact coversAll_append.mpr ⟨first, second⟩

end

mutual

theorem Statement.coversAll (first : Nat) (statement : Statement)
    (resolved : statement.Resolved names) : names.CoversAll (statement.code context first) := by
  have plain : ∀ code : List Instruction, code.all Instruction.isPlain → names.CoversAll code :=
    fun code => coversAll_of_isPlain
  have one : ∀ instruction : Instruction, instruction.isPlain → names.Covers instruction :=
    fun instruction => covers_of_isPlain
  cases statement with
  | assign keyword target equals value semicolon =>
    have right := value.coversAll context resolved.2
    exact coversAll_append.mpr ⟨right, resolved.1.covers_popCode⟩
  | assignElement keyword array opening index closing equals value semicolon =>
    have inside := index.coversAll context resolved.2.1
    have right := value.coversAll context resolved.2.2
    have address := coversAll_cons.mpr ⟨one (.apply .add) rfl,
      coversAll_append.mpr ⟨right, plain storeCode rfl⟩⟩
    exact coversAll_append.mpr ⟨resolved.1.covers_pushCode, coversAll_append.mpr ⟨inside, address⟩⟩
  | when keyword opening condition closing body =>
    have tested := condition.coversAll context resolved.1
    have inside := body.coversAll (first + 1) resolved.2
    exact coversAll_append.mpr ⟨tested, coversAll_cons.mpr ⟨one _ rfl,
      coversAll_append.mpr ⟨inside, plain _ rfl⟩⟩⟩
  | whenElse keyword opening condition closing body elseKeyword alternative =>
    have tested := condition.coversAll context resolved.1
    have inside := body.coversAll (first + 1) resolved.2.1
    have otherwise := alternative.coversAll (first + 1 + body.branches) resolved.2.2
    have later := coversAll_cons.mpr ⟨one (.jump (endLabel first)) rfl,
      coversAll_cons.mpr ⟨one (.label (elseLabel first)) rfl,
        coversAll_append.mpr ⟨otherwise, plain [.label (endLabel first)] rfl⟩⟩⟩
    exact coversAll_append.mpr ⟨tested, coversAll_cons.mpr ⟨one _ rfl,
      coversAll_append.mpr ⟨inside, later⟩⟩⟩
  | loop keyword opening condition closing body =>
    have tested := condition.coversAll context resolved.1
    have inside := body.coversAll (first + 1) resolved.2
    have back := coversAll_cons.mpr ⟨one (.jumpIfFalse (exitLabel first)) rfl,
      coversAll_append.mpr ⟨inside, plain [.jump (testLabel first), .label (exitLabel first)] rfl⟩⟩
    exact coversAll_cons.mpr ⟨one _ rfl, coversAll_append.mpr ⟨tested, back⟩⟩
  | call keyword call semicolon =>
    have inside := call.coversAll context resolved
    exact coversAll_append.mpr ⟨inside, plain _ rfl⟩
  | leave keyword semicolon => exact plain _ rfl
  | leaveWith keyword value semicolon =>
    have inside := value.coversAll context resolved
    exact coversAll_append.mpr ⟨inside, plain _ rfl⟩

theorem Block.coversAll (first : Nat) (block : Block) (resolved : block.Resolved names) :
    names.CoversAll (block.code context first) := by
  cases block with
  | braces opening statements closing => exact coversAll_codeOfAll first statements resolved

theorem coversAll_codeOfAll (first : Nat) (statements : List Statement)
    (resolved : ResolvedAll names statements) :
    names.CoversAll (codeOfAll context first statements) := by
  cases statements with
  | nil => exact coversAll_nil
  | cons statement statements =>
    have here := statement.coversAll first resolved.1
    have later := coversAll_codeOfAll (first + statement.branches) statements resolved.2
    exact coversAll_append.mpr ⟨here, later⟩

end

end

namespace VariableTable

structure OwnSlots (table : VariableTable) (kind : VariableKind) : Prop where
  below : ∀ (name : String) entry, (table.bucket kind)[name]? = some entry →
    entry.index < table.count kind
  apart : ∀ (name other : String) entry entry', (table.bucket kind)[name]? = some entry →
    (table.bucket kind)[other]? = some entry' → entry.index = entry'.index → name = other

end VariableTable

theorem toNat_toUInt16 {n : Nat} (small : n < 65536) : n.toUInt16.toNat = n :=
  UInt16.toNat_ofNat_of_lt small

namespace Log

variable {log : Log} {kind : VariableKind}

theorem index_toNat (few : (log.names kind).length < 65536) {name : String} {entry : Variable}
    (found : log.latest? kind name = some entry) :
    entry.index.toNat = slotIn (log.names kind) name := by
  obtain ⟨_, member, index⟩ := latest?_eq found
  have small := slotIn_lt_length member
  rw [index, toNat_toUInt16 (by omega)]

theorem count_toNat (few : (log.names kind).length < 65536) :
    (log.count kind).toUInt16.toNat = (log.names kind).toFinset.card := by
  have le := List.toFinset_card_le (log.names kind)
  exact toNat_toUInt16 (by rw [count]; omega)

theorem index_lt_count (few : (log.names kind).length < 65536) (nodup : (log.names kind).Nodup)
    {name : String} {entry : Variable} (found : log.latest? kind name = some entry) :
    entry.index < (log.count kind).toUInt16 := by
  rw [UInt16.lt_iff_toNat_lt, index_toNat few found, count_toNat few]
  exact (ownSlots_of_nodup nodup).below name (latest?_eq found).2.1

end Log

namespace VariableTable.Records

variable {table : VariableTable} {log : Log} {kind : VariableKind}

theorem ownSlots_iff (records : table.Records log) (few : (log.names kind).length < 65536) :
    table.OwnSlots kind ↔ (log.names kind).Nodup := by
  have entries : ∀ name ∈ log.names kind, ∃ entry, log.latest? kind name = some entry := by
    intro name member
    exact Option.isSome_iff_exists.mp (Log.latest?_isSome.mpr member)
  rw [← ownSlots_iff_nodup]
  constructor
  · intro own
    refine ⟨?_, ?_⟩
    · intro name member
      obtain ⟨entry, found⟩ := entries name member
      have below := own.below name entry (by rw [records.latest, found])
      rw [records.count, UInt16.lt_iff_toNat_lt, Log.index_toNat few found,
        Log.count_toNat few] at below
      exact below
    · intro name member other memberOther same
      obtain ⟨entry, found⟩ := entries name member
      obtain ⟨entry', found'⟩ := entries other memberOther
      apply own.apart name other entry entry' (by rw [records.latest, found])
        (by rw [records.latest, found'])
      rw [← UInt16.toNat_inj, Log.index_toNat few found, Log.index_toNat few found', same]
  · intro own
    have nodup := nodup_of_ownSlots own
    refine ⟨?_, ?_⟩
    · intro name entry found
      rw [records.latest] at found
      rw [records.count]
      exact Log.index_lt_count few nodup found
    · intro name other entry entry' found found' same
      rw [records.latest] at found found'
      apply own.apart name (Log.latest?_eq found).2.1 other (Log.latest?_eq found').2.1
      rw [← Log.index_toNat few found, ← Log.index_toNat few found', same]

end VariableTable.Records

def Accessed (code : List Instruction) (kind : VariableKind) (index : UInt16) : Prop :=
  ∃ instruction ∈ code, instruction.Accesses kind index

/-- The number of arguments of a subroutine. A method has one more than it declares. -/
def Subroutine.argumentCount (subroutine : Subroutine) : Nat :=
  match subroutine.kind with
  | .method => subroutine.parameters.length + 1
  | .ctor | .function => subroutine.parameters.length

namespace ClassDec

variable {declaration : ClassDec} {subroutine : Subroutine}

theorem length_names_argument :
    ((declaration.log subroutine).names .argument).length = subroutine.argumentCount := by
  have ofClass : declaration.declared.filter (fun new => new.kind = .argument) = [] := by
    apply List.filter_eq_nil_iff.mpr
    intro new member isArgument
    have scope := declaration.scope_of_declared member
    rw [of_decide_eq_true isArgument] at scope
    cases scope
  have locals : (subroutine.body.locals.flatMap (VariableDec.declaredBy
      VariableKind.ofLocalKeyword?)).filter (fun new => new.kind = .argument) = [] := by
    apply List.filter_eq_nil_iff.mpr
    intro new member isArgument
    have isLocal := ParseState.scope_of_locals member
    rw [of_decide_eq_true isArgument] at isLocal
    cases isLocal
  have parameters : (subroutine.parameters.map Parameter.declared).filter
      (fun new => new.kind = .argument) = subroutine.parameters.map Parameter.declared := by
    apply List.filter_eq_self.mpr
    intro new member
    obtain ⟨parameter, _, rfl⟩ := List.mem_map.mp member
    rfl
  simp only [Log.names, log, Subroutine.declared, List.filter_append, List.filter_reverse, ofClass,
    locals, parameters, List.length_map, List.length_append, List.length_reverse, List.length_nil]
  cases kind : subroutine.kind <;>
    simp [SubroutineKind.declared, Subroutine.argumentCount, kind, Nat.add_comm]

theorem accessed_prologue {kind : SubroutineKind} {fieldCount : UInt16} {instruction : Instruction}
    (member : instruction ∈ kind.prologue fieldCount) {ofKind : VariableKind} {index : UInt16}
    (accesses : instruction.Accesses ofKind index) :
    kind = .method ∧ ofKind = .argument ∧ index = 0 := by
  have plain : ∀ code : List Instruction, code.all Instruction.isPlain → instruction ∉ code := by
    intro code plain inside
    have isPlain := List.all_eq_true.mp plain instruction inside
    exact Instruction.not_accesses_of_isPlain isPlain ofKind index accesses
  cases kind with
  | ctor => exact absurd member (plain _ rfl)
  | function => cases member
  | method =>
    rcases List.mem_cons.mp member with rfl | member
    · rcases accesses with same | same
      · cases ofKind <;> simp_all [Segment.ofVariable]
      · cases same
    · exact absurd member (plain _ rfl)

theorem accessed_bodyCode (resolved : ResolvedAll (declaration.tableIn subroutine)
      subroutine.body.statements) {kind : VariableKind} {index : UInt16}
    (accessed : Accessed (declaration.bodyCode subroutine) kind index) :
    (∃ name entry, (declaration.log subroutine).latest? kind name = some entry ∧
      entry.index = index) ∨ (subroutine.kind = .method ∧ kind = .argument ∧ index = 0) := by
  obtain ⟨instruction, member, accesses⟩ := accessed
  rcases List.mem_append.mp member with member | member
  · exact .inr (accessed_prologue member accesses)
  · have covers := coversAll_codeOfAll (declaration.context subroutine) 0 _ resolved instruction member
    obtain ⟨name, entry, found, sameKind, sameIndex⟩ := covers.known kind index accesses
    rw [(declaration.tableIn_records subroutine).lookup?] at found
    exact .inl ⟨name, entry, sameKind ▸ Log.latest?_of_lookup? found, sameIndex⟩

variable (resolved : ResolvedAll (declaration.tableIn subroutine) subroutine.body.statements)
  (few : ∀ kind, ((declaration.log subroutine).names kind).length < 65536)

include resolved few

theorem argument_lt {index : UInt16}
    (accessed : Accessed (declaration.bodyCode subroutine) .argument index) :
    index.toNat < subroutine.argumentCount := by
  rcases accessed_bodyCode resolved accessed with ⟨name, entry, found, rfl⟩ | ⟨isMethod, _, rfl⟩
  · have small := slotIn_lt_length (Log.latest?_eq found).2.1
    rw [Log.index_toNat (few .argument) found]
    rwa [length_names_argument] at small
  · simp [Subroutine.argumentCount, isMethod]

theorem local_lt (nodup : ((declaration.log subroutine).names .localVar).Nodup) {index : UInt16}
    (accessed : Accessed (declaration.bodyCode subroutine) .localVar index) :
    index < declaration.localCount subroutine := by
  rcases accessed_bodyCode resolved accessed with ⟨name, entry, found, rfl⟩ | ⟨_, other, _⟩
  · exact Log.index_lt_count (few .localVar) nodup found
  · cases other

theorem field_lt (nodup : ((declaration.log subroutine).names .field).Nodup) {index : UInt16}
    (accessed : Accessed (declaration.bodyCode subroutine) .field index) :
    index < declaration.fieldCount := by
  rcases accessed_bodyCode resolved accessed with ⟨name, entry, found, rfl⟩ | ⟨_, other, _⟩
  · have below := Log.index_lt_count (few .field) nodup found
    rwa [Log.count, names_log_field] at below
  · cases other

end ClassDec

theorem slot_ne_of_lookup? {declaration : ClassDec} {subroutine : Subroutine}
    (few : ∀ kind, ((declaration.log subroutine).names kind).length < 65536)
    (nodup : ∀ kind, ((declaration.log subroutine).names kind).Nodup) {name other : String}
    {entry entry' : Variable} (differ : name ≠ other)
    (found : (declaration.tableIn subroutine).lookup? name = some entry)
    (found' : (declaration.tableIn subroutine).lookup? other = some entry') :
    entry.slot ≠ entry'.slot := by
  have records := declaration.tableIn_records subroutine
  intro same
  obtain ⟨sameKind, sameIndex⟩ := Slot.mk.inj same
  rw [records.lookup?] at found found'
  have latest := Log.latest?_of_lookup? found
  have latest' := Log.latest?_of_lookup? found'
  rw [← sameKind, ← records.latest] at latest'
  rw [← records.latest] at latest
  have own := (records.ownSlots_iff (few entry.kind)).mpr (nodup entry.kind)
  exact differ (own.apart name other entry entry' latest latest' sameIndex)

/-- The slots in the code of a subroutine. Arguments are always among those of the subroutine. The
variables of a kind have slots of their own below their number if and only if no name is declared twice
with that kind. Then the code stays below the number of locals in the function header, and below the
number of fields that constructors make room for, and different names never share a slot. -/
theorem slots_of_subroutine {tokens : List Token} {declaration : ClassDec} {s : ParseState}
    (accepted : parse tokens = .ok declaration s) {subroutine : Subroutine}
    (member : subroutine ∈ declaration.subroutines)
    (few : ∀ kind, ((declaration.log subroutine).names kind).length < 65536) :
    (.function (declaration.functionName subroutine) (declaration.localCount subroutine) ::
      declaration.bodyCode subroutine) <:+: s.instructions ∧
    (∀ index, Accessed (declaration.bodyCode subroutine) .argument index →
      index.toNat < subroutine.argumentCount) ∧
    (∀ kind, (declaration.tableIn subroutine).OwnSlots kind ↔
      ((declaration.log subroutine).names kind).Nodup) ∧
    (((declaration.log subroutine).names .localVar).Nodup →
      ∀ index, Accessed (declaration.bodyCode subroutine) .localVar index →
        index < declaration.localCount subroutine) ∧
    (((declaration.log subroutine).names .field).Nodup →
      ∀ index, Accessed (declaration.bodyCode subroutine) .field index →
        index < declaration.fieldCount) ∧
    (∀ other ∈ declaration.subroutines, other.kind = .ctor →
      [.push .constant declaration.fieldCount, .call "Memory.alloc" 1, .pop .pointer 0] <+:
        declaration.bodyCode other) ∧
    ((∀ kind, ((declaration.log subroutine).names kind).Nodup) →
      ∀ name other entry entry', name ≠ other →
        (declaration.tableIn subroutine).lookup? name = some entry →
        (declaration.tableIn subroutine).lookup? other = some entry' → entry.slot ≠ entry'.slot) := by
  have statements := resolved_statements accepted member
  have records := declaration.tableIn_records subroutine
  refine ⟨?_, ?_, ?_, ?_, ?_, ?_, ?_⟩
  · exact infix_instructions accepted member
  · exact fun index accessed => ClassDec.argument_lt statements few accessed
  · exact fun kind => records.ownSlots_iff (few kind)
  · exact fun nodup index accessed => ClassDec.local_lt statements few nodup accessed
  · exact fun nodup index accessed => ClassDec.field_lt statements few nodup accessed
  · intro other _ isCtor
    rw [ClassDec.bodyCode, isCtor]
    exact List.prefix_append _ _
  · intro nodup name other entry entry' differ found found'
    exact slot_ne_of_lookup? few nodup differ found found'

def pointTexts : List String :=
  ["class", "Point", "\x7b", "field", "int", "x", ",", "y", ";", "static", "int", "made", ";",
    "method", "int", "move", "(", "int", "by", ",", "int", "up", ")", "\x7b",
      "var", "int", "sum", ",", "old", ";", "let", "old", "=", "x", ";", "let", "x", "=", "x", "+",
        "by", ";", "let", "y", "=", "y", "+", "up", ";", "let", "made", "=", "made", "+", "1", ";",
      "let", "sum", "=", "x", "+", "y", ";", "return", "sum", "-", "old", ";", "\x7d", "\x7d"]

def fewDeclared (declaration : ClassDec) : Bool :=
  declaration.subroutines.all fun subroutine =>
    [VariableKind.static, .field, .argument, .localVar].all fun kind =>
      decide (((declaration.log subroutine).names kind).length < 65536)

theorem slots_of_point :
    ∃ declaration s subroutine, parse (lexemes pointTexts) = .ok declaration s ∧
      subroutine ∈ declaration.subroutines ∧
      (.function (declaration.functionName subroutine) (declaration.localCount subroutine) ::
        declaration.bodyCode subroutine) <:+: s.instructions ∧
      ∀ kind, (declaration.tableIn subroutine).OwnSlots kind ↔
        ((declaration.log subroutine).names kind).Nodup := by
  have passes : acceptsWith (fun declaration => !declaration.subroutines.isEmpty &&
      fewDeclared declaration) (lexemes pointTexts) := by decide +kernel
  obtain ⟨declaration, s, accepted, test⟩ := exists_of_acceptsWith passes
  rw [Bool.and_eq_true, Bool.not_eq_true'] at test
  obtain ⟨subroutine, member⟩ := List.exists_mem_of_ne_nil _ (List.isEmpty_eq_false_iff.mp test.1)
  have few : ∀ kind, ((declaration.log subroutine).names kind).length < 65536 := by
    intro kind
    have all := List.all_eq_true.mp (List.all_eq_true.mp test.2 subroutine member) kind
    exact of_decide_eq_true (all (by cases kind <;> simp))
  obtain ⟨stands, _, own, _⟩ := slots_of_subroutine accepted member few
  exact ⟨declaration, s, subroutine, accepted, member, stands, own⟩

/-- The third declaration of a local repeats the first one, and gets a slot that the function does not
have. -/
example : (match parse (lexemes ["class", "A", "\x7b", "function", "void", "f", "(", ")", "\x7b",
      "var", "int", "x", ",", "y", ",", "x", ";", "let", "x", "=", "1", ";", "return", ";",
      "\x7d", "\x7d"]) with
    | .ok _ s => s.instructions
    | .error _ _ => []) =
    [.function "A.f" 2, .push .constant 1, .pop .localVar 2, .push .constant 0, .ret] := by
  decide +kernel

end Jack
