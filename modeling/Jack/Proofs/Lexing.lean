import Jack.Proofs.Token.Split

namespace Jack

def Text.Lies (whole : List Char) (start stop : Nat) (part after : List Char) : Prop :=
  ∃ before, whole = before ++ (part ++ after) ∧ byteWidth before = start ∧
    byteWidth (before ++ part) = stop

def stretches (start finish : Nat) : List Token → List (Nat × Nat)
  | [] => [(start, finish)]
  | token :: tokens => (start, token.start) :: stretches token.stop finish tokens

/-- A text from an offset on consists of tokens, in order and apart, and of text that separates them,
and no token could be longer. -/
structure MaximalMunch (whole : List Char) (offset : Nat) (tokens : List Token) : Prop where
  covers : ∀ token ∈ tokens,
    ∃ after, Text.Lies whole token.start token.stop token.text.toList after ∧
      token.EndsBefore after
  nonempty : ∀ token ∈ tokens, token.start < token.stop
  ordered : tokens.Pairwise fun first later => first.stop ≤ later.start
  separated : ∀ stretch ∈ stretches offset (Text.byteWidth whole) tokens,
    ∃ gap after, Text.Lies whole stretch.1 stretch.2 gap after ∧ Separates gap after

theorem Text.append_inj_of_byteWidth {first first' rest rest' : List Char}
    (same : first ++ rest = first' ++ rest') (width : byteWidth first = byteWidth first') :
    first = first' ∧ rest = rest' := by
  induction first generalizing first' with
  | nil =>
    cases first' with
    | nil => exact ⟨rfl, same⟩
    | cons c cs =>
      have := byteWidth_pos c cs
      rw [byteWidth_nil] at width
      omega
  | cons c cs ih =>
    cases first' with
    | nil =>
      have := byteWidth_pos c cs
      rw [byteWidth_nil] at width
      omega
    | cons d ds =>
      obtain ⟨rfl, tails⟩ := List.cons.inj same
      rw [byteWidth_cons, byteWidth_cons] at width
      obtain ⟨rfl, rfl⟩ := ih tails (by omega)
      exact ⟨rfl, rfl⟩

theorem Text.Lies.of_append {before cs part after : List Char} {start stop : Nat}
    (lies : Lies (before ++ cs) start stop part after) (here : byteWidth before = start) :
    cs = part ++ after ∧ start + byteWidth part = stop := by
  obtain ⟨before', whole, width, rfl⟩ := lies
  obtain ⟨rfl, rfl⟩ := append_inj_of_byteWidth whole (here.trans width.symm)
  exact ⟨rfl, by rw [byteWidth_append, width]⟩

theorem Text.lies_append (before part after : List Char) :
    Lies (before ++ (part ++ after)) (byteWidth before) (byteWidth before + byteWidth part) part
      after :=
  ⟨before, rfl, rfl, by rw [byteWidth_append]⟩

theorem MaximalMunch.munches {before cs : List Char} {offset : Nat} {tokens : List Token}
    (munch : MaximalMunch (before ++ cs) offset tokens) (here : Text.byteWidth before = offset) :
    Munches offset cs tokens := by
  induction tokens generalizing before cs offset with
  | nil =>
    obtain ⟨gap, after, lies, separates⟩ := munch.separated _ (.head _)
    obtain ⟨rfl, width⟩ := lies.of_append here
    have ended : after = [] := by
      cases after with
      | nil => rfl
      | cons c after =>
        have := Text.byteWidth_pos c after
        simp only [Text.byteWidth_append] at width
        omega
    subst ended
    rw [List.append_nil]
    exact .none separates
  | cons token tokens ih =>
    obtain ⟨gap, _, between, separates⟩ := munch.separated _ (.head _)
    obtain ⟨rfl, start⟩ := between.of_append here
    obtain ⟨after, lies, ends⟩ := munch.covers token (.head _)
    rw [← List.append_assoc] at lies
    obtain ⟨rfl, stop⟩ := lies.of_append (by rw [Text.byteWidth_append, here]; exact start)
    have rest : MaximalMunch ((before ++ (gap ++ token.text.toList)) ++ after) token.stop tokens := by
      rw [List.append_assoc, List.append_assoc]
      exact ⟨fun later member => munch.covers later (.tail _ member),
        fun later member => munch.nonempty later (.tail _ member), munch.ordered.of_cons,
        fun stretch member => munch.separated stretch (.tail _ member)⟩
    refine .next separates start.symm stop.symm ends (ih rest ?_)
    simp only [Text.byteWidth_append]
    omega

theorem Munches.le_start {offset : Nat} {cs : List Char} {tokens : List Token}
    (munches : Munches offset cs tokens) : ∀ token ∈ tokens, offset ≤ token.start := by
  induction munches with
  | none => simp
  | next _ start stop _ _ ih =>
    rw [List.forall_mem_cons]
    refine ⟨by omega, fun later member => ?_⟩
    have := ih later member
    omega

theorem Munches.maximalMunch {before cs : List Char} {offset : Nat} {tokens : List Token}
    (munches : Munches offset cs tokens) (here : Text.byteWidth before = offset) :
    MaximalMunch (before ++ cs) offset tokens := by
  induction munches generalizing before with
  | @none offset gap separates =>
    refine ⟨by simp, by simp, .nil, ?_⟩
    simp only [stretches, List.forall_mem_singleton]
    have lies := Text.lies_append before gap []
    rw [← Text.byteWidth_append, here, List.append_nil] at lies
    exact ⟨gap, [], lies, separates⟩
  | @next offset gap after token tokens separates start stop ends rest ih =>
    have width : Text.byteWidth (before ++ (gap ++ token.text.toList)) = token.stop := by
      simp only [Text.byteWidth_append]
      omega
    have later := ih width
    rw [List.append_assoc, List.append_assoc] at later
    have between := Text.lies_append before gap (token.text.toList ++ after)
    have covered := Text.lies_append (before ++ gap) token.text.toList after
    rw [List.append_assoc, Text.byteWidth_append, here, ← start, ← stop] at covered
    rw [here, ← start] at between
    refine ⟨?_, ?_, ?_, ?_⟩
    · exact List.forall_mem_cons.mpr ⟨⟨after, covered, ends⟩, later.covers⟩
    · refine List.forall_mem_cons.mpr ⟨?_, later.nonempty⟩
      cases spelled : token.text.toList with
      | nil => exact absurd spelled token.chars_ne_nil
      | cons c cs =>
        have := Text.byteWidth_pos c cs
        rw [spelled] at stop
        omega
    · exact .cons rest.le_start later.ordered
    · exact List.forall_mem_cons.mpr ⟨⟨gap, _, between, separates⟩, later.separated⟩

theorem maximalMunch_iff {source : String} {tokens : List Token} :
    MaximalMunch source.toList 0 tokens ↔ tokenize source = .ok tokens := by
  rw [tokenize_eq_ok_iff, ← List.nil_append source.toList]
  exact ⟨fun munch => munch.munches Text.byteWidth_nil,
    fun munches => munches.maximalMunch Text.byteWidth_nil⟩

theorem tokenize_is_maximal_munch {source : String} {tokens : List Token}
    (split : tokenize source = .ok tokens) :
    MaximalMunch source.toList 0 tokens ∧
      ∀ others, MaximalMunch source.toList 0 others → others = tokens := by
  refine ⟨maximalMunch_iff.mpr split, ?_⟩
  intro others munch
  have found := maximalMunch_iff.mp munch
  rw [split] at found
  exact (Except.ok.inj found).symm

/-- Quotes in a comment, the opening of a comment in a string, a comment that closes late, a blank
outside of ASCII, and a quotient. -/
def tangledSource : String :=
  "let\u00a0x1=\"/*//\"/**//*/\"*/;// 7 */\na/b"

theorem tokenize_of_tangled : ∃ tokens, tokenize tangledSource = .ok tokens ∧
    tokens.map (fun token => (token.text, token.start, token.stop)) =
      [("let", 0, 3), ("x1", 5, 7), ("=", 7, 8), ("\"/*//\"", 8, 14), (";", 24, 25), ("a", 33, 34),
        ("/", 34, 35), ("b", 35, 36)] ∧
    MaximalMunch tangledSource.toList 0 tokens ∧
      ∀ others, MaximalMunch tangledSource.toList 0 others → others = tokens := by
  have finds : (tokenize tangledSource).toOption.map
      (·.map fun token => (token.text, token.start, token.stop)) =
        some [("let", 0, 3), ("x1", 5, 7), ("=", 7, 8), ("\"/*//\"", 8, 14), (";", 24, 25),
          ("a", 33, 34), ("/", 34, 35), ("b", 35, 36)] := by
    decide +kernel
  cases split : tokenize tangledSource with
  | error fault =>
    rw [split] at finds
    cases finds
  | ok tokens =>
    rw [split] at finds
    exact ⟨tokens, rfl, Option.some.inj finds, tokenize_is_maximal_munch split⟩

end Jack
