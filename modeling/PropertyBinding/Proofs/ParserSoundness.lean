import Mathlib
import PropertyBinding.Proofs.Grammar

namespace PropertyBinding
namespace Script
namespace Parser

open Script.Derivation (yield_arrow yield_choice yield_link yield_index yield_call yield_bracketed
  yield_lastItem yield_moreItems)

/-!
# What the parser returns is derived

Each parser reads the yield of some derivation of its phrase and returns what that
derivation stands for.  The derivation is built as the parser goes: one lemma for each
parser, by induction on the bound where there is one, and last by induction on the depth of
the expressions inside.
-/

/-! ## Single tokens -/

theorem bind_eq_ok {ε α β : Type} {outcome : Except ε α} {next : α → Except ε β} {result : β} :
    (outcome >>= next) = .ok result ↔ ∃ found, outcome = .ok found ∧ next found = .ok result := by
  cases outcome with
  | error cause => simp [bind, Except.bind]
  | ok found => simp [bind, Except.bind]

theorem eat?_eq_some {punct : Punct} {tokens rest : List Token} :
    eat? punct tokens = some rest ↔ ∃ position, tokens = mark punct position :: rest := by
  constructor
  · intro found
    unfold eat? at found
    split at found
    · next first position after =>
      split at found
      · next same =>
        cases found
        exact ⟨position, by rw [same]⟩
      · cases found
    · cases found
  · rintro ⟨position, rfl⟩
    exact if_pos rfl

theorem expect_eq_ok {punct : Punct} {tokens rest : List Token} :
    expect punct tokens = .ok rest ↔ ∃ position, tokens = mark punct position :: rest := by
  rw [← eat?_eq_some, expect]
  cases eat? punct tokens <;> simp

/-- The operators at a level. -/
def operatorsAt (level : Nat) : Operators :=
  levels.getD level []

/-- The table lists the operators of each level. -/
theorem operatorsAt_eq (level : Nat) :
    operatorsAt level =
      (Infix.all.filter fun operator => operator.level = level).map
        fun operator => (operator.punct, operator.build) :=
  match level with
  | 0 | 1 | 2 | 3 | 4 | 5 => rfl
  | _ + 6 => rfl

theorem infix_of_operatorAt? {level : Nat} {tokens rest : List Token}
    {build : Expr → Expr → Expr}
    (found : operatorAt? (operatorsAt level) tokens = some (build, rest)) :
    ∃ operator : Infix, ∃ position, operator.level = level ∧ operator.build = build ∧
      tokens = mark operator.punct position :: rest := by
  unfold operatorAt? at found
  split at found
  · next first position after =>
    obtain ⟨⟨punct, other⟩, listed, same⟩ := Option.map_eq_some_iff.mp found
    cases same
    have written : punct = first := by simpa using List.find?_some listed
    have member := List.mem_of_find?_eq_some listed
    rw [operatorsAt_eq] at member
    obtain ⟨operator, chosen, same⟩ := List.mem_map.mp member
    cases same
    refine ⟨operator, position, ?_, rfl, by rw [written]⟩
    simpa using (List.mem_filter.mp chosen).2
  · cases found

/-- An operator at its level is found. -/
theorem operatorAt?_punct {level : Nat} {operator : Infix} (at_level : operator.level = level)
    (position : Position) (rest : List Token) :
    operatorAt? (operatorsAt level) (mark operator.punct position :: rest) =
      some (operator.build, rest) := by
  subst at_level
  rcases operator with operator | _ | _
  · cases operator <;> rfl
  · rfl
  · rfl

/-! ## Phrases -/

/-- The parser of the operands at a level. -/
def operandAt (nested : Parse Expr) : Nat → Parse Expr
  | 0 => unary nested
  | level + 1 => chain (operatorsAt level) (operandAt nested level)

theorem operand_eq (nested : Parse Expr) : operand nested = operandAt nested 6 :=
  rfl

/-- What was read is the yield of a derivation, and what was found is what it stands for. -/
def Derived (url : String) (phrase : Phrase) (tokens : List Token) (found : Meaning phrase)
    (rest : List Token) : Prop :=
  ∃ derivation : Derivation phrase,
    derivation.yield ++ rest = tokens ∧ derivation.tree url = found

/-- A parser that returns only what is derived. -/
def Sound (url : String) (phrase : Phrase) (parse : Parse (Meaning phrase)) : Prop :=
  ∀ tokens found rest, parse tokens = .ok (found, rest) → Derived url phrase tokens found rest

section Sound

variable {url : String}

theorem derived_chainFrom {level : Nat} {operand : Parse Expr}
    (sound : Sound url (.operand level) operand) {bound : Nat} {left expr : Expr}
    {tokens rest : List Token}
    (read : chainFrom (operatorsAt level) operand bound left tokens = .ok (expr, rest)) :
    ∃ links : Derivation (.links level),
      links.yield ++ rest = tokens ∧ links.tree url left = expr := by
  induction bound generalizing left tokens with
  | zero =>
      cases read
      exact ⟨.unlinked, rfl, rfl⟩
  | succ bound step =>
      rw [chainFrom] at read
      split at read
      · cases read
        exact ⟨.unlinked, rfl, rfl⟩
      · next build after found =>
        obtain ⟨operator, position, at_level, rfl, rfl⟩ := infix_of_operatorAt? found
        obtain ⟨⟨right, last⟩, first, later⟩ := bind_eq_ok.mp read
        obtain ⟨operand', rfl, rfl⟩ := sound after right last first
        obtain ⟨links, rfl, rfl⟩ := step later
        exact ⟨.link operator at_level position operand' links, by simp [yield_link], rfl⟩

theorem sound_chain {level : Nat} {operand : Parse Expr}
    (sound : Sound url (.operand level) operand) :
    Sound url (.operand (level + 1)) (chain (operatorsAt level) operand) := by
  intro tokens expr rest read
  obtain ⟨⟨left, after⟩, first, later⟩ := bind_eq_ok.mp read
  obtain ⟨operand', rfl, rfl⟩ := sound tokens left after first
  obtain ⟨links, rfl, rfl⟩ := derived_chainFrom sound later
  exact ⟨.chain operand' links, List.append_assoc .., rfl⟩

theorem punct_of_unaryOp? {punct : Punct} {operator : UnaryOp}
    (found : unaryOp? punct = some operator) : operator.punct = punct := by
  cases punct <;> cases found <;> rfl

section Nested

variable {nested : Parse Expr} (sound : Sound url .expression nested)
include sound

theorem sound_itemsFrom (bracket : Bracket) (bound : Nat) :
    Sound url (.itemList bracket) (itemsFrom nested bracket.close bound) := by
  induction bound with
  | zero =>
      intro tokens found rest impossible
      cases impossible
  | succ bound step =>
      intro tokens found rest read
      obtain ⟨⟨item, after⟩, first, later⟩ := bind_eq_ok.mp read
      obtain ⟨item', rfl, rfl⟩ := sound tokens item after first
      dsimp only at later
      split at later
      · next last closes =>
        cases later
        obtain ⟨position, rfl⟩ := eat?_eq_some.mp closes
        exact ⟨.lastItem item' position, by simp [yield_lastItem], rfl⟩
      · obtain ⟨behind, comma, later⟩ := bind_eq_ok.mp later
        obtain ⟨⟨items, last⟩, others, later⟩ := bind_eq_ok.mp later
        obtain ⟨position, rfl⟩ := expect_eq_ok.mp comma
        obtain ⟨items', rfl, rfl⟩ := step behind items last others
        cases later
        exact ⟨.moreItems item' position items', by simp [yield_moreItems], rfl⟩

theorem sound_items (bracket : Bracket) :
    Sound url (.items bracket) (items nested bracket.close) := by
  intro tokens found rest read
  rw [items] at read
  split at read
  · next after closes =>
    cases read
    obtain ⟨position, rfl⟩ := eat?_eq_some.mp closes
    exact ⟨.noItems position, rfl, rfl⟩
  · obtain ⟨list, rfl, rfl⟩ := sound_itemsFrom sound bracket _ tokens found rest read
    exact ⟨.someItems list, rfl, rfl⟩

theorem sound_primary : Sound url .primary (primary nested) := by
  intro tokens found rest read
  unfold primary at read
  split at read
  · next value position after =>
    cases read
    exact ⟨.number value position, rfl, rfl⟩
  · next value position after =>
    cases read
    exact ⟨.string value position, rfl, rfl⟩
  · next name position after =>
    cases read
    exact ⟨.name name position, rfl, rfl⟩
  · next position after =>
    obtain ⟨⟨inside, behind⟩, first, later⟩ := bind_eq_ok.mp read
    obtain ⟨last, closes, later⟩ := bind_eq_ok.mp later
    obtain ⟨inner', rfl, rfl⟩ := sound after inside behind first
    obtain ⟨closing, rfl⟩ := expect_eq_ok.mp closes
    cases later
    exact ⟨.bracketed position inner' closing, by simp [yield_bracketed], rfl⟩
  · next position after =>
    obtain ⟨⟨inside, behind⟩, first, later⟩ := bind_eq_ok.mp read
    obtain ⟨inner', rfl, rfl⟩ := sound_items sound .square after inside behind first
    cases later
    exact ⟨.array position inner', rfl, rfl⟩
  · cases read

theorem derived_suffixesFrom {bound : Nat} {expr found : Expr} {tokens rest : List Token}
    (read : suffixesFrom nested bound expr tokens = .ok (found, rest)) :
    ∃ suffixes : Derivation .suffixes,
      suffixes.yield ++ rest = tokens ∧ suffixes.tree url expr = found := by
  induction bound generalizing expr tokens with
  | zero =>
      cases read
      exact ⟨.unsuffixed, rfl, rfl⟩
  | succ bound step =>
      unfold suffixesFrom at read
      split at read
      · next dot after =>
        split at read
        · next name position last =>
          obtain ⟨suffixes, rfl, rfl⟩ := step read
          exact ⟨.member dot name position suffixes, rfl, rfl⟩
        · cases read
      · next opening after =>
        obtain ⟨⟨key, behind⟩, first, later⟩ := bind_eq_ok.mp read
        obtain ⟨last, closes, later⟩ := bind_eq_ok.mp later
        obtain ⟨key', rfl, rfl⟩ := sound after key behind first
        obtain ⟨closing, rfl⟩ := expect_eq_ok.mp closes
        obtain ⟨suffixes, rfl, rfl⟩ := step later
        exact ⟨.index opening key' closing suffixes, by simp [yield_index], rfl⟩
      · next opening after =>
        obtain ⟨⟨arguments, behind⟩, first, later⟩ := bind_eq_ok.mp read
        obtain ⟨arguments', rfl, rfl⟩ := sound_items sound .round after arguments behind first
        obtain ⟨suffixes, rfl, rfl⟩ := step later
        exact ⟨.call opening arguments' suffixes, by simp [yield_call], rfl⟩
      · cases read
        exact ⟨.unsuffixed, rfl, rfl⟩

theorem sound_suffixed : Sound url .suffixed (suffixed nested) := by
  intro tokens found rest read
  obtain ⟨⟨expr, after⟩, first, later⟩ := bind_eq_ok.mp read
  obtain ⟨inner, rfl, rfl⟩ := sound_primary sound tokens expr after first
  obtain ⟨suffixes, rfl, rfl⟩ := derived_suffixesFrom sound later
  exact ⟨.suffixed inner suffixes, List.append_assoc .., rfl⟩

theorem sound_unary : Sound url (.operand 0) (unary nested) := by
  have bare : ∀ tokens found rest, suffixed nested tokens = .ok (found, rest) →
      Derived url (.operand 0) tokens found rest := by
    intro tokens found rest read
    obtain ⟨inner, same, stands⟩ := sound_suffixed sound tokens found rest read
    exact ⟨.bare inner, same, stands⟩
  intro tokens
  induction tokens with
  | nil => exact bare []
  | cons token after step =>
      obtain ⟨kind, position⟩ := token
      intro found rest read
      cases kind with
      | punct punct =>
          simp only [unary] at read
          split at read
          · next operator known =>
            obtain ⟨⟨operand, behind⟩, first, later⟩ := bind_eq_ok.mp read
            obtain ⟨operand', rfl, rfl⟩ := step operand behind first
            cases later
            rw [← punct_of_unaryOp? known]
            exact ⟨.unary operator position operand', rfl, rfl⟩
          · exact bare _ found rest read
      | number value => exact bare _ found rest read
      | string value => exact bare _ found rest read
      | name name => exact bare _ found rest read

theorem sound_operandAt (level : Nat) : Sound url (.operand level) (operandAt nested level) := by
  induction level with
  | zero => exact sound_unary sound
  | succ level step => exact sound_chain step

theorem sound_conditional : Sound url .conditional (conditional nested) := by
  intro tokens found rest read
  obtain ⟨⟨test, after⟩, first, later⟩ := bind_eq_ok.mp read
  rw [operand_eq] at first
  obtain ⟨test', rfl, rfl⟩ := sound_operandAt sound 6 tokens test after first
  dsimp only at later
  split at later
  · cases later
    exact ⟨.test test', rfl, rfl⟩
  · next behind asks =>
    obtain ⟨question, rfl⟩ := eat?_eq_some.mp asks
    obtain ⟨⟨yes, middle⟩, second, later⟩ := bind_eq_ok.mp later
    obtain ⟨last, colon, later⟩ := bind_eq_ok.mp later
    obtain ⟨⟨no, finish⟩, third, later⟩ := bind_eq_ok.mp later
    obtain ⟨yes', rfl, rfl⟩ := sound behind yes middle second
    obtain ⟨position, rfl⟩ := expect_eq_ok.mp colon
    obtain ⟨no', rfl, rfl⟩ := sound last no finish third
    cases later
    exact ⟨.choice test' question yes' position no', by simp [yield_choice], rfl⟩

end Nested

/-! ## Functions -/

theorem names_of_parameters? {tokens rest : List Token} {found : List String}
    (read : parameters? tokens = some (found, rest)) :
    ∃ names : Names, ∃ closing, names.yield ++ mark .closeParen closing :: rest = tokens ∧
      names.names = found := by
  fun_induction parameters? tokens generalizing found with
  | case1 name position closing after =>
      cases read
      exact ⟨.one name position, closing, rfl, rfl⟩
  | case2 name position comma after step =>
      obtain ⟨⟨others, last⟩, later, same⟩ := Option.map_eq_some_iff.mp read
      cases same
      obtain ⟨names, closing, rfl, rfl⟩ := step later
      exact ⟨.more name position comma names, closing, rfl, rfl⟩
  | case3 => cases read

theorem head_of_arrowHead? {tokens rest : List Token} {found : List String}
    (read : arrowHead? tokens = some (found, rest)) :
    ∃ head : ArrowHead, head.yield ++ rest = tokens ∧ head.parameters = found := by
  unfold arrowHead? at read
  split at read
  · next name position after =>
    obtain ⟨last, arrow, same⟩ := Option.map_eq_some_iff.mp read
    cases same
    obtain ⟨at', rfl⟩ := eat?_eq_some.mp arrow
    exact ⟨.bare name position at', rfl, rfl⟩
  · next opening closing after =>
    obtain ⟨last, arrow, same⟩ := Option.map_eq_some_iff.mp read
    cases same
    obtain ⟨at', rfl⟩ := eat?_eq_some.mp arrow
    exact ⟨.none opening closing at', rfl, rfl⟩
  · next opening after _ =>
    obtain ⟨⟨others, behind⟩, first, later⟩ := Option.bind_eq_some_iff.mp read
    obtain ⟨last, arrow, same⟩ := Option.map_eq_some_iff.mp later
    cases same
    obtain ⟨names, closing, rfl, rfl⟩ := names_of_parameters? first
    obtain ⟨at', rfl⟩ := eat?_eq_some.mp arrow
    exact ⟨.some opening names closing at', by simp [ArrowHead.yield], rfl⟩
  · cases read

/-- A head begins where the function does. -/
theorem position_of_yield {head : ArrowHead} {rest tail : List Token} {token : Token}
    (same : head.yield ++ rest = token :: tail) : token.position = head.position := by
  cases head <;> cases same <;> rfl

theorem sound_expressionWithin (bound : Nat) :
    Sound url .expression (expressionWithin url bound) := by
  induction bound with
  | zero =>
      intro tokens found rest impossible
      cases impossible
  | succ bound step =>
      intro tokens found rest read
      unfold expressionWithin at read
      split at read
      · next parameters after kind position tail head =>
        obtain ⟨⟨body, last⟩, first, later⟩ := bind_eq_ok.mp read
        obtain ⟨head', same, rfl⟩ := head_of_arrowHead? head
        obtain ⟨body', rfl, rfl⟩ := step after body last first
        cases later
        have begins : position = head'.position := position_of_yield same
        refine ⟨.arrow head' body', ?_, ?_⟩
        · rw [← same, yield_arrow, List.append_assoc]
        · rw [Derivation.tree, begins]
      · obtain ⟨inner, same, stands⟩ := sound_conditional step _ found rest read
        exact ⟨.plain inner, same, stands⟩

end Sound

end Parser
end Script
end PropertyBinding
