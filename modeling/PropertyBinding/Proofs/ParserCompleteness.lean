import Mathlib
import PropertyBinding.Proofs.ParserSoundness
import PropertyBinding.Proofs.Unambiguity

namespace PropertyBinding
namespace Script
namespace Parser

open Script.Derivation (yield_arrow yield_choice yield_unary yield_chain yield_link yield_suffixed
  yield_member yield_index yield_call yield_bracketed yield_array yield_lastItem yield_moreItems)

/-!
# What is derived is accepted

The parser accepts the yield of every derivation, with anything behind it that does not go on
from the phrase, and returns what the derivation stands for.  One lemma for each rule of the
grammar, and the bounds of the parser are never reached: every expression inside another
phrase is shorter than that phrase, and every link, suffix and item takes at least a token.
-/

/-! ## What comes first -/

theorem eat?_mark (punct : Punct) (position : Position) (rest : List Token) :
    eat? punct (mark punct position :: rest) = some rest :=
  if_pos rfl

theorem expect_mark (punct : Punct) (position : Position) (rest : List Token) :
    expect punct (mark punct position :: rest) = .ok rest :=
  expect_eq_ok.mpr ⟨position, rfl⟩

theorem eat?_of_stops {limit rank : Nat} {punct : Punct} {rest : List Token}
    (stops : Stops limit rest) (found : rank? punct = some rank) (near : rank ≤ limit) :
    eat? punct rest = none := by
  cases eaten : eat? punct rest with
  | none => rfl
  | some after =>
      obtain ⟨position, rfl⟩ := eat?_eq_some.mp eaten
      exact absurd (stops.rank_lt found) (Nat.not_lt.mpr near)

theorem operatorAt?_of_stops {level : Nat} {rest : List Token} (stops : Stops (level + 1) rest) :
    operatorAt? (operatorsAt level) rest = none := by
  cases found : operatorAt? (operatorsAt level) rest with
  | none => rfl
  | some operator =>
      obtain ⟨build, after⟩ := operator
      obtain ⟨operator, position, at_level, -, rfl⟩ := infix_of_operatorAt? found
      exact absurd rfl (unlinked_ne_link at_level stops)

theorem eat?_close_of_begun {tokens : List Token} (begun : Begun tokens) (bracket : Bracket) :
    eat? bracket.close tokens = none := by
  cases eaten : eat? bracket.close tokens with
  | none => rfl
  | some after =>
      obtain ⟨position, same⟩ := eat?_eq_some.mp eaten
      exact absurd same (begun.ne_close bracket position after)

/-! ## Heads -/

theorem parameters?_names (names : Names) (closing : Position) (rest : List Token) :
    parameters? (names.yield ++ mark .closeParen closing :: rest) = some (names.names, rest) := by
  induction names with
  | one name position => rfl
  | more name position comma others step =>
      have more : parameters? (⟨.name name, position⟩ :: mark .comma comma ::
          (others.yield ++ mark .closeParen closing :: rest)) =
          (parameters? (others.yield ++ mark .closeParen closing :: rest)).map
            fun read => (name :: read.1, read.2) := rfl
      rw [Names.yield, List.cons_append, List.cons_append, more, step]
      rfl

theorem arrowHead?_head (head : ArrowHead) (rest : List Token) :
    arrowHead? (head.yield ++ rest) = some (head.parameters, rest) := by
  cases head with
  | bare name position arrow => rfl
  | none opening closing arrow => rfl
  | some opening names closing arrow =>
      have whole : arrowHead? (mark .openParen opening ::
          (names.yield ++ mark .closeParen closing :: mark .arrow arrow :: rest)) =
          (parameters? (names.yield ++ mark .closeParen closing :: mark .arrow arrow :: rest)).bind
            fun read => (eat? .arrow read.2).map fun after => (read.1, after) := by
        cases names <;> rfl
      simp only [ArrowHead.yield, List.cons_append, List.append_assoc, List.nil_append]
      rw [whole, parameters?_names]
      rfl

theorem arrowHead?_conditional (conditional : Derivation .conditional) {rest : List Token}
    (stops : Stops 8 rest) : arrowHead? (conditional.yield ++ rest) = none := by
  cases found : arrowHead? (conditional.yield ++ rest) with
  | none => rfl
  | some read =>
      obtain ⟨parameters, after⟩ := read
      obtain ⟨head, same, -⟩ := head_of_arrowHead? found
      exact absurd same (head_ne_conditional head conditional stops)

/-! ## Rules -/

/--
The parser of a phrase accepts a derivation: with enough room for it, and with anything behind
it that does not go on from it.
-/
def Accepted (url : String) : (phrase : Phrase) → Derivation phrase → Prop
  | .expression, derivation => ∀ bound rest, derivation.yield.length < bound → Stops 8 rest →
      expressionWithin url bound (derivation.yield ++ rest) = .ok (derivation.tree url, rest)
  | .conditional, derivation => ∀ bound rest, derivation.yield.length ≤ bound → Stops 8 rest →
      conditional (expressionWithin url bound) (derivation.yield ++ rest) =
        .ok (derivation.tree url, rest)
  | .operand level, derivation => ∀ bound rest, derivation.yield.length ≤ bound →
      Stops level rest →
      operandAt (expressionWithin url bound) level (derivation.yield ++ rest) =
        .ok (derivation.tree url, rest)
  | .links level, derivation => ∀ bound steps left rest, derivation.yield.length ≤ bound →
      derivation.yield.length ≤ steps → Stops (level + 1) rest →
      chainFrom (operatorsAt level) (operandAt (expressionWithin url bound) level) steps left
        (derivation.yield ++ rest) = .ok (derivation.tree url left, rest)
  | .suffixed, derivation => ∀ bound rest, derivation.yield.length ≤ bound → Stops 0 rest →
      suffixed (expressionWithin url bound) (derivation.yield ++ rest) =
        .ok (derivation.tree url, rest)
  | .suffixes, derivation => ∀ bound steps expr rest, derivation.yield.length ≤ bound →
      derivation.yield.length ≤ steps → Stops 0 rest →
      suffixesFrom (expressionWithin url bound) steps expr (derivation.yield ++ rest) =
        .ok (derivation.tree url expr, rest)
  | .primary, derivation => ∀ bound rest, derivation.yield.length ≤ bound →
      primary (expressionWithin url bound) (derivation.yield ++ rest) =
        .ok (derivation.tree url, rest)
  | .items bracket, derivation => ∀ bound rest, derivation.yield.length ≤ bound →
      items (expressionWithin url bound) bracket.close (derivation.yield ++ rest) =
        .ok (derivation.tree url, rest)
  | .itemList bracket, derivation => ∀ bound steps rest, derivation.yield.length ≤ bound →
      derivation.yield.length ≤ steps →
      itemsFrom (expressionWithin url bound) bracket.close steps (derivation.yield ++ rest) =
        .ok (derivation.tree url, rest)

section Rules

variable {url : String}

theorem expressionWithin_head (bound : Nat) (head : ArrowHead) (rest : List Token) :
    expressionWithin url (bound + 1) (head.yield ++ rest) = (do
      let (body, after) ← expressionWithin url bound rest
      .ok (.arrow head.parameters body (.ofPosition url head.position), after)) := by
  have front := arrowHead?_head head rest
  obtain ⟨token, tail, same⟩ : ∃ token tail, head.yield ++ rest = token :: tail := by
    cases head <;> exact ⟨_, _, rfl⟩
  have begins := position_of_yield same
  rw [same] at front ⊢
  obtain ⟨kind, position⟩ := token
  simp only [expressionWithin, front]
  rw [← begins]

theorem accepted_arrow (head : ArrowHead) {body : Derivation .expression}
    (step : Accepted url .expression body) : Accepted url .expression (.arrow head body) := by
  intro bound rest enough stops
  rw [yield_arrow, List.length_append] at enough
  cases bound with
  | zero => cases enough
  | succ bound =>
      have some' : 0 < head.yield.length := by cases head <;> exact Nat.succ_pos _
      have inside := step bound rest (by omega) stops
      rw [yield_arrow, List.append_assoc, expressionWithin_head, inside]
      rfl

theorem accepted_plain {inner : Derivation .conditional}
    (step : Accepted url .conditional inner) : Accepted url .expression (.plain inner) := by
  intro bound rest enough stops
  cases bound with
  | zero => cases enough
  | succ bound =>
      have front := arrowHead?_conditional inner stops
      have inside := step bound rest (Nat.le_of_lt_succ enough) stops
      change expressionWithin url (bound + 1) (inner.yield ++ rest) = .ok (inner.tree url, rest)
      simp only [expressionWithin, front]
      exact inside

theorem accepted_test {inner : Derivation (.operand 6)} (step : Accepted url (.operand 6) inner) :
    Accepted url .conditional (.test inner) := by
  intro bound rest enough stops
  have inside := step bound rest enough (stops.mono (by decide))
  have none : eat? .question rest = none := eat?_of_stops stops rfl (by decide)
  change conditional _ (inner.yield ++ rest) = .ok (inner.tree url, rest)
  simp only [conditional, operand_eq, inside, bind, Except.bind, none]

theorem accepted_choice {asked : Derivation (.operand 6)} {yes no : Derivation .expression}
    (question colon : Position) (step : Accepted url (.operand 6) asked)
    (step_yes : Accepted url .expression yes) (step_no : Accepted url .expression no) :
    Accepted url .conditional (.choice asked question yes colon no) := by
  intro bound rest enough stops
  simp only [yield_choice, List.length_append, List.length_cons] at enough
  have first := step bound (mark .question question :: (yes.yield ++ mark .colon colon ::
    (no.yield ++ rest))) (by omega) (stops_of_rank rfl (by decide) question _)
  have second := step_yes bound (mark .colon colon :: (no.yield ++ rest)) (by omega)
    (stops_mark rfl 8 colon _)
  have third := step_no bound rest (by omega) stops
  simp only [yield_choice, List.append_assoc, List.cons_append, conditional, operand_eq, first,
    bind, Except.bind, eat?_mark, second, expect_mark, third]
  rfl

theorem accepted_unary (operator : UnaryOp) (position : Position)
    {operand : Derivation (.operand 0)} (step : Accepted url (.operand 0) operand) :
    Accepted url (.operand 0) (.unary operator position operand) := by
  intro bound rest enough stops
  rw [yield_unary, List.length_cons] at enough
  have inside : unary _ _ = _ := step bound rest (by omega) stops
  have known : unaryOp? operator.punct = some operator := by cases operator <;> rfl
  change unary _ (mark operator.punct position :: (operand.yield ++ rest)) = _
  simp only [unary, known, inside]
  rfl

theorem unary_suffixed (nested : Parse Expr) (inner : Derivation .suffixed) (rest : List Token) :
    unary nested (inner.yield ++ rest) = suffixed nested (inner.yield ++ rest) := by
  cases inner with
  | suffixed first suffixes => cases first <;> rfl

theorem accepted_bare {inner : Derivation .suffixed} (step : Accepted url .suffixed inner) :
    Accepted url (.operand 0) (.bare inner) := by
  intro bound rest enough stops
  exact (unary_suffixed _ inner rest).trans (step bound rest enough stops)

theorem accepted_chain {level : Nat} {first : Derivation (.operand level)}
    {links : Derivation (.links level)} (step : Accepted url (.operand level) first)
    (step_links : Accepted url (.links level) links) :
    Accepted url (.operand (level + 1)) (.chain first links) := by
  intro bound rest enough stops
  rw [yield_chain, List.length_append] at enough
  have front := step bound (links.yield ++ rest) (by omega) (stops_links links stops)
  have behind := step_links bound (links.yield ++ rest).length (first.tree url) rest (by omega)
    (by rw [List.length_append]; omega) stops
  simp only [yield_chain, List.append_assoc, operandAt, chain, front, bind, Except.bind]
  exact behind

theorem accepted_unlinked (level : Nat) :
    Accepted url (.links level) (@Derivation.unlinked level) := by
  intro bound steps left rest enough short stops
  have none := operatorAt?_of_stops stops
  cases steps with
  | zero => rfl
  | succ steps =>
      change chainFrom _ _ (steps + 1) left rest = .ok (left, rest)
      simp only [chainFrom, none]

theorem accepted_link {level : Nat} {operator : Infix} (at_level : operator.level = level)
    (position : Position) {right : Derivation (.operand level)} {links : Derivation (.links level)}
    (step : Accepted url (.operand level) right) (step_links : Accepted url (.links level) links) :
    Accepted url (.links level) (.link operator at_level position right links) := by
  intro bound steps left rest enough short stops
  rw [yield_link, List.length_cons, List.length_append] at enough short
  cases steps with
  | zero => cases short
  | succ steps =>
      have front := operatorAt?_punct at_level position (right.yield ++ (links.yield ++ rest))
      have first := step bound (links.yield ++ rest) (by omega) (stops_links links stops)
      have behind := step_links bound steps (operator.build left (right.tree url)) rest
        (by omega) (by omega) stops
      simp only [yield_link, List.cons_append, List.append_assoc, chainFrom, front, first, bind,
        Except.bind]
      exact behind

theorem accepted_suffixed {inner : Derivation .primary} {suffixes : Derivation .suffixes}
    (step : Accepted url .primary inner) (step_suffixes : Accepted url .suffixes suffixes) :
    Accepted url .suffixed (.suffixed inner suffixes) := by
  intro bound rest enough stops
  rw [yield_suffixed, List.length_append] at enough
  have front := step bound (suffixes.yield ++ rest) (by omega)
  have behind := step_suffixes bound (suffixes.yield ++ rest).length (inner.tree url) rest
    (by omega) (by rw [List.length_append]; omega) stops
  simp only [yield_suffixed, List.append_assoc, suffixed, front, bind, Except.bind]
  exact behind

theorem accepted_unsuffixed : Accepted url .suffixes .unsuffixed := by
  intro bound steps expr rest enough short stops
  change suffixesFrom _ steps expr rest = .ok (expr, rest)
  cases steps with
  | zero => rfl
  | succ steps =>
      unfold suffixesFrom
      split
      · exact absurd (stops.rank_lt rfl) (Nat.lt_irrefl 0)
      · exact absurd (stops.rank_lt rfl) (Nat.lt_irrefl 0)
      · exact absurd (stops.rank_lt rfl) (Nat.lt_irrefl 0)
      · rfl

theorem accepted_member (dot : Position) (field : String) (position : Position)
    {suffixes : Derivation .suffixes} (step : Accepted url .suffixes suffixes) :
    Accepted url .suffixes (.member dot field position suffixes) := by
  intro bound steps expr rest enough short stops
  simp only [yield_member, List.length_cons] at enough short
  cases steps with
  | zero => cases short
  | succ steps => exact step bound steps (.member expr field) rest (by omega) (by omega) stops

theorem accepted_index (opening closing : Position) {key : Derivation .expression}
    {suffixes : Derivation .suffixes} (step : Accepted url .expression key)
    (step_suffixes : Accepted url .suffixes suffixes) :
    Accepted url .suffixes (.index opening key closing suffixes) := by
  intro bound steps expr rest enough short stops
  simp only [yield_index, List.length_cons, List.length_append] at enough short
  cases steps with
  | zero => cases short
  | succ steps =>
      have front := step bound (mark .closeBracket closing :: (suffixes.yield ++ rest)) (by omega)
        (stops_mark rfl 8 closing _)
      have behind := step_suffixes bound steps (.index expr (key.tree url)) rest (by omega)
        (by omega) stops
      simp only [yield_index, List.cons_append, List.append_assoc, suffixesFrom, front, bind,
        Except.bind, expect_mark]
      exact behind

theorem accepted_call (opening : Position) {arguments : Derivation (.items .round)}
    {suffixes : Derivation .suffixes} (step : Accepted url (.items .round) arguments)
    (step_suffixes : Accepted url .suffixes suffixes) :
    Accepted url .suffixes (.call opening arguments suffixes) := by
  intro bound steps expr rest enough short stops
  simp only [yield_call, List.length_cons, List.length_append] at enough short
  cases steps with
  | zero => cases short
  | succ steps =>
      have front : items _ .closeParen _ = _ := step bound (suffixes.yield ++ rest) (by omega)
      have behind := step_suffixes bound steps (.call expr (arguments.tree url)) rest (by omega)
        (by omega) stops
      simp only [yield_call, List.cons_append, List.append_assoc, suffixesFrom, front, bind,
        Except.bind]
      exact behind

theorem accepted_bracketed (opening closing : Position) {inner : Derivation .expression}
    (step : Accepted url .expression inner) :
    Accepted url .primary (.bracketed opening inner closing) := by
  intro bound rest enough
  simp only [yield_bracketed, List.length_cons, List.length_append] at enough
  have inside := step bound (mark .closeParen closing :: rest) (by omega)
    (stops_mark rfl 8 closing _)
  simp only [yield_bracketed, List.cons_append, List.append_assoc, List.nil_append, primary,
    inside, bind, Except.bind, expect_mark]
  rfl

theorem accepted_array (opening : Position) {list : Derivation (.items .square)}
    (step : Accepted url (.items .square) list) :
    Accepted url .primary (.array opening list) := by
  intro bound rest enough
  rw [yield_array, List.length_cons] at enough
  have inside : items _ .closeBracket _ = _ := step bound rest (by omega)
  simp only [yield_array, List.cons_append, primary, inside, bind, Except.bind]
  rfl

theorem accepted_noItems (bracket : Bracket) (closing : Position) :
    Accepted url (.items bracket) (@Derivation.noItems bracket closing) := by
  intro bound rest enough
  change items _ _ (mark bracket.close closing :: rest) = _
  simp only [items, eat?_mark]
  rfl

theorem accepted_someItems {bracket : Bracket} {list : Derivation (.itemList bracket)}
    (step : Accepted url (.itemList bracket) list) :
    Accepted url (.items bracket) (.someItems list) := by
  intro bound rest enough
  have begun : Begun list.yield := begun_in list
  have none := eat?_close_of_begun (begun.append rest) bracket
  change items _ _ (list.yield ++ rest) = .ok (list.tree url, rest)
  simp only [items, none]
  exact step bound _ rest enough (by rw [List.length_append]; omega)

theorem accepted_lastItem {bracket : Bracket} {item : Derivation .expression} (closing : Position)
    (step : Accepted url .expression item) :
    Accepted url (.itemList bracket) (@Derivation.lastItem bracket item closing) := by
  intro bound steps rest enough short
  simp only [yield_lastItem, List.length_append, List.length_cons, List.length_nil] at enough short
  cases steps with
  | zero => omega
  | succ steps =>
      have front := step bound (mark bracket.close closing :: rest) (by omega)
        (stops_close bracket 8 closing _)
      simp only [yield_lastItem, List.append_assoc, List.cons_append, List.nil_append, itemsFrom,
        front, bind, Except.bind, eat?_mark]
      rfl

theorem accepted_moreItems {bracket : Bracket} {item : Derivation .expression} (comma : Position)
    {others : Derivation (.itemList bracket)} (step : Accepted url .expression item)
    (step_others : Accepted url (.itemList bracket) others) :
    Accepted url (.itemList bracket) (.moreItems item comma others) := by
  intro bound steps rest enough short
  simp only [yield_moreItems, List.length_append, List.length_cons] at enough short
  cases steps with
  | zero => omega
  | succ steps =>
      have front := step bound (mark .comma comma :: (others.yield ++ rest)) (by omega)
        (stops_mark rfl 8 comma _)
      have none : eat? bracket.close (mark .comma comma :: (others.yield ++ rest)) = none := by
        cases bracket <;> rfl
      have behind := step_others bound steps rest (by omega) (by omega)
      simp only [yield_moreItems, List.append_assoc, List.cons_append, itemsFrom, front, bind,
        Except.bind, none, expect_mark, behind]
      rfl

/-- The parser of a phrase accepts all its derivations. -/
theorem accepted {phrase : Phrase} (derivation : Derivation phrase) :
    Accepted url phrase derivation := by
  induction derivation with
  | arrow head body step => exact accepted_arrow head step
  | plain inner step => exact accepted_plain step
  | test inner step => exact accepted_test step
  | choice asked question yes colon no step step_yes step_no =>
      exact accepted_choice question colon step step_yes step_no
  | unary operator position operand step => exact accepted_unary operator position step
  | bare inner step => exact accepted_bare step
  | chain first links step step_links => exact accepted_chain step step_links
  | unlinked => exact accepted_unlinked _
  | link operator at_level position right links step step_links =>
      exact accepted_link at_level position step step_links
  | suffixed inner suffixes step step_suffixes => exact accepted_suffixed step step_suffixes
  | unsuffixed => exact accepted_unsuffixed
  | member dot field position suffixes step => exact accepted_member dot field position step
  | index opening key closing suffixes step step_suffixes =>
      exact accepted_index opening closing step step_suffixes
  | call opening arguments suffixes step step_suffixes =>
      exact accepted_call opening step step_suffixes
  | number value position => exact fun bound rest enough => rfl
  | string value position => exact fun bound rest enough => rfl
  | name text position => exact fun bound rest enough => rfl
  | bracketed opening inner closing step => exact accepted_bracketed opening closing step
  | array opening items step => exact accepted_array opening step
  | noItems closing => exact accepted_noItems _ closing
  | someItems list step => exact accepted_someItems step
  | lastItem item closing step => exact accepted_lastItem closing step
  | moreItems item comma others step step_others => exact accepted_moreItems comma step step_others

end Rules

/--
The parser accepts exactly the yields of the grammar, and returns what the derivation stands
for, of which there is only one.
-/
theorem program_accepts_exactly_the_grammar (url : String) (tokens : List Token) :
    (∀ expr, program url tokens = .ok expr ↔
      ∃ derivation : Derivation .expression,
        derivation.yield = tokens ∧ derivation.tree url = expr) ∧
    ∀ derivation derivation' : Derivation .expression,
      derivation.yield = tokens → derivation'.yield = tokens → derivation = derivation' := by
  refine ⟨fun expr => ⟨?_, ?_⟩, ?_⟩
  · intro read
    obtain ⟨⟨found, rest⟩, inside, finished⟩ := bind_eq_ok.mp read
    cases rest with
    | nil =>
        cases finished
        obtain ⟨derivation, same, stands⟩ := sound_expressionWithin _ tokens expr [] inside
        rw [List.append_nil] at same
        exact ⟨derivation, same, stands⟩
    | cons token rest => cases finished
  · rintro ⟨derivation, rfl, rfl⟩
    have inside : expression url derivation.yield = .ok (derivation.tree url, []) := by
      have all : Accepted url .expression derivation := accepted derivation
      have whole := all (derivation.yield.length + 1) [] (Nat.lt_succ_self _) (stops_nil 8)
      rwa [List.append_nil] at whole
    simp only [program, inside, bind, Except.bind]
    rfl
  · intro derivation derivation' same same'
    exact (unique derivation derivation' [] [] (stops_nil 8) (stops_nil 8)
      (by rw [same, same'])).1

end Parser
end Script
end PropertyBinding
