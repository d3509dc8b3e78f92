import Mathlib
import PropertyBinding.Proofs.Grammar

namespace PropertyBinding
namespace Script

open Script.Derivation (yield_arrow yield_choice yield_unary yield_chain yield_link yield_suffixed
  yield_member yield_index yield_call yield_bracketed yield_array yield_lastItem yield_moreItems)

/-!
# The grammar is unambiguous

No tokens have two derivations.  A derivation of a phrase is known from the left: what
follows it cannot begin with a token that would go on from the phrase, and then the tokens
say at each place which rule was applied.  One token is enough for that, except where a
function may begin; there the whole head decides, for no expression begins like one.
-/

/-! ## What goes on from a phrase -/

/--
How far out a phrase has to be for a punctuator to go on from it: suffixes go on from every
operand, an operator from the operands of its level, and then come the question mark of a
conditional and the arrow.  The others end every phrase.
-/
def rank? : Punct → Option Nat
  | .dot | .openBracket | .openParen => some 0
  | .times | .divide | .percent => some 1
  | .plus | .minus => some 2
  | .lessEqual | .greaterEqual | .less | .greater => some 3
  | .strictEqual | .strictUnequal | .equal | .unequal => some 4
  | .and => some 5
  | .or => some 6
  | .question => some 7
  | .arrow => some 8
  | .not | .colon | .comma | .closeParen | .closeBracket => none

theorem rank?_punct (operator : Infix) : rank? operator.punct = some (operator.level + 1) := by
  rcases operator with operator | _ | _
  · cases operator <;> rfl
  · rfl
  · rfl

/-- The rank of the punctuator that comes first. -/
def frontRank? : List Token → Option Nat
  | ⟨.punct punct, _⟩ :: _ => rank? punct
  | _ => none

/-- Whether nothing that goes on from a phrase so far out comes first. -/
def Stops (limit : Nat) (rest : List Token) : Prop :=
  ∀ rank, frontRank? rest = some rank → limit < rank

theorem stops_nil (limit : Nat) : Stops limit [] := by
  simp [Stops, frontRank?]

theorem Stops.mono {limit limit' : Nat} {rest : List Token} (stops : Stops limit rest)
    (below : limit' ≤ limit) : Stops limit' rest :=
  fun rank found => Nat.lt_of_le_of_lt below (stops rank found)

/-- A punctuator that ends every phrase. -/
theorem stops_mark {punct : Punct} (ends : rank? punct = none) (limit : Nat) (position : Position)
    (rest : List Token) : Stops limit (mark punct position :: rest) := by
  intro rank found
  rw [frontRank?, ends] at found
  cases found

/-- A punctuator that goes on from larger phrases only. -/
theorem stops_of_rank {punct : Punct} {rank limit : Nat} (found : rank? punct = some rank)
    (far : limit < rank) (position : Position) (rest : List Token) :
    Stops limit (mark punct position :: rest) := by
  intro rank' front
  rw [frontRank?, found] at front
  cases front
  exact far

/-- A punctuator that goes on from a phrase cannot follow it. -/
theorem Stops.rank_lt {punct : Punct} {rank limit : Nat} {position : Position} {rest : List Token}
    (stops : Stops limit (mark punct position :: rest)) (found : rank? punct = some rank) :
    limit < rank :=
  stops rank found

theorem stops_close (bracket : Bracket) (limit : Nat) (position : Position) (rest : List Token) :
    Stops limit (mark bracket.close position :: rest) :=
  stops_mark (by cases bracket <;> rfl) limit position rest

theorem stops_links {level : Nat} (links : Derivation (.links level)) {rest : List Token}
    (stops : Stops (level + 1) rest) : Stops level (links.yield ++ rest) := by
  cases links with
  | unlinked => exact stops.mono (Nat.le_succ level)
  | link operator at_level position right more =>
      intro rank found
      have front : rank? operator.punct = some rank := found
      rw [rank?_punct, at_level] at front
      cases front
      exact Nat.lt_succ_self level

/-! ## What a phrase begins with -/

/-- Whether an expression can begin with a token. -/
def Begins : Token → Prop
  | ⟨.punct punct, _⟩ =>
      punct = .openParen ∨ punct = .openBracket ∨ ∃ operator : UnaryOp, operator.punct = punct
  | _ => True

/-- Whether some tokens begin as an expression does. -/
def Begun (tokens : List Token) : Prop :=
  ∃ token tail, tokens = token :: tail ∧ Begins token

theorem Begun.append {tokens : List Token} (begun : Begun tokens) (rest : List Token) :
    Begun (tokens ++ rest) := by
  obtain ⟨token, tail, rfl, begins⟩ := begun
  exact ⟨token, tail ++ rest, rfl, begins⟩

/-- Whether a derivation, if it is not of something that goes on, begins as an expression does. -/
def BegunIn : (phrase : Phrase) → List Token → Prop
  | .links _, _ | .suffixes, _ | .items _, _ => True
  | _, tokens => Begun tokens

theorem begun_in {phrase : Phrase} (derivation : Derivation phrase) :
    BegunIn phrase derivation.yield := by
  induction derivation with
  | arrow head body => cases head <;> exact ⟨_, _, rfl, by simp [Begins]⟩
  | plain inner step => exact step
  | test inner step => exact step
  | choice asked question yes colon no step => exact step.append _
  | unary operator position operand => exact ⟨_, _, rfl, .inr (.inr ⟨operator, rfl⟩)⟩
  | bare inner step => exact step
  | chain first rest step => exact step.append _
  | suffixed inner suffixes step => exact step.append _
  | number value position => exact ⟨_, _, rfl, trivial⟩
  | string value position => exact ⟨_, _, rfl, trivial⟩
  | name text position => exact ⟨_, _, rfl, trivial⟩
  | bracketed opening inner closing => exact ⟨_, _, rfl, .inl rfl⟩
  | array opening items => exact ⟨_, _, rfl, .inr (.inl rfl)⟩
  | lastItem item closing step => exact step.append _
  | moreItems item comma rest step => exact step.append _
  | unlinked => trivial
  | link => trivial
  | unsuffixed => trivial
  | member => trivial
  | index => trivial
  | call => trivial
  | noItems => trivial
  | someItems => trivial

theorem not_begins_close (bracket : Bracket) (position : Position) :
    ¬ Begins (mark bracket.close position) := by
  rintro (same | same | ⟨operator, same⟩)
  · cases bracket <;> cases same
  · cases bracket <;> cases same
  · cases bracket <;> cases operator <;> cases same

/-- Nothing begins with the end of a bracket. -/
theorem Begun.ne_close {tokens : List Token} (begun : Begun tokens) (bracket : Bracket)
    (position : Position) (rest : List Token) : tokens ≠ mark bracket.close position :: rest := by
  rintro rfl
  obtain ⟨token, tail, same, begins⟩ := begun
  cases same
  exact not_begins_close bracket position begins

/-! ## No expression begins like a function -/

/-- Tokens that go on from an operand, if there are any, and do not begin with an arrow. -/
def GoesOn (tokens : List Token) : Prop :=
  tokens = [] ∨ ∃ rank, frontRank? tokens = some rank ∧ rank < 8

theorem frontRank?_append {tokens : List Token} (rest : List Token) {rank : Nat}
    (front : frontRank? tokens = some rank) : frontRank? (tokens ++ rest) = some rank := by
  cases tokens with
  | nil => cases front
  | cons token tail =>
      obtain ⟨kind, position⟩ := token
      cases kind <;> exact front

theorem GoesOn.append {tokens rest : List Token} (first : GoesOn tokens) (second : GoesOn rest) :
    GoesOn (tokens ++ rest) := by
  rcases first with rfl | ⟨rank, front, low⟩
  · exact second
  · exact .inr ⟨rank, frontRank?_append rest front, low⟩

theorem goesOn_links {level : Nat} (links : Derivation (.links level)) : GoesOn links.yield := by
  cases links with
  | unlinked => exact .inl rfl
  | link operator at_level position right more =>
      refine .inr ⟨operator.level + 1, rank?_punct operator, ?_⟩
      rcases operator with operator | _ | _
      · cases operator <;> decide
      · decide
      · decide

theorem goesOn_suffixes (suffixes : Derivation .suffixes) : GoesOn suffixes.yield := by
  cases suffixes with
  | unsuffixed => exact .inl rfl
  | member => exact .inr ⟨0, rfl, by decide⟩
  | index => exact .inr ⟨0, rfl, by decide⟩
  | call => exact .inr ⟨0, rfl, by decide⟩

/--
What operands and conditionals begin with: an operator in front of an operand, or a primary
expression and something that goes on from it.
-/
inductive Led : List Token → Prop where
  | unary (operator : UnaryOp) (position : Position) (tail : List Token) :
      Led (mark operator.punct position :: tail)
  | primary (first : Derivation .primary) {tail : List Token} (goes : GoesOn tail) :
      Led (first.yield ++ tail)

theorem Led.append {tokens rest : List Token} (led : Led tokens) (goes : GoesOn rest) :
    Led (tokens ++ rest) := by
  cases led with
  | unary operator position tail => exact .unary operator position (tail ++ rest)
  | primary first goes' =>
      rw [List.append_assoc]
      exact .primary first (goes'.append goes)

theorem led_operand {level : Nat} (operand : Derivation (.operand level)) : Led operand.yield := by
  induction level with
  | zero =>
      cases operand with
      | unary operator position operand => exact .unary operator position operand.yield
      | bare inner =>
          cases inner with
          | suffixed inner suffixes => exact .primary inner (goesOn_suffixes suffixes)
  | succ level step =>
      cases operand with
      | chain first rest => exact (step first).append (goesOn_links rest)

theorem led_conditional (conditional : Derivation .conditional) : Led conditional.yield := by
  cases conditional with
  | test inner => exact led_operand inner
  | choice asked question yes colon no =>
      exact (led_operand asked).append (.inr ⟨7, rfl, by decide⟩)

/-- Behind something that goes on there is no arrow, unless it follows. -/
theorem GoesOn.ne_arrow {tail rest after : List Token} (goes : GoesOn tail) (stops : Stops 8 rest)
    (position : Position) : tail ++ rest ≠ mark .arrow position :: after := by
  intro same
  rcases goes with rfl | ⟨rank, front, low⟩
  · have impossible := stops 8 (congrArg frontRank? same)
    exact Nat.lt_irrefl 8 impossible
  · have found := frontRank?_append rest front
    rw [same] at found
    cases found
    exact Nat.lt_irrefl 8 low

/-- Nothing goes on with a punctuator that ends every phrase. -/
theorem GoesOn.eq_nil {tail rest after : List Token} {punct : Punct} {position : Position}
    (goes : GoesOn tail) (ends : rank? punct = none)
    (same : tail ++ rest = mark punct position :: after) : tail = [] := by
  rcases goes with none | ⟨rank, front, low⟩
  · exact none
  · have found := frontRank?_append rest front
    rw [same, frontRank?, ends] at found
    cases found

/-- An expression in brackets that reads like the parameters of a function is a single name. -/
theorem names_of_expression {names : Names} (inner : Derivation .expression)
    {closing closing' : Position} {after rest : List Token}
    (same : names.yield ++ mark .closeParen closing :: after =
      inner.yield ++ mark .closeParen closing' :: rest) : after = rest := by
  cases inner with
  | arrow head body => cases head <;> cases names <;> cases same
  | plain inner =>
      generalize found : inner.yield = tokens
      have led := led_conditional inner
      change _ = inner.yield ++ _ at same
      rw [found] at same
      rw [found] at led
      cases led with
      | unary operator position tail => cases names <;> cases same
      | @primary first tail goes =>
          rw [List.append_assoc] at same
          cases first with
          | name text position =>
              cases names with
              | one name position' =>
                  have behind : tail ++ mark .closeParen closing' :: rest =
                    mark .closeParen closing :: after := (List.cons.inj same).2.symm
                  obtain rfl := goes.eq_nil rfl behind
                  exact (List.cons.inj behind).2.symm
              | more name position' comma others =>
                  have behind : tail ++ mark .closeParen closing' :: rest =
                    mark .comma comma :: (others.yield ++ mark .closeParen closing :: after) :=
                    (List.cons.inj same).2.symm
                  obtain rfl := goes.eq_nil rfl behind
                  cases behind
          | number => cases names <;> cases same
          | string => cases names <;> cases same
          | bracketed => cases names <;> cases same
          | array => cases names <;> cases same

/-- No conditional begins with the head of a function. -/
theorem head_ne_conditional (head : ArrowHead) (conditional : Derivation .conditional)
    {after rest : List Token} (stops : Stops 8 rest) :
    head.yield ++ after ≠ conditional.yield ++ rest := by
  intro same
  have led := led_conditional conditional
  generalize conditional.yield = tokens at same led
  cases led with
  | unary operator position tail => cases head <;> cases operator <;> cases same
  | @primary first tail goes =>
      rw [List.append_assoc] at same
      cases first with
      | number => cases head <;> cases same
      | string => cases head <;> cases same
      | array => cases head <;> cases same
      | name text position =>
          cases head with
          | bare name position' arrow =>
              exact goes.ne_arrow stops arrow (List.cons.inj same).2.symm
          | none => cases same
          | some => cases same
      | bracketed opening inner closing =>
          simp only [yield_bracketed, List.cons_append, List.append_assoc] at same
          cases head with
          | bare => cases same
          | none opening' closing' arrow =>
              have begun : Begun inner.yield := begun_in inner
              exact (begun.append _).ne_close .round closing' _ (List.cons.inj same).2.symm
          | some opening' names closing' arrow =>
              simp only [ArrowHead.yield, List.cons_append, List.append_assoc,
                List.nil_append] at same
              have behind := names_of_expression inner (List.cons.inj same).2
              exact goes.ne_arrow stops arrow behind.symm

/-! ## Derivations from the left -/

theorem names_unique {names names' : Names} {closing closing' : Position}
    {after after' : List Token}
    (same : names.yield ++ mark .closeParen closing :: after =
      names'.yield ++ mark .closeParen closing' :: after') :
    names = names' ∧ closing = closing' ∧ after = after' := by
  induction names generalizing names' with
  | one name position =>
      cases names' with
      | one => cases same; exact ⟨rfl, rfl, rfl⟩
      | more => cases same
  | more name position comma rest step =>
      cases names' with
      | one => cases same
      | more name' position' comma' rest' =>
          simp only [Names.yield, List.cons_append, List.cons.injEq, Token.mk.injEq,
            TokenKind.name.injEq, true_and] at same
          obtain ⟨⟨rfl, rfl⟩, rfl, same⟩ := same
          obtain ⟨rfl, rfl, rfl⟩ := step same
          exact ⟨rfl, rfl, rfl⟩

theorem head_unique {head head' : ArrowHead} {after after' : List Token}
    (same : head.yield ++ after = head'.yield ++ after') : head = head' ∧ after = after' := by
  cases head with
  | bare => cases head' <;> cases same; exact ⟨rfl, rfl⟩
  | none opening closing arrow =>
      cases head' with
      | bare => cases same
      | none => cases same; exact ⟨rfl, rfl⟩
      | some opening' names closing' arrow' => cases names <;> cases same
  | some opening names closing arrow =>
      cases head' with
      | bare => cases same
      | none => cases names <;> cases same
      | some opening' names' closing' arrow' =>
          simp only [ArrowHead.yield, List.cons_append, List.append_assoc, List.nil_append,
            List.cons.injEq, Token.mk.injEq, true_and] at same
          obtain ⟨rfl, inside⟩ := same
          obtain ⟨rfl, rfl, behind⟩ := names_unique inside
          cases behind
          exact ⟨rfl, rfl⟩

/-- What may follow a phrase. -/
def Follows : Phrase → List Token → Prop
  | .expression | .conditional => Stops 8
  | .operand level => Stops level
  | .links level => Stops (level + 1)
  | .suffixed | .suffixes => Stops 0
  | .primary | .items _ | .itemList _ => fun _ => True

/-- Whether a derivation is the only one of its phrase that the tokens begin with. -/
def Unique {phrase : Phrase} (derivation : Derivation phrase) : Prop :=
  ∀ (other : Derivation phrase) (rest rest' : List Token), Follows phrase rest →
    Follows phrase rest' → derivation.yield ++ rest = other.yield ++ rest' →
      derivation = other ∧ rest = rest'

theorem mark_cons_inj {punct : Punct} {position position' : Position} {tail tail' : List Token}
    (same : mark punct position :: tail = mark punct position' :: tail') :
    position = position' ∧ tail = tail' := by
  cases same
  exact ⟨rfl, rfl⟩

theorem unaryPunct_inj {operator operator' : UnaryOp} (same : operator.punct = operator'.punct) :
    operator = operator' := by
  cases operator <;> cases operator' <;> first | rfl | cases same

/-- A primary expression does not begin with an operator. -/
theorem unary_ne_suffixed (operator : UnaryOp) (inner : Derivation .suffixed) {position : Position}
    {tail rest : List Token} : mark operator.punct position :: tail ≠ inner.yield ++ rest := by
  intro same
  cases inner with
  | suffixed first suffixes => cases first <;> cases operator <;> cases same

theorem unlinked_ne_link {level : Nat} {operator : Infix} (at_level : operator.level = level)
    {rest tail : List Token} {position : Position} (stops : Stops (level + 1) rest) :
    rest ≠ mark operator.punct position :: tail := by
  rintro rfl
  have far := stops.rank_lt (rank?_punct operator)
  omega

/-- Nothing that ends all suffixes begins another one. -/
theorem unsuffixed_ne_mark {punct : Punct} (found : rank? punct = some 0) {rest tail : List Token}
    {position : Position} (stops : Stops 0 rest) : rest ≠ mark punct position :: tail := by
  rintro rfl
  exact Nat.lt_irrefl 0 (stops.rank_lt found)

theorem close_ne_comma (bracket : Bracket) {closing comma : Position} {tail tail' : List Token} :
    mark bracket.close closing :: tail ≠ mark .comma comma :: tail' := by
  cases bracket <;> exact fun same => nomatch same

/-! ## One rule after the other -/

theorem unique_arrow (head : ArrowHead) {body : Derivation .expression} (step : Unique body) :
    Unique (.arrow head body) := by
  intro other rest rest' stops stops' same
  cases other with
  | arrow head' body' =>
      simp only [yield_arrow, List.append_assoc] at same
      obtain ⟨rfl, behind⟩ := head_unique same
      obtain ⟨rfl, rfl⟩ := step body' rest rest' stops stops' behind
      exact ⟨rfl, rfl⟩
  | plain inner =>
      rw [yield_arrow, List.append_assoc] at same
      exact absurd same (head_ne_conditional head inner stops')

theorem unique_plain {inner : Derivation .conditional} (step : Unique inner) :
    Unique (.plain inner) := by
  intro other rest rest' stops stops' same
  cases other with
  | arrow head body =>
      rw [yield_arrow, List.append_assoc] at same
      exact absurd same.symm (head_ne_conditional head inner stops)
  | plain inner' =>
      obtain ⟨rfl, rfl⟩ := step inner' rest rest' stops stops' same
      exact ⟨rfl, rfl⟩

theorem unique_test {inner : Derivation (.operand 6)} (step : Unique inner) :
    Unique (.test inner) := by
  intro other rest rest' stops stops' same
  cases other with
  | test inner' =>
      obtain ⟨rfl, rfl⟩ := step inner' rest rest' (stops.mono (by decide))
        (stops'.mono (by decide)) same
      exact ⟨rfl, rfl⟩
  | choice asked question yes colon no =>
      simp only [yield_choice, List.append_assoc, List.cons_append] at same
      obtain ⟨-, rfl⟩ := step asked rest _ (stops.mono (by decide))
        (stops_of_rank rfl (by decide) question _) same
      exact absurd (stops.rank_lt rfl) (by decide)

theorem unique_choice {asked : Derivation (.operand 6)} {yes no : Derivation .expression}
    (question colon : Position) (step : Unique asked) (step_yes : Unique yes)
    (step_no : Unique no) :
    Unique (.choice asked question yes colon no) := by
  intro other rest rest' stops stops' same
  cases other with
  | test inner =>
      simp only [yield_choice, List.append_assoc, List.cons_append] at same
      obtain ⟨-, rfl⟩ := step inner _ rest' (stops_of_rank rfl (by decide) question _)
        (stops'.mono (by decide)) same
      exact absurd (stops'.rank_lt rfl) (by decide)
  | choice asked' question' yes' colon' no' =>
      simp only [yield_choice, List.append_assoc, List.cons_append] at same
      obtain ⟨rfl, behind⟩ := step asked' _ _ (stops_of_rank rfl (by decide) question _)
        (stops_of_rank rfl (by decide) question' _) same
      obtain ⟨rfl, inside⟩ := mark_cons_inj behind
      obtain ⟨rfl, further⟩ := step_yes yes' _ _ (stops_mark rfl 8 colon _)
        (stops_mark rfl 8 colon' _) inside
      obtain ⟨rfl, last⟩ := mark_cons_inj further
      obtain ⟨rfl, rfl⟩ := step_no no' rest rest' stops stops' last
      exact ⟨rfl, rfl⟩

theorem unique_unary (operator : UnaryOp) (position : Position) {operand : Derivation (.operand 0)}
    (step : Unique operand) :
    Unique (.unary operator position operand) := by
  intro other rest rest' stops stops' same
  cases other with
  | unary operator' position' operand' =>
      simp only [yield_unary, List.cons_append, List.cons.injEq, Token.mk.injEq,
        TokenKind.punct.injEq] at same
      obtain ⟨⟨written, rfl⟩, behind⟩ := same
      obtain rfl := unaryPunct_inj written
      obtain ⟨rfl, rfl⟩ := step operand' rest rest' stops stops' behind
      exact ⟨rfl, rfl⟩
  | bare inner => exact absurd same (unary_ne_suffixed operator inner)

theorem unique_bare {inner : Derivation .suffixed} (step : Unique inner) :
    Unique (.bare inner) := by
  intro other rest rest' stops stops' same
  cases other with
  | unary operator position operand =>
      exact absurd same.symm (unary_ne_suffixed operator inner)
  | bare inner' =>
      obtain ⟨rfl, rfl⟩ := step inner' rest rest' stops stops' same
      exact ⟨rfl, rfl⟩

theorem unique_chain {level : Nat} {first : Derivation (.operand level)}
    {links : Derivation (.links level)} (step : Unique first) (step_links : Unique links) :
    Unique (.chain first links) := by
  intro other rest rest' stops stops' same
  cases other with
  | chain first' links' =>
      simp only [yield_chain, List.append_assoc] at same
      obtain ⟨rfl, behind⟩ := step first' _ _ (stops_links links stops)
        (stops_links links' stops') same
      obtain ⟨rfl, rfl⟩ := step_links links' rest rest' stops stops' behind
      exact ⟨rfl, rfl⟩

theorem unique_unlinked (level : Nat) : Unique (@Derivation.unlinked level) := by
  intro other rest rest' stops stops' same
  cases other with
  | unlinked => exact ⟨rfl, same⟩
  | link operator at_level => exact absurd same (unlinked_ne_link at_level stops)

theorem unique_link {level : Nat} {operator : Infix} (at_level : operator.level = level)
    (position : Position) {right : Derivation (.operand level)} {links : Derivation (.links level)}
    (step : Unique right) (step_links : Unique links) :
    Unique (.link operator at_level position right links) := by
  intro other rest rest' stops stops' same
  cases other with
  | unlinked => exact absurd same.symm (unlinked_ne_link at_level stops')
  | link operator' at_level' position' right' links' =>
      simp only [yield_link, List.cons_append, List.append_assoc, List.cons.injEq,
        Token.mk.injEq, TokenKind.punct.injEq] at same
      obtain ⟨⟨written, rfl⟩, behind⟩ := same
      obtain rfl := Infix.punct_inj written
      obtain ⟨rfl, further⟩ := step right' _ _ (stops_links links stops)
        (stops_links links' stops') behind
      obtain ⟨rfl, rfl⟩ := step_links links' rest rest' stops stops' further
      exact ⟨rfl, rfl⟩

theorem unique_suffixed {inner : Derivation .primary} {suffixes : Derivation .suffixes}
    (step : Unique inner) (step_suffixes : Unique suffixes) :
    Unique (.suffixed inner suffixes) := by
  intro other rest rest' stops stops' same
  cases other with
  | suffixed inner' suffixes' =>
      simp only [yield_suffixed, List.append_assoc] at same
      obtain ⟨rfl, behind⟩ := step inner' _ _ trivial trivial same
      obtain ⟨rfl, rfl⟩ := step_suffixes suffixes' rest rest' stops stops' behind
      exact ⟨rfl, rfl⟩

theorem unique_unsuffixed : Unique .unsuffixed := by
  intro other rest rest' stops stops' same
  cases other with
  | unsuffixed => exact ⟨rfl, same⟩
  | member => exact absurd same (unsuffixed_ne_mark rfl stops)
  | index => exact absurd same (unsuffixed_ne_mark rfl stops)
  | call => exact absurd same (unsuffixed_ne_mark rfl stops)

theorem unique_member (dot : Position) (field : String) (position : Position)
    {suffixes : Derivation .suffixes} (step : Unique suffixes) :
    Unique (.member dot field position suffixes) := by
  intro other rest rest' stops stops' same
  cases other with
  | unsuffixed => exact absurd same.symm (unsuffixed_ne_mark rfl stops')
  | member dot' field' position' suffixes' =>
      simp only [yield_member, List.cons_append, List.cons.injEq, Token.mk.injEq,
        TokenKind.name.injEq, true_and] at same
      obtain ⟨rfl, ⟨rfl, rfl⟩, behind⟩ := same
      obtain ⟨rfl, rfl⟩ := step suffixes' rest rest' stops stops' behind
      exact ⟨rfl, rfl⟩
  | index => cases same
  | call => cases same

theorem unique_index (opening closing : Position) {key : Derivation .expression}
    {suffixes : Derivation .suffixes} (step : Unique key) (step_suffixes : Unique suffixes) :
    Unique (.index opening key closing suffixes) := by
  intro other rest rest' stops stops' same
  cases other with
  | unsuffixed => exact absurd same.symm (unsuffixed_ne_mark rfl stops')
  | member => cases same
  | index opening' key' closing' suffixes' =>
      simp only [yield_index, List.cons_append, List.append_assoc] at same
      obtain ⟨rfl, behind⟩ := mark_cons_inj same
      obtain ⟨rfl, further⟩ := step key' _ _ (stops_mark rfl 8 closing _)
        (stops_mark rfl 8 closing' _) behind
      obtain ⟨rfl, last⟩ := mark_cons_inj further
      obtain ⟨rfl, rfl⟩ := step_suffixes suffixes' rest rest' stops stops' last
      exact ⟨rfl, rfl⟩
  | call => cases same

theorem unique_call (opening : Position) {arguments : Derivation (.items .round)}
    {suffixes : Derivation .suffixes} (step : Unique arguments)
    (step_suffixes : Unique suffixes) :
    Unique (.call opening arguments suffixes) := by
  intro other rest rest' stops stops' same
  cases other with
  | unsuffixed => exact absurd same.symm (unsuffixed_ne_mark rfl stops')
  | member => cases same
  | index => cases same
  | call opening' arguments' suffixes' =>
      simp only [yield_call, List.cons_append, List.append_assoc] at same
      obtain ⟨rfl, behind⟩ := mark_cons_inj same
      obtain ⟨rfl, further⟩ := step arguments' _ _ trivial trivial behind
      obtain ⟨rfl, rfl⟩ := step_suffixes suffixes' rest rest' stops stops' further
      exact ⟨rfl, rfl⟩

theorem unique_number (value : Float) (position : Position) : Unique (.number value position) := by
  intro other rest rest' stops stops' same
  cases other <;> cases same
  exact ⟨rfl, rfl⟩

theorem unique_string (value : String) (position : Position) : Unique (.string value position) := by
  intro other rest rest' stops stops' same
  cases other <;> cases same
  exact ⟨rfl, rfl⟩

theorem unique_name (text : String) (position : Position) : Unique (.name text position) := by
  intro other rest rest' stops stops' same
  cases other <;> cases same
  exact ⟨rfl, rfl⟩

theorem unique_bracketed (opening closing : Position) {inner : Derivation .expression}
    (step : Unique inner) :
    Unique (.bracketed opening inner closing) := by
  intro other rest rest' stops stops' same
  cases other with
  | bracketed opening' inner' closing' =>
      simp only [yield_bracketed, List.cons_append, List.append_assoc,
        List.nil_append] at same
      obtain ⟨rfl, behind⟩ := mark_cons_inj same
      obtain ⟨rfl, further⟩ := step inner' _ _ (stops_mark rfl 8 closing _)
        (stops_mark rfl 8 closing' _) behind
      obtain ⟨rfl, rfl⟩ := mark_cons_inj further
      exact ⟨rfl, rfl⟩
  | _ => cases same

theorem unique_array (opening : Position) {items : Derivation (.items .square)}
    (step : Unique items) : Unique (.array opening items) := by
  intro other rest rest' stops stops' same
  cases other with
  | array opening' items' =>
      simp only [yield_array, List.cons_append] at same
      obtain ⟨rfl, behind⟩ := mark_cons_inj same
      obtain ⟨rfl, rfl⟩ := step items' rest rest' trivial trivial behind
      exact ⟨rfl, rfl⟩
  | _ => cases same

theorem unique_noItems (bracket : Bracket) (closing : Position) :
    Unique (@Derivation.noItems bracket closing) := by
  intro other rest rest' stops stops' same
  cases other with
  | noItems closing' =>
      obtain ⟨rfl, rfl⟩ := mark_cons_inj same
      exact ⟨rfl, rfl⟩
  | someItems list =>
      have begun : Begun list.yield := begun_in list
      exact absurd same.symm ((begun.append rest').ne_close bracket closing rest)

theorem unique_someItems {bracket : Bracket} {list : Derivation (.itemList bracket)}
    (step : Unique list) : Unique (.someItems list) := by
  intro other rest rest' stops stops' same
  cases other with
  | noItems closing =>
      have begun : Begun list.yield := begun_in list
      exact absurd same ((begun.append rest).ne_close bracket closing rest')
  | someItems list' =>
      obtain ⟨rfl, rfl⟩ := step list' rest rest' trivial trivial same
      exact ⟨rfl, rfl⟩

theorem unique_lastItem {bracket : Bracket} {item : Derivation .expression} (closing : Position)
    (step : Unique item) :
    Unique (@Derivation.lastItem bracket item closing) := by
  intro other rest rest' stops stops' same
  cases other with
  | lastItem item' closing' =>
      simp only [yield_lastItem, List.append_assoc, List.cons_append,
        List.nil_append] at same
      obtain ⟨rfl, behind⟩ := step item' _ _ (stops_close bracket 8 closing _)
        (stops_close bracket 8 closing' _) same
      obtain ⟨rfl, rfl⟩ := mark_cons_inj behind
      exact ⟨rfl, rfl⟩
  | moreItems item' comma others =>
      simp only [yield_lastItem, yield_moreItems, List.append_assoc, List.cons_append,
        List.nil_append] at same
      obtain ⟨-, behind⟩ := step item' _ _ (stops_close bracket 8 closing _)
        (stops_mark rfl 8 comma _) same
      exact absurd behind (close_ne_comma bracket)

theorem unique_moreItems {bracket : Bracket} {item : Derivation .expression} (comma : Position)
    {others : Derivation (.itemList bracket)} (step : Unique item) (step_others : Unique others) :
    Unique (.moreItems item comma others) := by
  intro other rest rest' stops stops' same
  cases other with
  | lastItem item' closing =>
      simp only [yield_lastItem, yield_moreItems, List.append_assoc, List.cons_append,
        List.nil_append] at same
      obtain ⟨-, behind⟩ := step item' _ _ (stops_mark rfl 8 comma _)
        (stops_close bracket 8 closing _) same
      exact absurd behind.symm (close_ne_comma bracket)
  | moreItems item' comma' others' =>
      simp only [yield_moreItems, List.append_assoc, List.cons_append] at same
      obtain ⟨rfl, behind⟩ := step item' _ _ (stops_mark rfl 8 comma _)
        (stops_mark rfl 8 comma' _) same
      obtain ⟨rfl, further⟩ := mark_cons_inj behind
      obtain ⟨rfl, rfl⟩ := step_others others' rest rest' trivial trivial further
      exact ⟨rfl, rfl⟩

/-- No tokens begin with two derivations of a phrase, if nothing behind goes on from it. -/
theorem unique {phrase : Phrase} (derivation : Derivation phrase) : Unique derivation := by
  induction derivation with
  | arrow head body step => exact unique_arrow head step
  | plain inner step => exact unique_plain step
  | test inner step => exact unique_test step
  | choice asked question yes colon no step step_yes step_no =>
      exact unique_choice question colon step step_yes step_no
  | unary operator position operand step => exact unique_unary operator position step
  | bare inner step => exact unique_bare step
  | chain first links step step_links => exact unique_chain step step_links
  | unlinked => exact unique_unlinked _
  | link operator at_level position right links step step_links =>
      exact unique_link at_level position step step_links
  | suffixed inner suffixes step step_suffixes => exact unique_suffixed step step_suffixes
  | unsuffixed => exact unique_unsuffixed
  | member dot field position suffixes step => exact unique_member dot field position step
  | index opening key closing suffixes step step_suffixes =>
      exact unique_index opening closing step step_suffixes
  | call opening arguments suffixes step step_suffixes =>
      exact unique_call opening step step_suffixes
  | number value position => exact unique_number value position
  | string value position => exact unique_string value position
  | name text position => exact unique_name text position
  | bracketed opening inner closing step => exact unique_bracketed opening closing step
  | array opening items step => exact unique_array opening step
  | noItems closing => exact unique_noItems _ closing
  | someItems list step => exact unique_someItems step
  | lastItem item closing step => exact unique_lastItem closing step
  | moreItems item comma others step step_others => exact unique_moreItems comma step step_others

end Script
end PropertyBinding
