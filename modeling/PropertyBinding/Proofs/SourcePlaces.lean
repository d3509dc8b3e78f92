import Mathlib
import PropertyBinding.Proofs.ParserSoundness
import PropertyBinding.Proofs.TokenPlaces

namespace PropertyBinding
namespace Script

/-!
# Where errors and functions are placed

A parser stops at the end of some of its tokens, whether it succeeds or fails, and places
the functions it builds at tokens it has read.  So every place that compiling a source
comes up with, of an error or of a function, is the position that the lexer keeps for one
of the tokens, for the end of the text, or for the characters that begin no token.
-/

/-! ## Places in expressions -/

mutual

/-- The places of the functions in an expression. -/
def Expr.places : Expr → List Location
  | .literal _ | .this | .name _ => []
  | .array items => placesOf items
  | .member object _ => object.places
  | .index object key => object.places ++ key.places
  | .call callee arguments => callee.places ++ placesOf arguments
  | .unary _ operand => operand.places
  | .binary _ left right | .and left right | .or left right => left.places ++ right.places
  | .conditional test yes no => test.places ++ yes.places ++ no.places
  | .arrow _ body location => location :: body.places

/-- The places of the functions in several expressions. -/
def placesOf : List Expr → List Location
  | [] => []
  | item :: rest => item.places ++ placesOf rest

end

namespace Parser

/-- Whether places are positions of tokens. -/
def Placed (url : String) (tokens : List Token) (places : List Location) : Prop :=
  ∀ place ∈ places, ∃ token ∈ tokens, place = .ofPosition url token.position

theorem Placed.nil (url : String) (tokens : List Token) : Placed url tokens [] := by
  simp [Placed]

theorem Placed.append {url : String} {tokens : List Token} {places places' : List Location}
    (first : Placed url tokens places) (second : Placed url tokens places') :
    Placed url tokens (places ++ places') := by
  intro place member
  rcases List.mem_append.mp member with member | member
  · exact first place member
  · exact second place member

theorem Placed.mono {url : String} {tokens rest : List Token} {places : List Location}
    (suffix : rest <:+ tokens) (placed : Placed url rest places) : Placed url tokens places := by
  intro place member
  obtain ⟨token, inside, same⟩ := placed place member
  exact ⟨token, suffix.subset inside, same⟩

/--
What a parser comes to inside some tokens: it stops at the end of them, and what it built is
placed at them.
-/
inductive Inside (url : String) {α : Type} (places : α → List Location) (tokens : List Token) :
    Except (List Token) (α × List Token) → Prop where
  | ok {found : α} {rest : List Token} (suffix : rest <:+ tokens)
      (placed : Placed url tokens (places found)) : Inside url places tokens (.ok (found, rest))
  | error {rest : List Token} (suffix : rest <:+ tokens) : Inside url places tokens (.error rest)

/-- A parser that stays inside its tokens. -/
def Stays (url : String) {α : Type} (places : α → List Location) (parse : Parse α) : Prop :=
  ∀ tokens, Inside url places tokens (parse tokens)

section Inside

variable {url : String} {α β : Type} {places : α → List Location} {places' : β → List Location}
  {tokens rest : List Token}

theorem Inside.mono {outcome : Except (List Token) (α × List Token)} (suffix : rest <:+ tokens)
    (inside : Inside url places rest outcome) : Inside url places tokens outcome := by
  cases inside with
  | ok suffix' placed => exact .ok (suffix'.trans suffix) (placed.mono suffix)
  | error suffix' => exact .error (suffix'.trans suffix)

theorem Inside.bind {outcome : Except (List Token) (α × List Token)}
    {next : α × List Token → Except (List Token) (β × List Token)}
    (inside : Inside url places tokens outcome)
    (goes : ∀ found rest, rest <:+ tokens → Placed url tokens (places found) →
      Inside url places' tokens (next (found, rest))) :
    Inside url places' tokens (outcome >>= next) := by
  cases inside with
  | ok suffix placed => exact goes _ _ suffix placed
  | error suffix => exact .error suffix

theorem suffix_of_eat? {punct : Punct} (found : eat? punct tokens = some rest) :
    rest <:+ tokens := by
  obtain ⟨position, rfl⟩ := eat?_eq_some.mp found
  exact List.suffix_cons _ _

theorem Inside.expect (punct : Punct) {next : List Token → Except (List Token) (β × List Token)}
    (suffix : rest <:+ tokens)
    (goes : ∀ after, after <:+ tokens → Inside url places' tokens (next after)) :
    Inside url places' tokens (Parser.expect punct rest >>= next) := by
  unfold Parser.expect
  cases found : eat? punct rest with
  | none => exact .error suffix
  | some after => exact goes after ((suffix_of_eat? found).trans suffix)

end Inside

/-! ## The parsers one by one -/

section Parsers

variable {url : String}

/-- An operator has the functions of both operands and no others. -/
theorem places_build (operator : Infix) (left right : Expr) :
    (operator.build left right).places = left.places ++ right.places := by
  cases operator <;> rfl

theorem stays_chainFrom {level : Nat} {operand : Parse Expr}
    (stays : Stays url Expr.places operand) (bound : Nat) {left : Expr} {tokens outer : List Token}
    (suffix : tokens <:+ outer) (placed : Placed url outer left.places) :
    Inside url Expr.places outer (chainFrom (operatorsAt level) operand bound left tokens) := by
  induction bound generalizing left tokens with
  | zero => exact .ok suffix placed
  | succ bound step =>
      rw [chainFrom]
      cases found : operatorAt? (operatorsAt level) tokens with
      | none => exact .ok suffix placed
      | some next =>
          obtain ⟨build, rest⟩ := next
          obtain ⟨operator, position, -, rfl, rfl⟩ := infix_of_operatorAt? found
          have later := (List.suffix_cons _ rest).trans suffix
          refine ((stays rest).mono later).bind fun right after suffix' placed' => ?_
          refine step suffix' ?_
          rw [places_build]
          exact placed.append placed'

theorem stays_chain {level : Nat} {operand : Parse Expr} (stays : Stays url Expr.places operand) :
    Stays url Expr.places (chain (operatorsAt level) operand) :=
  fun tokens => (stays tokens).bind fun _ rest suffix placed =>
    stays_chainFrom stays rest.length suffix placed

theorem stays_itemsFrom {item : Parse Expr} (stays : Stays url Expr.places item) (close : Punct)
    (bound : Nat) : Stays url placesOf (itemsFrom item close bound) := by
  induction bound with
  | zero => exact fun tokens => .error (List.suffix_refl tokens)
  | succ bound step =>
      intro tokens
      refine (stays tokens).bind fun first rest suffix placed => ?_
      dsimp only
      cases found : eat? close rest with
      | some after =>
          refine .ok ((suffix_of_eat? found).trans suffix) ?_
          exact placed.append (.nil url tokens)
      | none =>
          refine .expect .comma suffix fun after suffix' => ?_
          refine ((step after).mono suffix').bind fun items last suffix'' placed' => ?_
          exact .ok suffix'' (placed.append placed')

theorem stays_items {item : Parse Expr} (stays : Stays url Expr.places item) (close : Punct) :
    Stays url placesOf (items item close) := by
  intro tokens
  rw [items]
  cases found : eat? close tokens with
  | some after => exact .ok (suffix_of_eat? found) (.nil url tokens)
  | none => exact stays_itemsFrom stays close tokens.length tokens

theorem places_nameExpr (name : String) : (nameExpr name).places = [] := by
  unfold nameExpr
  split <;> rfl

section Nested

variable {nested : Parse Expr} (stays : Stays url Expr.places nested)
include stays

theorem stays_primary : Stays url Expr.places (primary nested) := by
  intro tokens
  unfold primary
  split
  · exact .ok (List.suffix_cons _ _) (.nil url _)
  · exact .ok (List.suffix_cons _ _) (.nil url _)
  · next name position rest =>
    refine .ok (List.suffix_cons _ _) ?_
    rw [places_nameExpr]
    exact .nil url _
  · next position rest =>
    refine ((stays rest).mono (List.suffix_cons _ _)).bind fun inner after suffix placed => ?_
    exact .expect .closeParen suffix fun last suffix' => .ok suffix' placed
  · next position rest =>
    refine ((stays_items stays .closeBracket rest).mono (List.suffix_cons _ _)).bind
      fun inner after suffix placed => ?_
    exact .ok suffix placed
  · exact .error (List.suffix_refl _)

theorem stays_suffixesFrom (bound : Nat) {expr : Expr} {tokens outer : List Token}
    (suffix : tokens <:+ outer) (placed : Placed url outer expr.places) :
    Inside url Expr.places outer (suffixesFrom nested bound expr tokens) := by
  induction bound generalizing expr tokens with
  | zero => exact .ok suffix placed
  | succ bound step =>
      unfold suffixesFrom
      split
      · next position rest =>
        have suffix := (List.suffix_cons _ rest).trans suffix
        split
        · exact step ((List.suffix_cons _ _).trans suffix) placed
        · exact .error suffix
      · next position rest =>
        have suffix := (List.suffix_cons _ rest).trans suffix
        refine ((stays rest).mono suffix).bind fun key after suffix' placed' => ?_
        refine .expect .closeBracket suffix' fun last suffix'' => ?_
        exact step suffix'' (placed.append placed')
      · next position rest =>
        have suffix := (List.suffix_cons _ rest).trans suffix
        refine ((stays_items stays .closeParen rest).mono suffix).bind
          fun arguments after suffix' placed' => ?_
        exact step suffix' (placed.append placed')
      · exact .ok suffix placed

theorem stays_suffixed : Stays url Expr.places (suffixed nested) :=
  fun tokens => (stays_primary stays tokens).bind fun _ rest suffix placed =>
    stays_suffixesFrom stays rest.length suffix placed

theorem stays_unary : Stays url Expr.places (unary nested) := by
  intro tokens
  induction tokens with
  | nil => exact stays_suffixed stays []
  | cons token rest step =>
      obtain ⟨kind, position⟩ := token
      cases kind with
      | punct punct =>
          simp only [unary]
          cases unaryOp? punct with
          | none => exact stays_suffixed stays _
          | some operator =>
              refine (step.mono (List.suffix_cons _ _)).bind fun operand after suffix placed => ?_
              exact .ok suffix placed
      | number value => exact stays_suffixed stays _
      | string value => exact stays_suffixed stays _
      | name name => exact stays_suffixed stays _

theorem stays_operandAt (level : Nat) : Stays url Expr.places (operandAt nested level) := by
  induction level with
  | zero => exact stays_unary stays
  | succ level step => exact stays_chain step

theorem stays_conditional : Stays url Expr.places (conditional nested) := by
  intro tokens
  refine (stays_operandAt stays 6 tokens).bind fun test rest suffix placed => ?_
  dsimp only
  cases found : eat? .question rest with
  | none => exact .ok suffix placed
  | some after =>
      have suffix' := (suffix_of_eat? found).trans suffix
      refine ((stays after).mono suffix').bind fun yes rest' suffix' placed' => ?_
      refine .expect .colon suffix' fun after' suffix' => ?_
      refine ((stays after').mono suffix').bind fun no rest'' suffix'' placed'' => ?_
      exact .ok suffix'' ((placed.append placed').append placed'')

end Nested

theorem stays_expressionWithin (bound : Nat) :
    Stays url Expr.places (expressionWithin url bound) := by
  induction bound with
  | zero => exact fun tokens => .error (List.suffix_refl tokens)
  | succ bound step =>
      intro tokens
      unfold expressionWithin
      split
      · next parameters rest kind position tail head =>
        obtain ⟨head', same, -⟩ := head_of_arrowHead? head
        have suffix : rest <:+ ⟨kind, position⟩ :: tail := ⟨head'.yield, same⟩
        refine ((step _).mono suffix).bind fun body after suffix' placed => ?_
        refine .ok suffix' ?_
        exact List.forall_mem_cons.mpr ⟨⟨_, List.mem_cons_self, rfl⟩, placed⟩
      · exact stays_conditional step _

/-- A program stops at the end of its tokens, or is placed at them. -/
inductive Programmed (url : String) (tokens : List Token) : Except (List Token) Expr → Prop where
  | ok {expr : Expr} (placed : Placed url tokens expr.places) : Programmed url tokens (.ok expr)
  | error {rest : List Token} (suffix : rest <:+ tokens) : Programmed url tokens (.error rest)

theorem programmed (url : String) (tokens : List Token) :
    Programmed url tokens (program url tokens) := by
  have inside : Inside url Expr.places tokens (expression url tokens) :=
    stays_expressionWithin (tokens.length + 1) tokens
  rw [program]
  generalize expression url tokens = outcome at inside
  cases inside with
  | error suffix => exact .error suffix
  | @ok expr rest suffix placed =>
      cases rest with
      | nil => exact .ok placed
      | cons token rest => exact .error suffix

end Parsers

end Parser

/-! ## Sources -/

namespace Source

variable (source : Source)

/-- An error of the parser is placed at a token, or at the end of the text. -/
theorem errorAt_cases (stream : TokenStream) {rest : List Token}
    (suffix : rest <:+ stream.tokens) :
    (source.errorAt stream rest).location = .ofPosition source.url stream.finish ∨
      ∃ token ∈ stream.tokens,
        (source.errorAt stream rest).cause = .unexpectedToken token.kind ∧
        (source.errorAt stream rest).location = .ofPosition source.url token.position := by
  cases rest with
  | nil => exact .inl rfl
  | cons token rest => exact .inr ⟨token, suffix.subset List.mem_cons_self, rfl, rfl⟩

/--
The lexer takes a text apart into tokens with nothing but blanks between them, and keeps the
place of every token, until a string takes up more than one line: from there on, all positions
are wrong.  Every error is placed at a token, at the end of the text or where no token begins,
the compiled function at the first token, and every function inside it at one of the tokens.
-/
theorem positions_right_until_a_string_spans_lines :
    ∃ lead pieces rest finish,
      Layout (max source.line 1) source.text.toList lead pieces rest finish ∧
      (∀ stream, Lexer.tokens source.start source.text.toList = .ok stream →
        rest = [] ∧ stream.tokens = pieces.map Piece.token ∧ stream.finish = finish) ∧
      (∀ cause position, Lexer.tokens source.start source.text.toList = .error (cause, position) →
        (∃ first, rest.head? = some first ∧ Text.isBlank first = false) ∧ position = finish) ∧
      (∀ error, source.compile = .error error →
        error.location = .ofPosition source.url finish ∨
        ∃ piece ∈ pieces, error.cause = .unexpectedToken piece.token.kind ∧
          error.location = .ofPosition source.url piece.token.position) ∧
      (∀ compiled, source.compile = .ok compiled →
        compiled.location = .ofPosition source.url
          ((pieces.head?.map (·.token.position)).getD finish) ∧
        ∀ place ∈ compiled.expr.places, ∃ piece ∈ pieces,
          place = .ofPosition source.url piece.token.position) := by
  have lexed := lexed source.start source.text.toList
  unfold compile
  generalize Lexer.tokens source.start source.text.toList = outcome at lexed
  cases lexed with
  | @error lead pieces first rest cause position other failed reading =>
      refine ⟨lead, pieces, first :: rest, position, reading.layout, ?_, ?_, ?_, ?_⟩
      · exact fun stream impossible => nomatch impossible
      · rintro _ _ ⟨⟩
        exact ⟨⟨first, rfl, other⟩, rfl⟩
      · rintro error ⟨⟩
        exact .inl rfl
      · exact fun compiled impossible => nomatch impossible
  | @ok lead pieces finish reading =>
      refine ⟨lead, pieces, [], finish, reading.layout, ?_, ?_, ?_, ?_⟩
      · rintro stream ⟨⟩
        exact ⟨rfl, rfl, rfl⟩
      · exact fun cause position impossible => nomatch impossible
      · intro error failed
        have program := Parser.programmed source.url (pieces.map Piece.token)
        dsimp only at failed
        generalize Parser.program source.url (pieces.map Piece.token) = outcome at failed program
        cases program with
        | ok placed => cases failed
        | error suffix =>
            obtain ⟨⟩ := failed
            rcases source.errorAt_cases ⟨_, finish⟩ suffix with
              finished | ⟨token, member, cause, location⟩
            · exact .inl finished
            · obtain ⟨piece, listed, rfl⟩ := List.mem_map.mp member
              exact .inr ⟨piece, listed, cause, location⟩
      · intro compiled succeeded
        have program := Parser.programmed source.url (pieces.map Piece.token)
        dsimp only at succeeded
        generalize Parser.program source.url (pieces.map Piece.token) = outcome at succeeded program
        cases program with
        | error suffix => cases succeeded
        | ok placed =>
            obtain ⟨⟩ := succeeded
            refine ⟨by cases pieces <;> rfl, fun place inside => ?_⟩
            obtain ⟨token, member, same⟩ := placed place inside
            obtain ⟨piece, listed, rfl⟩ := List.mem_map.mp member
            exact ⟨piece, listed, same⟩

end Source
end Script
end PropertyBinding
