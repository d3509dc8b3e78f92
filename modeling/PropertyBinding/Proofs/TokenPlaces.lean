import Mathlib
import PropertyBinding.Script.Lexer

namespace PropertyBinding
namespace Script

/-!
# Where tokens stand

Reading a text takes it apart into blanks and tokens, each with the characters it is
spelled with, and nothing is left out between them.  A token stands after everything
before it: the line feeds there give its line, and what follows the last of them its
column.

The position that the lexer keeps for a token is that place as long as no token before it
has a line feed in its spelling.  Only a string can have one, behind a backslash.  The
lexer counts the characters of such a string and not its lines, so that every later
position is too high up.
-/

/-! ## Spellings -/

/-- The characters of a number. -/
def inNumber (character : Char) : Bool :=
  Lexer.isMantissa character || character = 'e' || character = 'E' || character = '+' ||
    character = '-'

/-- The spelling of the contents of a string between its quotes. -/
inductive Quotes (quote : Char) : List Char → List Char → Prop where
  | nil : Quotes quote [] []
  | escaped (character : Char) {spelled body : List Char} (rest : Quotes quote spelled body) :
      Quotes quote ('\\' :: character :: spelled) (Lexer.unescape character :: body)
  | plain {character : Char} {spelled body : List Char} (noEscape : character ≠ '\\')
      (noFeed : character ≠ '\n') (noQuote : character ≠ quote)
      (rest : Quotes quote spelled body) :
      Quotes quote (character :: spelled) (character :: body)

/-- The spelling of a token. -/
inductive Spells : List Char → TokenKind → Prop where
  | number {digits : List Char} {value : Float} (made : ∀ character ∈ digits, inNumber character)
      (read : Number.readNumeral? digits = some value) : Spells digits (.number value)
  | string {quote : Char} {spelled body : List Char} (either : quote = '"' ∨ quote = '\'')
      (quotes : Quotes quote spelled body) :
      Spells (quote :: (spelled ++ [quote])) (.string (String.ofList body))
  | name {first : Char} {rest : List Char} (starts : Lexer.startsName first)
      (continues : ∀ character ∈ rest, Lexer.continuesName character) :
      Spells (first :: rest) (.name (String.ofList (first :: rest)))
  | punct (punct : Punct) : Spells punct.text.toList (.punct punct)

namespace Lexer

theorem quotes_of_stringBody? {quote : Char} {text body after : List Char}
    (read : stringBody? quote text = some (body, after)) :
    ∃ spelled, Quotes quote spelled body ∧ text = spelled ++ quote :: after := by
  fun_induction stringBody? quote text generalizing body after with
  | case1 => simp at read
  | case2 character rest step =>
    obtain ⟨⟨inner, tail⟩, found, same⟩ := Option.map_eq_some_iff.mp read
    simp only [Prod.mk.injEq] at same
    obtain ⟨rfl, rfl⟩ := same
    obtain ⟨spelled, quotes, rfl⟩ := step found
    exact ⟨_, .escaped character quotes, rfl⟩
  | case3 => simp at read
  | case4 rest =>
    simp only [Option.some.injEq, Prod.mk.injEq] at read
    obtain ⟨rfl, rfl⟩ := read
    exact ⟨[], .nil, rfl⟩
  | case5 character rest _ plain noQuote step =>
    obtain ⟨⟨inner, tail⟩, found, same⟩ := Option.map_eq_some_iff.mp read
    simp only [Prod.mk.injEq] at same
    obtain ⟨rfl, rfl⟩ := same
    obtain ⟨spelled, quotes, rfl⟩ := step found
    simp only [Bool.or_eq_true, decide_eq_true_eq, not_or] at plain
    exact ⟨_, .plain plain.1 plain.2 noQuote quotes, rfl⟩

/-- An exponent and what follows it make up the text they were read from. -/
theorem splitExponent_append (text : List Char) :
    (splitExponent text).1 ++ (splitExponent text).2 = text := by
  fun_cases splitExponent text <;> simp

theorem inNumber_of_digit {character : Char} (digit : character.isDigit = true) :
    inNumber character = true := by
  simp [inNumber, isMantissa, digit]

theorem inNumber_of_mem_takeWhile {character : Char} {text : List Char}
    (member : character ∈ text.takeWhile Char.isDigit) : inNumber character = true :=
  inNumber_of_digit (List.mem_takeWhile_imp member)

theorem inNumber_of_splitExponent {text : List Char} :
    ∀ character ∈ (splitExponent text).1, inNumber character = true := by
  fun_cases splitExponent text <;> intro character member
  · rcases List.mem_cons.mp member with rfl | later
    · rfl
    · exact inNumber_of_mem_takeWhile later
  · rcases List.mem_cons.mp member with rfl | later
    · rfl
    · exact inNumber_of_mem_takeWhile later
  · exact inNumber_of_mem_takeWhile member

theorem splitNumber_spec (text : List Char) :
    (splitNumber text).1 ++ (splitNumber text).2 = text ∧
      ∀ character ∈ (splitNumber text).1, inNumber character = true := by
  have whole := List.takeWhile_append_dropWhile (p := isMantissa) (l := text)
  have inside : ∀ character ∈ text.takeWhile isMantissa, inNumber character = true := by
    intro character member
    simp [inNumber, List.mem_takeWhile_imp member]
  unfold splitNumber
  split
  · next none =>
    rw [none] at whole
    exact ⟨whole, inside⟩
  · next mark rest some =>
    rw [some] at whole
    dsimp only
    split
    · next marks =>
      refine ⟨?_, ?_⟩
      · simp only [List.append_assoc, List.cons_append, splitExponent_append]
        exact whole
      · intro character member
        rcases List.mem_append.mp member with early | later
        · exact inside character early
        · rcases List.mem_cons.mp later with rfl | later
          · simp only [Bool.or_eq_true, decide_eq_true_eq] at marks
            rcases marks with rfl | rfl <;> rfl
          · exact inNumber_of_splitExponent character later
    · exact ⟨whole, inside⟩

/-- What is read as a token is a spelling of it, and the rest is what follows the spelling. -/
theorem spells_of_lexeme {first : Char} {rest after : List Char} {kind : TokenKind}
    (read : lexeme first rest = .ok (kind, after)) :
    ∃ spelling, Spells spelling kind ∧ first :: rest = spelling ++ after := by
  unfold lexeme at read
  split at read
  · obtain ⟨whole, made⟩ := splitNumber_spec (first :: rest)
    split at read
    next digits tail same =>
      rw [same] at whole made
      split at read
      · next value found =>
        simp only [Except.ok.injEq, Prod.mk.injEq] at read
        obtain ⟨rfl, rfl⟩ := read
        exact ⟨digits, .number made found, whole.symm⟩
      · simp at read
  · split at read
    · next either =>
      split at read
      · next body tail found =>
        simp only [Except.ok.injEq, Prod.mk.injEq] at read
        obtain ⟨rfl, rfl⟩ := read
        obtain ⟨spelled, quotes, rfl⟩ := quotes_of_stringBody? found
        refine ⟨_, .string ?_ quotes, by simp⟩
        simpa using either
      · simp at read
    · split at read
      · next starts =>
        simp only [Except.ok.injEq, Prod.mk.injEq] at read
        obtain ⟨rfl, rfl⟩ := read
        refine ⟨_, .name starts fun character member => List.mem_takeWhile_imp member, ?_⟩
        rw [List.cons_append, List.takeWhile_append_dropWhile]
      · split at read
        · next punct found =>
          simp only [Except.ok.injEq, Prod.mk.injEq] at read
          obtain ⟨rfl, rfl⟩ := read
          refine ⟨_, .punct punct, ?_⟩
          obtain ⟨tail, whole⟩ := Punct.prefix_of_atFront? found
          rw [← whole, ← String.length_toList, List.drop_left]
        · simp at read

end Lexer

/-! ## Spellings with a line feed -/

theorem isAlphabetic_feed : Text.isAlphabetic '\n' = false := by
  rw [Text.isAlphabetic, ← Array.any_toList]
  decide +kernel

theorem isNumeric_feed : Text.isNumeric '\n' = false := by
  rw [Text.isNumeric, ← Array.any_toList]
  decide +kernel

theorem startsName_feed : Lexer.startsName '\n' = false := by
  rw [Lexer.startsName, isAlphabetic_feed]
  rfl

theorem continuesName_feed : Lexer.continuesName '\n' = false := by
  rw [Lexer.continuesName, isAlphabetic_feed, isNumeric_feed]
  rfl

theorem Quotes.feed {quote : Char} {spelled body : List Char} (quotes : Quotes quote spelled body)
    (feed : '\n' ∈ spelled) : ['\\', '\n'] <:+: spelled := by
  induction quotes with
  | nil => cases feed
  | @escaped character spelled body rest step =>
      rcases List.mem_cons.mp feed with impossible | feed
      · cases impossible
      · rcases List.mem_cons.mp feed with same | feed
        · exact ⟨[], spelled, by rw [same]; rfl⟩
        · exact (step feed).trans ⟨['\\', character], [], by simp⟩
  | @plain character spelled body noEscape noFeed noQuote rest step =>
      rcases List.mem_cons.mp feed with same | feed
      · exact absurd same.symm noFeed
      · exact (step feed).trans ⟨[character], [], by simp⟩

/-- Only a string has a line feed in its spelling, and only behind a backslash. -/
theorem Spells.feed {spelling : List Char} {kind : TokenKind} (spells : Spells spelling kind)
    (feed : '\n' ∈ spelling) :
    (∃ body, kind = .string body) ∧ ['\\', '\n'] <:+: spelling := by
  cases spells with
  | number made read =>
      have impossible := made _ feed
      exact absurd impossible (by decide)
  | @string quote spelled body either quotes =>
      refine ⟨⟨_, rfl⟩, ?_⟩
      have inside : '\n' ∈ spelled := by
        rcases List.mem_cons.mp feed with same | feed
        · rcases either with rfl | rfl <;> cases same
        · rcases List.mem_append.mp feed with feed | last
          · exact feed
          · rcases either with rfl | rfl <;> simp at last
      exact (quotes.feed inside).trans ⟨[quote], [quote], by simp⟩
  | name starts continues =>
      rcases List.mem_cons.mp feed with same | feed
      · rw [← same, startsName_feed] at starts
        cases starts
      · have impossible := continues _ feed
        rw [continuesName_feed] at impossible
        cases impossible
  | punct punct => exact absurd feed (by cases punct <;> decide)

/-! ## Places -/

/-- The line and the column of what comes after some text that begins on a line. -/
def placeAfter (line : Nat) (before : List Char) : Position :=
  ⟨line + before.count '\n', (before.reverse.takeWhile (· ≠ '\n')).length + 1⟩

/-- The position reached by going over some text character by character. -/
def walk : Position → List Char → Position
  | position, [] => position
  | position, character :: rest =>
      if character = '\n' then walk (Lexer.nextLine position) rest
      else walk (Lexer.advance position 1) rest

theorem walk_append (position : Position) (text text' : List Char) :
    walk position (text ++ text') = walk (walk position text) text' := by
  induction text generalizing position with
  | nil => rfl
  | cons character rest step =>
      simp only [List.cons_append, walk]
      split
      · exact step _
      · exact step _

theorem walk_line (position : Position) (text : List Char) :
    (walk position text).line = position.line + text.count '\n' := by
  induction text generalizing position with
  | nil => rfl
  | cons character rest step =>
      simp only [walk]
      by_cases feed : character = '\n'
      · rw [if_pos feed, step, feed, List.count_cons_self]
        simp only [Lexer.nextLine]
        omega
      · rw [if_neg feed, step, List.count_cons_of_ne feed]
        rfl

/-- Without line feeds, all that moves is the column. -/
theorem walk_straight (position : Position) {text : List Char} (straight : '\n' ∉ text) :
    walk position text = Lexer.advance position text.length := by
  induction text generalizing position with
  | nil => rfl
  | cons character rest step =>
      have other : character ≠ '\n' := fun feed => straight (feed ▸ List.mem_cons_self)
      rw [walk, if_neg other, step _ fun feed => straight (List.mem_cons_of_mem _ feed)]
      simp only [Lexer.advance, List.length_cons, Position.mk.injEq, true_and]
      omega

/-- Going over a text from the start of a line ends at the place after the text. -/
theorem walk_eq_placeAfter (line : Nat) (text : List Char) :
    walk ⟨line, 1⟩ text = placeAfter line text := by
  induction text using List.reverseRecOn with
  | nil => rfl
  | append_singleton rest character step =>
      rw [walk_append, step]
      simp only [walk, placeAfter, List.reverse_append, List.reverse_cons, List.reverse_nil,
        List.nil_append, List.cons_append, List.count_append]
      by_cases feed : character = '\n'
      · rw [if_pos feed, feed]
        simp [Lexer.nextLine, Nat.add_assoc]
      · rw [if_neg feed, List.takeWhile_cons_of_pos (by simpa using feed)]
        simp [Lexer.advance, List.count_cons_of_ne feed]

/-! ## Texts taken apart -/

/-- A token with the characters it is spelled with and the blanks behind them. -/
structure Piece where
  token : Token
  spelling : List Char
  gap : List Char

/-- The text of some pieces. -/
def textOf (pieces : List Piece) : List Char :=
  pieces.flatMap fun piece => piece.spelling ++ piece.gap

/-- Whether a token stands on one line. -/
def Piece.Straight (piece : Piece) : Prop :=
  '\n' ∉ piece.spelling

/-- The position kept for what follows some pieces, when some blanks go before them. -/
def kept (position : Position) (lead : List Char) : List Piece → Position
  | [] => walk position lead
  | piece :: rest => kept (Lexer.advance (walk position lead) piece.spelling.length) piece.gap rest

theorem kept_cons (position : Position) (character : Char) (lead : List Char)
    (pieces : List Piece) :
    kept position (character :: lead) pieces = kept (walk position [character]) lead pieces := by
  have moved : walk position (character :: lead) = walk (walk position [character]) lead :=
    walk_append position [character] lead
  cases pieces <;> simp only [kept, moved]

/-- The position that is kept misses the line feeds in the spellings. -/
theorem kept_line (position : Position) (lead : List Char) (pieces : List Piece) :
    (kept position lead pieces).line + (pieces.flatMap Piece.spelling).count '\n' =
      position.line + (lead ++ textOf pieces).count '\n' := by
  induction pieces generalizing position lead with
  | nil => simp [kept, walk_line, textOf]
  | cons piece rest step =>
      have later := step (Lexer.advance (walk position lead) piece.spelling.length) piece.gap
      have start : (Lexer.advance (walk position lead) piece.spelling.length).line =
          position.line + lead.count '\n' := walk_line position lead
      rw [start] at later
      simp only [kept, textOf, List.flatMap_cons, List.count_append] at later ⊢
      omega

theorem kept_eq_walk (position : Position) (lead : List Char) {pieces : List Piece}
    (straight : ∀ piece ∈ pieces, piece.Straight) :
    kept position lead pieces = walk position (lead ++ textOf pieces) := by
  induction pieces generalizing position lead with
  | nil => simp [kept, textOf]
  | cons piece rest step =>
      have first := straight piece List.mem_cons_self
      rw [kept, ← walk_straight _ first, step _ _ fun other member =>
        straight other (List.mem_cons_of_mem _ member)]
      simp only [textOf, List.flatMap_cons, List.append_assoc, walk_append]

/-- The position that is kept is the right one until a token takes up several lines. -/
theorem kept_eq_placeAfter_iff {line : Nat} {lead : List Char} {pieces : List Piece} :
    kept ⟨line, 1⟩ lead pieces = placeAfter line (lead ++ textOf pieces) ↔
      ∀ piece ∈ pieces, piece.Straight := by
  constructor
  · intro same piece member feed
    have lines := kept_line ⟨line, 1⟩ lead pieces
    rw [same] at lines
    have inside : '\n' ∈ pieces.flatMap Piece.spelling := List.mem_flatMap.mpr ⟨piece, member, feed⟩
    have some := List.count_pos_iff.mpr inside
    simp only [placeAfter] at lines
    omega
  · intro straight
    rw [kept_eq_walk _ _ straight, walk_eq_placeAfter]

/--
A text taken apart: blanks, then tokens with their spellings and the blanks behind them, and
what is left.
-/
structure Apart (text lead : List Char) (pieces : List Piece) (rest : List Char) : Prop where
  whole : text = lead ++ textOf pieces ++ rest
  lead_blank : ∀ character ∈ lead, Text.isBlank character
  gap_blank : ∀ piece ∈ pieces, ∀ character ∈ piece.gap, Text.isBlank character
  spelled : ∀ piece ∈ pieces, Spells piece.spelling piece.token.kind

/-- A text taken apart, with the positions that are kept for the tokens and for what is left. -/
structure Reading (start : Position) (text lead : List Char) (pieces : List Piece)
    (rest : List Char) (finish : Position) : Prop extends Apart text lead pieces rest where
  placed : ∀ earlier piece later, pieces = earlier ++ piece :: later →
    piece.token.position = kept start lead earlier
  finished : finish = kept start lead pieces

namespace Reading

variable {start finish : Position} {text lead rest : List Char} {pieces : List Piece}

/-- Before the first character. -/
theorem nil (start : Position) (rest : List Char) : Reading start rest [] [] rest start where
  whole := rfl
  lead_blank := by simp
  gap_blank := by simp
  spelled := by simp
  placed := by simp
  finished := rfl

/-- A blank in front of a text. -/
theorem blank {character : Char} (isBlank : Text.isBlank character = true)
    (reading : Reading (walk start [character]) text lead pieces rest finish) :
    Reading start (character :: text) (character :: lead) pieces rest finish where
  whole := by simp [reading.whole]
  lead_blank := List.forall_mem_cons.mpr ⟨isBlank, reading.lead_blank⟩
  gap_blank := reading.gap_blank
  spelled := reading.spelled
  placed := by
    intro earlier piece later same
    rw [kept_cons]
    exact reading.placed earlier piece later same
  finished := by
    rw [kept_cons]
    exact reading.finished

/-- A token in front of a text. -/
theorem token {spelling : List Char} {kind : TokenKind} (spells : Spells spelling kind)
    (reading : Reading (Lexer.advance start spelling.length) text lead pieces rest finish) :
    Reading start (spelling ++ text) [] (⟨⟨kind, start⟩, spelling, lead⟩ :: pieces) rest finish
    where
  whole := by simp [reading.whole, textOf]
  lead_blank := by simp
  gap_blank := List.forall_mem_cons.mpr ⟨reading.lead_blank, reading.gap_blank⟩
  spelled := List.forall_mem_cons.mpr ⟨spells, reading.spelled⟩
  placed := by
    intro earlier piece later same
    cases earlier with
    | nil =>
        simp only [List.nil_append, List.cons.injEq] at same
        obtain ⟨rfl, -⟩ := same
        rfl
    | cons first earlier =>
        simp only [List.cons_append, List.cons.injEq] at same
        obtain ⟨rfl, same⟩ := same
        exact reading.placed earlier piece later same
  finished := reading.finished

end Reading

/--
A text taken apart that begins on a line.  The position of a token is its place if and only if
every token before it stands on one line, and a token that does not is a string with a line
feed behind a backslash.
-/
structure Layout (line : Nat) (text lead : List Char) (pieces : List Piece)
    (rest : List Char) (finish : Position) : Prop extends Apart text lead pieces rest where
  placed : ∀ earlier piece later, pieces = earlier ++ piece :: later →
    (piece.token.position = placeAfter line (lead ++ textOf earlier) ↔
      ∀ before ∈ earlier, before.Straight)
  finished : finish = placeAfter line (lead ++ textOf pieces) ↔ ∀ piece ∈ pieces, piece.Straight
  bent : ∀ piece ∈ pieces, ¬ piece.Straight →
    (∃ body, piece.token.kind = .string body) ∧ ['\\', '\n'] <:+: piece.spelling

theorem Reading.layout {line : Nat} {text lead rest : List Char} {pieces : List Piece}
    {finish : Position} (reading : Reading ⟨line, 1⟩ text lead pieces rest finish) :
    Layout line text lead pieces rest finish where
  toApart := reading.toApart
  placed := by
    intro earlier piece later same
    rw [reading.placed earlier piece later same]
    exact kept_eq_placeAfter_iff
  finished := by
    rw [reading.finished]
    exact kept_eq_placeAfter_iff
  bent := by
    intro piece member bent
    exact (reading.spelled piece member).feed (not_not.mp bent)

/-- What a text comes to: its tokens, or those before the place where no token can be read. -/
inductive Lexed (start : Position) (text : List Char) :
    Except (SyntaxError × Position) TokenStream → Prop where
  | ok {lead : List Char} {pieces : List Piece} {finish : Position}
      (reading : Reading start text lead pieces [] finish) :
      Lexed start text (.ok ⟨pieces.map Piece.token, finish⟩)
  | error {lead : List Char} {pieces : List Piece} {first : Char} {rest : List Char}
      {cause : SyntaxError} {position : Position} (other : Text.isBlank first = false)
      (failed : Lexer.lexeme first rest = .error cause)
      (reading : Reading start text lead pieces (first :: rest) position) :
      Lexed start text (.error (cause, position))

theorem Lexed.blank {start : Position} {character : Char} {text : List Char}
    {outcome : Except (SyntaxError × Position) TokenStream}
    (isBlank : Text.isBlank character = true)
    (lexed : Lexed (walk start [character]) text outcome) :
    Lexed start (character :: text) outcome := by
  cases lexed with
  | ok reading => exact .ok (reading.blank isBlank)
  | error other failed reading => exact .error other failed (reading.blank isBlank)

/-- The lexer takes a text apart. -/
theorem lexed (start : Position) (text : List Char) :
    Lexed start text (Lexer.tokens start text) := by
  fun_induction Lexer.tokens start text with
  | case1 start => exact .ok (.nil start [])
  | case2 start rest step => exact .blank (by decide +kernel) step
  | case3 start first rest noFeed isBlank step =>
      refine .blank isBlank ?_
      rwa [walk, if_neg noFeed]
  | case4 start first rest noFeed notBlank cause failed =>
      exact .error (Bool.eq_false_iff.mpr notBlank) failed (.nil start (first :: rest))
  | case5 start first rest noFeed notBlank kind after read width step =>
      obtain ⟨spelling, spells, whole⟩ := Lexer.spells_of_lexeme read
      have size : width = spelling.length := by
        simp only [width, whole, List.length_append]
        omega
      rw [size] at step ⊢
      rw [whole]
      generalize Lexer.tokens (Lexer.advance start spelling.length) after = outcome at step
      cases step with
      | ok reading => exact .ok (reading.token spells)
      | error other failed reading => exact .error other failed (reading.token spells)

end Script
end PropertyBinding
