import MarkupQuery.Proofs.Selector.Advancing
import MarkupQuery.Proofs.Selector.CursorSteps

namespace MarkupQuery.Selector

/-!
# The cursor reads what stands there

Reading with a cursor, from an offset where some text stands, gives what reading that text gives,
and leaves the cursor where the remaining text stands. Each reader with a cursor is held against the
reader of texts that it belongs to; where a test is unfinished, only the restored cursor counts.
-/

open MarkupQuery.Text

namespace CursorReader

variable {α β : Type} {input : String} {text middle rest : List Char}

/-- What a test gives: a value and the text after it, or that it fails somewhere in the text. -/
def Yields
    (input : String)
    (reader : CursorReader (Option α))
    (text : List Char) :
    Option (α × List Char) → Prop
  | some read => Reads input reader text (some read.1) read.2
  | none => ∃ rest, Reads input reader text none rest

namespace Yields

variable {outcome : Option (α × List Char)} {reader : CursorReader (Option α)}

/-- What a test gives is what it gives after its first step. -/
theorem after
    {first : CursorReader β}
    {next : β → CursorReader (Option α)}
    {value : β}
    (step : Reads input first text value middle)
    (yields : Yields input (next value) middle outcome) :
    Yields input (first >>= next) text outcome := by
  cases outcome with
  | some read =>
      exact Reads.bind step yields
  | none =>
      obtain ⟨rest, fails⟩ := yields
      exact ⟨rest, step.bind fails⟩

/-- After a test that passes the reader goes on with its first branch. -/
theorem ifTrue
    {test : CursorReader Bool}
    {failed : CursorReader (Option α)}
    (first : Reads input test text true middle)
    (yields : Yields input reader middle outcome) :
    Yields input (do if ← test then reader else failed) text outcome :=
  after first (by simpa using yields)

/-- After a test that fails the reader goes on with its second branch. -/
theorem ifFalse
    {test : CursorReader Bool}
    {passed : CursorReader (Option α)}
    (first : Reads input test text false middle)
    (yields : Yields input reader middle outcome) :
    Yields input (do if ← test then passed else reader) text outcome :=
  after first (by simpa using yields)

/-- A reader that only gives a value stays where it is. -/
theorem value
    (read : α)
    (text : List Char) :
    Yields input (Pure.pure (some read)) text (some (read, text)) :=
  Reads.pure (some read)

/-- A reader that only gives up stays where it is. -/
theorem nothing (text : List Char) :
    Yields input (Pure.pure none : CursorReader (Option α)) text none :=
  ⟨text, .pure none⟩

/-- Changing the value that is read changes nothing about the place. -/
theorem map
    (yields : Yields input reader text outcome)
    (f : α → β) :
    Yields input (do return (← reader).map f) text
      (outcome.map fun read => (f read.1, read.2)) := by
  cases outcome with
  | some read =>
      exact Reads.bind yields (.pure _)
  | none =>
      obtain ⟨rest, fails⟩ := yields
      exact ⟨rest, fails.bind (.pure _)⟩

end Yields

/--
A test with a cursor gives what a reader of texts gives, and leaves the cursor where it was where
that one fails.
-/
structure ReadsTest
    (input : String)
    (reader : CursorReader (Option α))
    (read? : List Char → Option (α × List Char)) :
    Prop where
  passes :
    ∀ {text value rest},
      read? text = some (value, rest) → Reads input reader text (some value) rest
  stays :
    ∀ {text}, read? text = none → Reads input reader text none text

/-- What a reader of texts reads is a part of the text that is not empty. -/
def Consumes (read? : List Char → Option (α × List Char)) : Prop :=
  ∀ {text value rest}, read? text = some (value, rest) → ∃ front, front ≠ [] ∧ text = front ++ rest

section Restoring

variable {reader : CursorReader (Option α)} {read? : List Char → Option (α × List Char)}

/-- A part that is read, or stays, yields what the reader of characters says. -/
theorem ReadsTest.yields
    (reads : ReadsTest input reader read?)
    (text : List Char) :
    Yields input reader text (read? text) := by
  cases outcome : read? text with
  | some read =>
      exact reads.passes outcome
  | none =>
      exact ⟨text, reads.stays outcome⟩

/-- The cursor is put back where it was, however far it got. -/
theorem readsTest_orRestore
    (yields : ∀ text, Yields input reader text (read? text)) :
    ReadsTest input (orRestore reader) read? where
  passes {text value rest} read position stands := by
    have passed := yields text
    rw [read] at passed
    obtain ⟨next, outcome, standsNext⟩ := passed position stands
    exact ⟨next, (runAt_bind rfl).trans ((runAt_bind outcome).trans rfl), standsNext⟩
  stays {text} stuck position stands := by
    have failed := yields text
    rw [stuck] at failed
    obtain ⟨rest, fails⟩ := failed
    obtain ⟨next, outcome, _⟩ := fails position stands
    exact ⟨position, (runAt_bind rfl).trans ((runAt_bind outcome).trans rfl), stands⟩

end Restoring

section Tests

/-- Nothing of a class is taken where the text does not begin with it. -/
theorem isEmpty_takeWhile
    (inClass : Char → Bool)
    (text : List Char) :
    (text.takeWhile inClass).isEmpty = !text.head?.any inClass := by
  cases text with
  | nil =>
      rfl
  | cons c text =>
      cases inside : inClass c <;> simp [inside]

/-- Where nothing of a class is taken, nothing of it is dropped. -/
theorem dropWhile_eq_self
    {inClass : Char → Bool}
    (nothing : text.takeWhile inClass = []) :
    text.dropWhile inClass = text := by
  have whole := List.takeWhile_append_dropWhile (p := inClass) (l := text)
  rwa [nothing, List.nil_append] at whole

/-- A word is read as the longest run of its class. -/
theorem readsTest_word (inClass : Char → Bool) :
    ReadsTest input (word inClass) (run? inClass) where
  passes {text letters rest} read := by
    obtain ⟨run, rfl, _⟩ := exists_word_of_run? read
    unfold run? at read
    split at read
    · cases read
    · obtain ⟨taken, dropped⟩ := Prod.mk.inj (Option.some.inj read)
      refine (reads_takeWhile inClass text).bind ?_
      rw [taken, dropped, if_neg (by simpa using run.nonempty)]
      exact .pure _
  stays {text} stuck := by
    unfold run? at stuck
    split at stuck
    · next nothing =>
        refine (reads_takeWhile inClass text).bind ?_
        rw [nothing, dropWhile_eq_self nothing]
        exact .pure none
    · cases stuck

/-- A text does not begin with a character if it is none with this character in front. -/
theorem head?_ne_of_forall
    {c : Char}
    (other : ∀ rest, text = c :: rest → False) :
    text.head? ≠ some c := by
  intro head
  obtain ⟨rest, shape⟩ := List.head?_eq_some_iff.mp head
  exact other rest shape

/-- Identifiers are read alike by the cursor and from characters. -/
theorem readsTest_ident : ReadsTest input ident ident? :=
  readsTest_word isIdentChar

/-- Each glyph takes one byte. -/
theorem utf8Size_of_ofGlyph?
    {c : Char}
    {glyph : Combinator}
    (isGlyph : Combinator.ofGlyph? c = some glyph) :
    c.utf8Size = 1 := by
  rcases eq_of_ofGlyph? isGlyph with rfl | rfl | rfl <;> decide

/-- Combinators are read alike by the cursor and from characters. -/
theorem readsTest_combinator : ReadsTest input combinator combinator? where
  passes {text found rest} read := by
    refine (reads_takeWhile isSpace text).bind ((reads_peek _).bind ?_)
    simp only [combinator?] at read
    cases here : (text.dropWhile isSpace).head?.bind Combinator.ofGlyph? with
    | some glyph =>
        obtain ⟨c, head, isGlyph⟩ := Option.bind_eq_some_iff.mp here
        obtain ⟨others, shape⟩ := List.head?_eq_some_iff.mp head
        rw [here, shape, List.tail_cons] at read
        obtain ⟨rfl, rfl⟩ := Prod.mk.inj (Option.some.inj read)
        have size : byteLength [c] = 1 := by
          simp [utf8Size_of_ofGlyph? isGlyph]
        have moved : Reads input (advance 1) (c :: others) () others :=
          size ▸ reads_advance [c] others
        rw [shape]
        exact moved.bind ((reads_takeWhile isSpace others).bind (.pure _))
    | none =>
        rw [here] at read
        cases space : text.head?.any isSpace with
        | true =>
            rw [space] at read
            obtain ⟨rfl, rfl⟩ := Prod.mk.inj (Option.some.inj read)
            rw [isEmpty_takeWhile, space]
            exact .pure _
        | false =>
            rw [space] at read
            cases read
  stays {text} stuck := by
    refine (reads_takeWhile isSpace text).bind ((reads_peek _).bind ?_)
    simp only [combinator?] at stuck
    cases here : (text.dropWhile isSpace).head?.bind Combinator.ofGlyph? with
    | some glyph =>
        rw [here] at stuck
        cases stuck
    | none =>
        rw [here] at stuck
        cases space : text.head?.any isSpace with
        | true =>
            rw [space] at stuck
            cases stuck
        | false =>
            have nothing : (text.takeWhile isSpace).isEmpty = true := by
              rw [isEmpty_takeWhile, space]
              rfl
            rw [nothing, dropWhile_eq_self (List.isEmpty_iff.mp nothing)]
            exact .pure none

/-- The reader of a tag is right in every case. -/
theorem reads_tagTest (text : List Char) :
    Reads input tagTest text (Selector.tagTest text).1 (Selector.tagTest text).2 := by
  unfold Selector.tagTest
  split
  · next rest =>
      exact .ifTrue (reads_eat '*' rest) (.pure _)
  · next noStar =>
      refine .ifFalse (reads_eat_of_ne (head?_ne_of_forall noStar)) ?_
      split
      · next stuck =>
          exact ((readsTest_word Char.isAlphanum).stays stuck).bind (.pure _)
      · next name rest read =>
          exact ((readsTest_word Char.isAlphanum).passes read).bind (.pure _)

/-- Identifiers behind a sign are read alike by the cursor and from characters. -/
theorem readsTest_signedIdent (sign : Char) :
    ReadsTest input (signedIdent sign) (signedIdent? sign) := by
  refine readsTest_orRestore fun text => ?_
  unfold signedIdent?
  split
  · exact .ifFalse (reads_eat_of_ne (by simp)) (.nothing [])
  · next c rest =>
      split
      · next same =>
          subst same
          exact .ifTrue (reads_eat c rest) ((readsTest_ident.yields rest).map String.ofList)
      · next other =>
          exact .ifFalse (reads_eat_of_ne (by simpa using other)) (.nothing _)

/-- Operators are read alike by the cursor and from characters. -/
theorem readsTest_operator : ReadsTest input operator operator? where
  passes {text found rest} read := by
    rw [eq_symbol_of_operator? read]
    cases found with
    | startsWith =>
        exact .ifTrue (reads_eatLiteral "^=" rest) (.pure _)
    | endsWith =>
        exact .ifFalse (reads_eatLiteral_of_none rfl)
          (.ifTrue (reads_eatLiteral "$=" rest) (.pure _))
    | contains =>
        exact .ifFalse (reads_eatLiteral_of_none rfl)
          (.ifFalse (reads_eatLiteral_of_none rfl)
            (.ifTrue (reads_eatLiteral "*=" rest) (.pure _)))
    | equals =>
        exact .ifFalse (reads_eatLiteral_of_none rfl)
          (.ifFalse (reads_eatLiteral_of_none rfl)
            (.ifFalse (reads_eatLiteral_of_none rfl)
              (.ifTrue (reads_eat '=' rest) (.pure _))))
  stays {text} stuck := by
    have other (operator : AttributeOperator) :
        afterLiteral? operator.symbol.toList text = none := by
      refine Option.eq_none_iff_forall_ne_some.mpr fun rest read => ?_
      rw [afterLiteral?_eq_some_iff.mp read] at stuck
      cases operator <;> cases stuck
    have noEquals : text.head? ≠ some '=' := head?_ne_of_forall fun rest shape => by
      rw [shape] at stuck
      cases stuck
    exact .ifFalse (reads_eatLiteral_of_none (other .startsWith))
      (.ifFalse (reads_eatLiteral_of_none (other .endsWith))
        (.ifFalse (reads_eatLiteral_of_none (other .contains))
          (.ifFalse (reads_eat_of_ne noEquals) (.pure none))))

/-- What stands before a closing character is read alike, and the character dropped. -/
theorem yields_upTo
    (closing : Char)
    (text : List Char) :
    Yields input (upTo closing) text (quotedValue? closing text) := by
  have taken :
      Reads input (takeWhile fun c => c != closing) text
        (text.takeWhile fun c => c != closing) (text.dropWhile fun c => c != closing) :=
    reads_takeWhile _ text
  unfold quotedValue?
  split
  · next atEnd =>
      rw [atEnd] at taken
      exact .after taken (.ifFalse (reads_eat_of_ne (by simp)) (.nothing []))
  · next found rest remains =>
      have same : found = closing := by
        have stops : Stops (fun c => c != closing) (text.dropWhile fun c => c != closing) :=
          stops_dropWhile text
        rw [remains] at stops
        simpa using stops_cons.mp stops
      rw [remains, same] at taken
      exact .after taken (.ifTrue (reads_eat closing rest) (.value _ rest))

/-- Values are read alike by the cursor and from characters, quoted or bare. -/
theorem yields_value (text : List Char) :
    Yields input value text (value? text) := by
  unfold value?
  split
  · next rest =>
      exact .ifTrue (reads_eat '"' rest) (yields_upTo '"' rest)
  · next rest =>
      exact .ifFalse (reads_eat_of_ne (by simp))
        (.ifTrue (reads_eat '\'' rest) (yields_upTo '\'' rest))
  · next noDouble noSingle =>
      exact .ifFalse (reads_eat_of_ne (head?_ne_of_forall noDouble))
        (.ifFalse (reads_eat_of_ne (head?_ne_of_forall noSingle))
          ((readsTest_word _).yields text))

/-- Comparisons are read alike by the cursor and from characters. -/
theorem yields_comparison (text : List Char) :
    Yields input comparison text (comparison? text) := by
  unfold comparison?
  split
  · next rest =>
      exact .ifTrue (reads_eat ']' rest) (.value none rest)
  · next notClosed =>
      refine .ifFalse (reads_eat_of_ne (head?_ne_of_forall notClosed)) ?_
      split
      · next stuck =>
          exact .after (readsTest_operator.stays stuck) (.nothing text)
      · next operator afterOperator read =>
          refine .after (readsTest_operator.passes read) ?_
          have yields : Yields input value afterOperator (value? afterOperator) :=
            yields_value afterOperator
          dsimp only
          split
          · next value rest here =>
              rw [here] at yields
              exact .after yields (.ifTrue (reads_eat ']' rest) (.value _ rest))
          · next unclosed =>
              cases outcome : value? afterOperator with
              | none =>
                  rw [outcome] at yields
                  obtain ⟨rest, fails⟩ := yields
                  exact .after fails (.nothing rest)
              | some read =>
                  rw [outcome] at yields
                  have notClosed : read.2.head? ≠ some ']' :=
                    head?_ne_of_forall fun rest shape =>
                      unclosed read.1 rest (outcome.trans (congrArg some (Prod.ext rfl shape)))
                  exact .after yields (.ifFalse (reads_eat_of_ne notClosed) (.nothing read.2))

/-- Attribute tests are read alike, and the cursor goes back if one is not closed. -/
theorem readsTest_attributeTest : ReadsTest input attributeTest attributeTest? := by
  refine readsTest_orRestore fun text => ?_
  unfold attributeTest?
  split
  · next rest =>
      refine .ifTrue (reads_eat '[' rest) ?_
      split
      · next stuck =>
          exact .after (readsTest_ident.stays stuck) (.nothing rest)
      · next name afterName read =>
          refine .after (readsTest_ident.passes read) ?_
          exact (yields_comparison afterName).map _
  · next noBracket =>
      exact .ifFalse (reads_eat_of_ne (head?_ne_of_forall noBracket)) (.nothing text)

/-- The argument is read up to its parenthesis as a value is up to its quote. -/
theorem argument?_eq (text : List Char) :
    argument? text =
      (quotedValue? ')' text).map fun read => (String.ofList (trim read.1), read.2) := by
  unfold argument? quotedValue?
  split <;> rfl

/-- The names of pseudo-classes are read alike by the cursor and from characters. -/
theorem yields_pseudoName (text : List Char) :
    Yields input pseudoName text (pseudoName? text) := by
  unfold pseudoName?
  split
  · next rest read =>
      rw [afterLiteral?_eq_some_iff.mp read]
      exact .ifTrue (reads_eatLiteral _ rest) (.value _ rest)
  · next notFirst =>
      refine .ifFalse (reads_eatLiteral_of_none notFirst) ?_
      split
      · next rest read =>
          rw [afterLiteral?_eq_some_iff.mp read]
          exact .ifTrue (reads_eatLiteral _ rest) (.value _ rest)
      · next notLast =>
          refine .ifFalse (reads_eatLiteral_of_none notLast) ?_
          split
          · next notNth =>
              exact .ifFalse (reads_eatLiteral_of_none notNth) (.nothing text)
          · next rest read =>
              rw [afterLiteral?_eq_some_iff.mp read]
              rw [argument?_eq, Option.map_map]
              exact .ifTrue (reads_eatLiteral _ rest) ((yields_upTo ')' rest).map _)

/-- Pseudo-classes are read alike by the cursor and from characters. -/
theorem readsTest_pseudo : ReadsTest input pseudo pseudo? := by
  refine readsTest_orRestore fun text => ?_
  unfold pseudo?
  split
  · next rest =>
      exact .ifTrue (reads_eat ':' rest) (yields_pseudoName rest)
  · next noColon =>
      exact .ifFalse (reads_eat_of_ne (head?_ne_of_forall noColon)) (.nothing text)

end Tests

section Consumed

/-- An identifier behind a sign is never read out of nothing. -/
theorem consumes_signedIdent? (sign : Char) : Consumes (signedIdent? sign) := by
  intro text name rest read
  obtain ⟨ident, shape, _⟩ := exists_written_of_signedIdent? read
  exact ⟨_, List.cons_ne_nil _ _, shape⟩

/-- An attribute test is never read out of nothing. -/
theorem consumes_attributeTest? : Consumes attributeTest? := by
  intro text test rest read
  obtain ⟨written, shape, _⟩ := exists_written_of_attributeTest? read
  exact ⟨_, List.cons_ne_nil _ _, shape⟩

/-- A pseudo-class is never read out of nothing. -/
theorem consumes_pseudo? : Consumes pseudo? := by
  intro text pseudo rest read
  obtain ⟨written, shape, _⟩ := exists_written_of_pseudo? read
  refine ⟨written.text, ?_, shape⟩
  cases written <;> exact List.cons_ne_nil _ _

/-- A combinator is never read out of nothing. -/
theorem consumes_combinator? : Consumes combinator? := by
  intro text combinator rest read
  obtain ⟨run, shape, nonempty, _⟩ := exists_run_of_combinator? read
  exact ⟨run, nonempty, shape⟩

/-- An identifier is never read out of nothing. -/
theorem consumes_ident? : Consumes ident? := by
  intro text letters rest read
  obtain ⟨word, rfl, shape⟩ := exists_word_of_run? read
  exact ⟨word.letters, word.nonempty, shape⟩

end Consumed

section Loops

variable {reader : CursorReader (Option α)} {read? : List Char → Option (α × List Char)}

/-- Behind a part that takes characters there is less text than before. -/
theorem Consumes.length_lt
    (consumes : Consumes read?)
    {value : α}
    (read : read? text = some (value, rest)) :
    rest.length < text.length := by
  obtain ⟨front, nonempty, rfl⟩ := consumes read
  have positive := List.length_pos_iff.mpr nonempty
  rw [List.length_append]
  omega

/-- A loop that may have more turns than there are characters ends where nothing more is read. -/
theorem reads_collect
    (reads : ReadsTest input reader read?)
    (consumes : Consumes read?)
    {turns : Nat}
    (enough : text.length < turns) :
    Reads input (collect reader turns) text (many read? text).1 (many read? text).2 := by
  induction turns generalizing text with
  | zero =>
      omega
  | succ turns inductionHypothesis =>
      cases outcome : read? text with
      | none =>
          rw [many_of_none outcome]
          exact (reads.stays outcome).bind (.pure [])
      | some read =>
          have shorter := consumes.length_lt outcome
          rw [many_of_some outcome shorter]
          exact (reads.passes outcome).bind
            ((inductionHypothesis (by omega)).bind (.pure _))

/-- The turns that a loop has are always enough. -/
theorem reads_repeated
    (reads : ReadsTest input reader read?)
    (consumes : Consumes read?)
    (text : List Char) :
    Reads input (repeated reader) text (many read? text).1 (many read? text).2 := by
  intro position stands
  have enough : text.length < input.utf8ByteSize + 1 :=
    Nat.lt_succ_of_le stands.length_le
  exact reads_collect reads consumes enough position stands

/-- An id is read alike by the cursor and from characters, if there is one. -/
theorem reads_idTest (text : List Char) :
    Reads input (signedIdent '#') text (idTest text).1 (idTest text).2 := by
  unfold idTest
  split
  · next stuck =>
      exact (readsTest_signedIdent '#').stays stuck
  · next read =>
      exact (readsTest_signedIdent '#').passes read

/-- All tests of a segment are read alike by the cursor and from characters. -/
theorem reads_simpleSelector (text : List Char) :
    Reads input simpleSelector text
      (readSegment .descendant text).1 (readSegment .descendant text).2 :=
  (reads_tagTest text).bind <|
    (reads_idTest _).bind <|
      (reads_repeated (readsTest_signedIdent '.') (consumes_signedIdent? '.') _).bind <|
        (reads_repeated readsTest_attributeTest consumes_attributeTest? _).bind <|
          (reads_repeated readsTest_pseudo consumes_pseudo? _).bind (.pure _)

end Loops

end CursorReader

end MarkupQuery.Selector
