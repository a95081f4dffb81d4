import MarkupQuery.Text.Ascii
import MarkupQuery.Text.Quoted
import MarkupQuery.Warning

namespace MarkupQuery.Selector

/-!
# Arguments of `nth-child`

An argument is `odd` or `even` in any case, or a decimal number without a sign. Any other argument
is let through by the reader but accepts no position, which is worth a warning.
-/

/-- The positions that an argument of `nth-child` accepts. -/
inductive NthPosition where
  | odd
  | even
  | number (position : Nat)
  | unsupported
  deriving Repr, DecidableEq

namespace NthPosition

/-- What an argument means. -/
def ofArgument (argument : String) : NthPosition :=
  if Text.lowercase argument = "odd" then
    .odd
  else if Text.lowercase argument = "even" then
    .even
  else if !argument.toList.isEmpty && argument.toList.all Char.isDigit then
    .number (Nat.ofDigitChars 10 argument.toList 0)
  else
    .unsupported

/-- Whether a position, counted from one, is accepted. -/
def accepts (nth : NthPosition) (position : Nat) : Bool :=
  match nth with
  | .odd => position % 2 == 1
  | .even => position % 2 == 0
  | .number expected => expected == position
  | .unsupported => false

/-- What testing a position against an argument warns about. -/
def warnings (argument : String) : List Warning :=
  match ofArgument argument with
  | .unsupported =>
      [{
        component := "Selector"
        message :=
          "nth-child argument " ++ Text.quoted argument ++
            " never matches (expected a number, odd or even)"
      }]
  | _ => []

end NthPosition

end MarkupQuery.Selector
