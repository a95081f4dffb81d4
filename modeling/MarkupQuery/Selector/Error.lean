import MarkupQuery.Text.Quoted

namespace MarkupQuery.Selector

/-!
# Why a selector is refused
-/

open MarkupQuery.Text (quoted)

/-- The reasons for which a selector or one branch of it is refused. -/
inductive SelectorError where
  /-- Nothing but blanks, or a list without a branch. -/
  | empty (selector : String)
  /-- Reading a branch stopped before its end, at a byte offset. -/
  | unparsed (branch : String) (offset : Nat) (remainder : String)
  /-- A branch of combinators only. -/
  | noSimpleSelector (branch : String)
  /-- A branch of a selector list is refused. -/
  | inSelector (selector : String) (cause : SelectorError)
  deriving Repr, DecidableEq

namespace SelectorError

/-- What is said about an error, its cause left out. -/
def message : SelectorError → String
  | .empty selector => "empty selector: " ++ quoted selector
  | .unparsed branch offset remainder =>
      "unsupported selector syntax in " ++ quoted branch ++ " at byte " ++ toString offset ++
        ": " ++ quoted remainder
  | .noSimpleSelector branch =>
      "selector branch " ++ quoted branch ++ " has no simple selector"
  | .inSelector selector _ => "invalid selector " ++ quoted selector

/-- The innermost cause, the error itself when it has no other. -/
def rootCause : SelectorError → SelectorError
  | .inSelector _ cause => cause.rootCause
  | error => error

/-- The messages from the error to its innermost cause. -/
def messages (error : SelectorError) : List String :=
  match error with
  | .inSelector _ cause => error.message :: cause.messages
  | _ => [error.message]

end SelectorError

end MarkupQuery.Selector
