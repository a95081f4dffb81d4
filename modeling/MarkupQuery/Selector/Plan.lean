import MarkupQuery.Selector.Branch

namespace MarkupQuery.Selector

/-!
# Selector lists

A selector is a list of branches separated by commas. Blanks around a branch do not matter and
blank branches are skipped. The branches are read from left to right, and the first one that is
refused refuses the selector.
-/

open MarkupQuery.Text

/-- The branches of a selector, each without the blanks around it, blank ones left out. -/
def branchTexts (selector : String) : List String :=
  ((selector.toList.splitOn ',').map trim).filterMap fun branch =>
    if branch.isEmpty then none else some (String.ofList branch)

/-- What a selector asks for: its branches in order. -/
abbrev Plan := List Branch

/-- The plan of a selector, or why it has none. -/
def Plan.parse (selector : String) : Except SelectorError Plan :=
  match branchTexts selector with
  | [] => .error (.empty selector)
  | branches => (branches.mapM Branch.parse).mapError (.inSelector selector)

end MarkupQuery.Selector
