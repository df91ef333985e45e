import JudgeClient.Fetch.Resource
import JudgeClient.View.Failure

/-!
# Fetched data

How a resource is shown: its data if there is some, with a line above it if the last refresh
failed; the error if there is no data; and a line that asks for patience before either.
-/

namespace JudgeClient.View

/-- The line that is shown before there is anything else. -/
def loading : Fragment := [Node.styled "p" "text-text" (Node.ofText "Loading...")]

/-- The line above data that could not be refreshed. -/
def refreshFailed (e : Error) : Node :=
  Node.styled "p" "text-red text-sm" (Node.ofText ("Refresh failed: " ++ e.display))

/-- What is shown of a resource. -/
def fetched {α : Type} (shown : Shown α) (render : α → Fragment) : Fragment :=
  match shown.data, shown.error with
  | some data, some e => refreshFailed e :: render data
  | some data, none => render data
  | none, some e => failure e
  | none, none => loading

end JudgeClient.View
