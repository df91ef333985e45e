import JudgeClient.Error
import JudgeClient.Text.Blank
import JudgeClient.View.Node

/-!
# Failures

How a failure is shown.  A thing that is not there gets a page of its own, with what the API said
about it; any other error is shown under the title of its kind.
-/

namespace JudgeClient.View

/-- The page of a thing that is not there: a location, or what the API gave as the reason. -/
def notFound (location detail : Option String) : Fragment := [
  Node.styled "div" "flex flex-col items-center p-8" [
    Node.styled "h1" "text-4xl" (Node.ofText "404"),
    Node.styled "p" "text-text" (location.elim [] fun l => Node.ofText ("Nothing lives at " ++ l)),
    Node.styled "p" "text-text" (detail.elim [] Node.ofText),
    Node.styledLink "/" "text-primary" (Node.ofText "Back to home")]]

/-- What an error says about the missing thing, if it says anything. -/
def notFoundDetail (e : Error) : Option String :=
  match Text.trim e.context.toList with
  | [] => none
  | s => some (String.ofList s)

/-- An error. -/
def failure (e : Error) : Fragment :=
  match e.kind with
  | .notFound => notFound none (notFoundDetail e)
  | kind => [
    Node.styled "div" "p-4 border border-red rounded" [
      Node.styled "h2" "text-xl" (Node.ofText kind.title),
      Node.styled "pre" "whitespace-pre-wrap" (Node.ofText e.context)]]

end JudgeClient.View
