import JudgeClient.Config
import JudgeClient.View.Node

/-!
# The frame of every page

The bar with the site's name and its main links above a page, and the line with the API's origin
below it.
-/

namespace JudgeClient.View

/-- The main links. -/
def mainLinks : List (String × String) := [
  ("/problems", "Problems"),
  ("/submissions", "Submissions"),
  ("/contests", "Contests"),
  ("/ranklist", "Rank List")]

/-- The bar above every page. -/
def navbar (c : Config) : Fragment := [
  Node.styled "nav"
    "bg-background sticky top-0 p-2 flex flex-row justify-between border-b-2 border-primary" [
    Node.styled "div" "flex flex-row flex-nowrap" [
      Node.styledLink "/" "text-text text-lg px-5" (Node.ofText c.siteName),
      Node.styled "ul" "flex flex-row flex-nowrap justify-between items-center"
        (mainLinks.map fun l =>
          Node.styled "li" "transition-opacity duration-300 hover:opacity-60" [
            Node.styledLink l.1 "text-text text-base px-6" (Node.ofText l.2)])]]]

/-- The line below every page. -/
def footer (c : Config) : Fragment := [
  Node.styled "footer" "w-full mt-auto p-2 flex flex-col justify-center items-center" [
    Node.styled "p" "text-text"
      (Node.ofText "Judge API at " ++ [Node.plain "code" (Node.ofText c.apiServer)])]]

end JudgeClient.View
