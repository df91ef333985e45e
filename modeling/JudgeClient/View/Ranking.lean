import JudgeClient.Payload.Contest
import JudgeClient.Payload.Search
import JudgeClient.View.Node

/-!
# Rank lists

A rank list with the score for each problem and the total, and the buttons that choose which
submission of a user counts.
-/

namespace JudgeClient.View

/-- The sum of some scores, added from the left.  The sum of no scores is the negative zero, which
is the number that adds nothing to any other. -/
def totalScore (scores : List Float) : Float := scores.foldl (· + ·) (-0.0)

/-- A user as a row. -/
def rankRow (r : RankItem) : Node :=
  Node.row
    ([Node.cell (Node.ofText (toString r.rank.toNat)), Node.cell (Node.ofText r.user.name)] ++
      r.scores.map (fun score => Node.cell (Node.ofFloat score)) ++
      [Node.cell (Node.ofFloat (totalScore r.scores))])

/-- The headings of the columns of scores. -/
def problemHeadings (count : Nat) : List String :=
  (List.range count).map fun n => "P" ++ toString (n + 1)

/-- A rank list.  It has as many columns of scores as its first row. -/
def rankTable (ranks : List RankItem) : Fragment :=
  let problems := ranks.head?.elim 0 fun r => r.scores.length
  [Node.table (["Rank", "User"] ++ problemHeadings problems ++ ["Total"]) (ranks.map rankRow)]

/-- The button that chooses a rule; the rule in force is marked. -/
def ruleButton (current rule : ScoringRule) (label : String) : Node :=
  Node.styled "button"
    (if current = rule then "p-2 rounded bg-primary" else "p-2 rounded bg-lighten")
    (Node.ofText label)

end JudgeClient.View
