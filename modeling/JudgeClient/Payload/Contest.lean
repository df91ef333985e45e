import JudgeClient.Payload.Basic

/-!
# Problems, users, contests and ranks

The things that submissions are made for and by, and a row of a rank list.
-/

namespace JudgeClient

/-! ### Problems -/

/-- How a problem is judged. -/
inductive ProblemType
  | standard
  | strict
  | spj
  | dynamicRanking
deriving DecidableEq, Repr

namespace ProblemType

instance : Spelled ProblemType where
  members := [.standard, .strict, .spj, .dynamicRanking]
  spelling
    | .standard => "Standard"
    | .strict => "Strict"
    | .spj => "Spj"
    | .dynamicRanking => "DynamicRanking"

instance : Payload ProblemType := Payload.ofSpelled ProblemType

end ProblemType

/-- A problem. -/
structure Problem where
  id : Int64
  name : String
  problemType : ProblemType
deriving DecidableEq

instance : Payload Problem where
  shape := .record "Problem" [("id", .int64), ("name", .text),
    ("problem_type", Payload.shape ProblemType)]
  toJson p := .object [("id", .int p.id.toInt), ("name", .text p.name),
    ("problem_type", Payload.toJson p.problemType)]
  ofJson? v := do
    return {
      id := ← Payload.field "id" v
      name := ← Payload.field "name" v
      problemType := ← Payload.field "problem_type" v }

/-! ### Users and contests -/

/-- A user of the judge. -/
structure User where
  id : Int64
  name : String
deriving DecidableEq

instance : Payload User where
  shape := .record "User" [("id", .int64), ("name", .text)]
  toJson u := .object [("id", .int u.id.toInt), ("name", .text u.name)]
  ofJson? v := do
    return { id := ← Payload.field "id" v, name := ← Payload.field "name" v }

/-- A contest.  A submission limit of `0` is no limit. -/
structure Contest where
  id : Int64
  name : String
  start : String
  stop : String
  problemIds : List Int64
  userIds : List Int64
  submissionLimit : Int64
deriving DecidableEq

instance : Payload Contest where
  shape := .record "Contest" [("id", .int64), ("name", .text), ("from", .text), ("to", .text),
    ("problem_ids", .list .int64), ("user_ids", .list .int64), ("submission_limit", .int64)]
  toJson c := .object [("id", .int c.id.toInt), ("name", .text c.name), ("from", .text c.start),
    ("to", .text c.stop), ("problem_ids", Payload.toJson c.problemIds),
    ("user_ids", Payload.toJson c.userIds), ("submission_limit", .int c.submissionLimit.toInt)]
  ofJson? v := do
    return {
      id := ← Payload.field "id" v
      name := ← Payload.field "name" v
      start := ← Payload.field "from" v
      stop := ← Payload.field "to" v
      problemIds := ← Payload.field "problem_ids" v
      userIds := ← Payload.field "user_ids" v
      submissionLimit := ← Payload.field "submission_limit" v }

/-! ### Ranks -/

/-- A row of a rank list: a user's rank and the score for each problem. -/
structure RankItem where
  user : User
  rank : UInt64
  scores : List Float
deriving DecidableEq

instance : Payload RankItem where
  shape := .record "RankItem" [("user", Payload.shape User), ("rank", .uint64),
    ("scores", .list .float)]
  toJson r := .object [("user", Payload.toJson r.user), ("rank", .int r.rank.toNat),
    ("scores", Payload.toJson r.scores)]
  ofJson? v := do
    return {
      user := ← Payload.field "user" v
      rank := ← Payload.field "rank" v
      scores := ← Payload.field "scores" v }

end JudgeClient
