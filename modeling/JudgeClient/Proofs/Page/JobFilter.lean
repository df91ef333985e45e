import JudgeClient.Page.JobSearch
import JudgeClient.Proofs.Route.Query

/-!
# Filters and back

A filter is written behind the path of a list of submissions, and behind the path that its jobs are
asked for under.  Either way its seven fields can be read again, so a filter can be told from every
path that it is written behind.

* `JobFilter.flat` : a filter is written as its fields;
* `JobFilter.ofQuery_query_withQuery` : every filter survives its query;
* `JobFilter.eq_of_withQuery_eq` : different filters are written differently.
-/

namespace JudgeClient

namespace JobFilter

/-- The fields of a filter, with their names. -/
def fields (f : JobFilter) : List Query.Field := [
  Query.field "user_id" f.userId,
  Query.field "user_name" f.userName,
  Query.field "contest_id" f.contestId,
  Query.field "problem_id" f.problemId,
  Query.field "language" f.language,
  Query.field "state" f.state,
  Query.field "result" f.result]

theorem map_name_fields (f : JobFilter) : f.fields.map (·.1) =
    ["user_id", "user_name", "contest_id", "problem_id", "language", "state", "result"] := rfl

theorem flat (f : JobFilter) : Query.Flat (Payload.toJson f) f.fields where
  pairs := by
    refine ⟨_, rfl, ?_⟩
    simp only [Query.entryPairs_append, Query.entryPairs_optionalEntry, fields, Query.field,
      Query.present, List.map_append, List.append_nil, List.append_assoc]
  distinct := by
    rw [map_name_fields]
    decide
  named := by
    intro e he
    have hname : e.1 ∈ f.fields.map (·.1) := List.mem_map.2 ⟨e, he, rfl⟩
    rw [map_name_fields] at hname
    rintro hempty
    rw [hempty] at hname
    exact absurd hname (by decide)

variable {path : String} (hpath : '?' ∉ path.toList) (hne : path ≠ "")

include hpath hne

/-- Every filter survives its query. -/
theorem ofQuery_query_withQuery (f : JobFilter) :
    ofQuery none (Location.query (Query.withQuery path (Payload.toJson f))) = f := by
  have hget : ∀ {α : Type} [ParamValue α] [LawfulParamValue α] (key : String) (a : Option α),
      Query.field key a ∈ f.fields →
        (Location.query (Query.withQuery path (Payload.toJson f))).get? key = a :=
    fun _ _ hf => Location.get?_query_withQuery hpath hne f.flat hf
  rw [ofQuery, hget "user_id" f.userId (by simp [fields]),
    hget "user_name" f.userName (by simp [fields]),
    hget "contest_id" f.contestId (by simp [fields]),
    hget "problem_id" f.problemId (by simp [fields]),
    hget "language" f.language (by simp [fields]), hget "state" f.state (by simp [fields]),
    hget "result" f.result (by simp [fields])]
  rfl

/-- Different filters are written differently. -/
theorem eq_of_withQuery_eq {f g : JobFilter}
    (h : Query.withQuery path (Payload.toJson f) = Query.withQuery path (Payload.toJson g)) :
    f = g := by
  have hf := ofQuery_query_withQuery hpath hne f
  rw [h, ofQuery_query_withQuery hpath hne g] at hf
  exact hf.symm

end JobFilter

end JudgeClient
