import JudgeClient.Proofs.Timestamp
import JudgeClient.View.Job

/-!
# The times of a job

A job has two times, when it came in and when it last changed.  Both come as texts.  A row of a
list shows the first and the view in full the second; each shows the day and the time of day that
its text stands for, and the text itself if it stands for none.

* `View.ShowsSubmitted`, `View.ShowsUpdated` : what stands in the two places;
* `Job.times_of_fixed_width` : what is read from the texts of the API's form, and what is shown of
  them.
-/

namespace JudgeClient

namespace View

/-- The text stands in the last cell of the job's row, which is headed `Submitted`. -/
def ShowsSubmitted (j : Job) (text : String) : Prop :=
  ∃ cells, jobRow j = Node.row (cells ++ [Node.cell [.text text]])

/-- The text stands behind the last term of the job in full, which is `Updated`. -/
def ShowsUpdated (j : Job) (text : String) : Prop :=
  ∃ terms rest, jobDetail j = Node.styled "dl" "grid grid-cols-2 gap-2 w-96"
    (terms ++ [Node.plain "dt" [.text "Updated"], Node.plain "dd" [.text text]]) :: rest

theorem ofText_of_ne_empty {s : String} (h : s ≠ "") : Node.ofText s = [.text s] := by
  rw [Node.ofText, if_neg (by simpa using h)]

theorem showsSubmitted_display {j : Job} {text : String}
    (h : Timestamp.display j.createdTime = text) (hne : text ≠ "") : ShowsSubmitted j text := by
  unfold ShowsSubmitted
  rw [jobRow, h, ofText_of_ne_empty hne]
  exact ⟨[_, _, _, _, _, _], rfl⟩

theorem showsUpdated_display {j : Job} {text : String}
    (h : Timestamp.display j.updatedTime = text) (hne : text ≠ "") : ShowsUpdated j text := by
  unfold ShowsUpdated
  rw [jobDetail, h, ofText_of_ne_empty hne]
  exact ⟨_, _, rfl⟩

end View

namespace Job

/-- Both times are read and shown in the same way. -/
theorem times_of_text {text shown : String} {time : Option Timestamp}
    (hread : Timestamp.read? text = time) (hdisplay : Timestamp.display text = shown)
    (hne : shown ≠ "") (j : Job) :
    (j.createdTime = text → j.createdAt = time ∧ View.ShowsSubmitted j shown) ∧
      (j.updatedTime = text → j.updatedAt = time ∧ View.ShowsUpdated j shown) := by
  constructor
  · rintro rfl
    exact ⟨hread, View.showsSubmitted_display hdisplay hne⟩
  · rintro rfl
    exact ⟨hread, View.showsUpdated_display hdisplay hne⟩

/-- **Times of fixed width.**  A point in time of the years 0 to 9999 is read from its text of the
form `YYYY-MM-DDTHH:MM:SS.mmmZ`, be it the text of a job's creation or of its last change, and what
is shown of it are its digits up to the second.  A text of the form whose day is not in the
calendar, or whose time no clock shows, is not read and is shown as it stands. -/
theorem times_of_fixed_width :
    (∀ t : Timestamp, t.IsCivil → t.digits.HasShape ∧ t.digits.value = t ∧ ∀ j : Job,
      (j.createdTime = t.digits.text →
        j.createdAt = some t ∧ View.ShowsSubmitted j t.digits.shown) ∧
      (j.updatedTime = t.digits.text →
        j.updatedAt = some t ∧ View.ShowsUpdated j t.digits.shown)) ∧
    ∀ d : Timestamp.Digits, d.HasShape → d.IsImpossible → ∀ j : Job,
      (j.createdTime = d.text → j.createdAt = none ∧ View.ShowsSubmitted j d.text) ∧
      (j.updatedTime = d.text → j.updatedAt = none ∧ View.ShowsUpdated j d.text) := by
  refine ⟨fun t ht => ⟨ht.hasShape_digits, Timestamp.value_digits ht.year.1, ?_⟩,
    fun d hd himpossible => ?_⟩
  · exact times_of_text ht.read?_text ht.display_text t.digits.shown_ne_empty
  · exact times_of_text (Timestamp.read?_text_of_isImpossible hd himpossible)
      (Timestamp.display_text_of_isImpossible hd himpossible) d.text_ne_empty

/-- The 29th of February is a day of the year 2000, and none of the year 1900. -/
theorem times_of_fixed_width_of_leap_days :
    let t : Timestamp := ⟨2000, 2, 29, 23, 59, 59, 999⟩
    let d := Timestamp.digits ⟨1900, 2, 29, 0, 0, 0, 0⟩
    (t.IsCivil ∧ t.digits.text = "2000-02-29T23:59:59.999Z") ∧
      (d.HasShape ∧ d.IsImpossible ∧ d.text = "1900-02-29T00:00:00.000Z") ∧
      ∀ j : Job, j.createdTime = t.digits.text → j.updatedTime = d.text →
        j.createdAt = some t ∧ View.ShowsSubmitted j "2000-02-29 23:59:59" ∧
          j.updatedAt = none ∧ View.ShowsUpdated j "1900-02-29T00:00:00.000Z" := by
  intro t d
  have hcivil : t.IsCivil := ⟨by decide, Timestamp.isDay_iff.2 (by decide), by decide, by decide,
    by decide, by decide⟩
  have hshape : d.HasShape := by
    constructor <;> exact Timestamp.isRun_pad (by decide)
  have himpossible : d.IsImpossible := .inl fun hday =>
    absurd (Timestamp.isDay_iff.1 hday) (by decide)
  have ht : t.digits.text = "2000-02-29T23:59:59.999Z" := by decide
  have hd : d.text = "1900-02-29T00:00:00.000Z" := by decide
  have hshown : t.digits.shown = "2000-02-29 23:59:59" := by decide
  refine ⟨⟨hcivil, ht⟩, ⟨hshape, himpossible, hd⟩, fun j hcreated hupdated => ?_⟩
  obtain ⟨hat, hview⟩ := ((times_of_fixed_width.1 t hcivil).2.2 j).1 hcreated
  obtain ⟨hnone, hview'⟩ := (times_of_fixed_width.2 d hshape himpossible j).2 hupdated
  exact ⟨hat, hshown ▸ hview, hnone, hd ▸ hview'⟩

end Job

end JudgeClient
