import JudgeClient.Proofs.Route.Params

/-!
# Parameters as a typed store

Parameters hold texts, but they are only ever accessed through a type: a member is set, and a member
is read.  Accesses may follow each other in any order, and the same name may be accessed through
different types.  A name stands for the member it was last set to.

* `ParamType` : the types that are accessed;
* `Params.Access` : one access, with what it answers and what it leaves;
* `Params.lookup_after` : accesses to other names leave a text as it is;
* `Params.typed_store` : what is read after any accesses.
-/

namespace JudgeClient

/-- The types through which parameters are accessed. -/
inductive ParamType where
  | int64
  | uint64
  | uint8
  | bool
  | text
  | jobState
  | jobResult
  | scoringRule
  | tieBreaker
deriving DecidableEq, Repr

namespace ParamType

/-- The members of the type. -/
def Member : ParamType → Type
  | int64 => Int64
  | uint64 => UInt64
  | uint8 => UInt8
  | bool => Bool
  | text => String
  | jobState => JobState
  | jobResult => JobResult
  | scoringRule => ScoringRule
  | tieBreaker => TieBreaker

instance : (T : ParamType) → ParamValue T.Member
  | int64 => inferInstanceAs (ParamValue Int64)
  | uint64 => inferInstanceAs (ParamValue UInt64)
  | uint8 => inferInstanceAs (ParamValue UInt8)
  | bool => inferInstanceAs (ParamValue Bool)
  | text => inferInstanceAs (ParamValue String)
  | jobState => inferInstanceAs (ParamValue JobState)
  | jobResult => inferInstanceAs (ParamValue JobResult)
  | scoringRule => inferInstanceAs (ParamValue ScoringRule)
  | tieBreaker => inferInstanceAs (ParamValue TieBreaker)

instance : (T : ParamType) → LawfulParamValue T.Member
  | int64 => inferInstanceAs (LawfulParamValue Int64)
  | uint64 => inferInstanceAs (LawfulParamValue UInt64)
  | uint8 => inferInstanceAs (LawfulParamValue UInt8)
  | bool => inferInstanceAs (LawfulParamValue Bool)
  | text => inferInstanceAs (LawfulParamValue String)
  | jobState => inferInstanceAs (LawfulParamValue JobState)
  | jobResult => inferInstanceAs (LawfulParamValue JobResult)
  | scoringRule => inferInstanceAs (LawfulParamValue ScoringRule)
  | tieBreaker => inferInstanceAs (LawfulParamValue TieBreaker)

end ParamType

namespace Params

/-! ### Accesses -/

/-- One access to parameters, through a type. -/
inductive Access where
  | get (T : ParamType) (key : String)
  | require (T : ParamType) (key : String)
  | set (T : ParamType) (key : String) (value : Option T.Member)

namespace Access

/-- What the access answers. -/
def Answer : Access → Type
  | get T _ => Option T.Member
  | require T _ => Except Error T.Member
  | set .. => Unit

/-- The answer, and the parameters after the access. -/
def run : (a : Access) → Params → a.Answer × Params
  | get _ key, p => (p.get? key, p)
  | require _ key, p => (p.require key, p)
  | set _ key value, p => ((), p.set key value)

/-- The access sets the name. -/
def Sets (key : String) : Access → Prop
  | get .. => False
  | require .. => False
  | set _ k _ => k = key

end Access

/-- The parameters after the accesses, from first to last. -/
def after (p : Params) (accesses : List Access) : Params :=
  accesses.foldl (fun p a => (a.run p).2) p

theorem after_append (p : Params) (before later : List Access) :
    p.after (before ++ later) = (p.after before).after later :=
  List.foldl_append

/-! ### What an access changes -/

section Set

variable {α : Type} [ParamValue α] (p : Params) (key : String)

theorem lookup_set_of_ne {k : String} (h : k ≠ key) (value : Option α) :
    (p.set key value).lookup k = p.lookup k := by
  cases value with
  | none => rw [set, lookup_erase, if_neg h]
  | some a => rw [set, lookup_insert, if_neg h]

theorem lookup_set_none : (p.set key (none : Option α)).lookup key = none := by
  rw [set, lookup_erase, if_pos rfl]

theorem get?_set_some [LawfulParamValue α] (a : α) : (p.set key (some a)).get? key = some a := by
  rw [get?, set, lookup_insert, if_pos rfl]
  exact LawfulParamValue.read?_write a

end Set

theorem get?_congr {α : Type} [ParamValue α] {p q : Params} {key : String}
    (h : p.lookup key = q.lookup key) : (p.get? key : Option α) = q.get? key := by
  rw [get?, get?, h]

theorem lookup_run {key : String} {a : Access} (h : ¬a.Sets key) (p : Params) :
    (a.run p).2.lookup key = p.lookup key := by
  cases a with
  | get T k => rfl
  | require T k => rfl
  | set T k value => exact lookup_set_of_ne p k (Ne.symm h) value

/-- Accesses that do not set a name leave its text as it is. -/
theorem lookup_after {key : String} {accesses : List Access} (h : ∀ a ∈ accesses, ¬a.Sets key)
    (p : Params) : (p.after accesses).lookup key = p.lookup key := by
  induction accesses generalizing p with
  | nil => rfl
  | cons a rest ih =>
    have hrest := ih (fun b hb => h b (List.mem_cons_of_mem a hb)) (a.run p).2
    exact hrest.trans (lookup_run (h a List.mem_cons_self) p)

/-- Nothing that follows the last setting of a name changes its text. -/
theorem lookup_after_set {key : String} {later : List Access} (h : ∀ a ∈ later, ¬a.Sets key)
    (p : Params) (before : List Access) (T : ParamType) (value : Option T.Member) :
    (p.after (before ++ .set T key value :: later)).lookup key =
      ((p.after before).set key value).lookup key := by
  rw [after_append]
  exact lookup_after h _

/-- **Parameters are a typed store.**  After any accesses, a name that was last set to a member of a
type stands for that member, a name that was last removed is not there, and any other name has the
text that it had before.  A required member is the one that is read; if none is, the location is
malformed, and the parameters stay as they are. -/
theorem typed_store (p : Params) :
    (∀ (before later : List Access) (T : ParamType) (key : String),
      (∀ a ∈ later, ¬a.Sets key) →
        (∀ v : T.Member,
          (p.after (before ++ .set T key (some v) :: later)).get? key = some v) ∧
        (p.after (before ++ .set T key none :: later)).lookup key = none) ∧
    (∀ (accesses : List Access) (key : String), (∀ a ∈ accesses, ¬a.Sets key) →
      (p.after accesses).lookup key = p.lookup key) ∧
    ∀ (T : ParamType) (key : String),
      (∀ v : T.Member, p.require key = .ok v ↔ p.get? key = some v) ∧
      ((p.get? key : Option T.Member) = none →
        ∃ e : Error, e.kind = .malformedUrl ∧ (Access.require T key).run p = (.error e, p)) := by
  refine ⟨fun before later T key h => ⟨fun v => ?_, ?_⟩, fun accesses key h => lookup_after h p,
    fun T key => ⟨fun v => require_eq_ok_iff, fun hnone => ?_⟩⟩
  · rw [get?_congr (lookup_after_set h p before T (some v)), get?_set_some]
  · rw [lookup_after_set h p before T none, lookup_set_none]
  · obtain ⟨e, he, hkind⟩ := require_of_eq_none hnone
    exact ⟨e, hkind, congrArg (·, p) he⟩

/-- One name is set through two types, and another is set through one type and removed through
another. -/
theorem typed_store_of_colliding_names :
    let p := ofList [("id", "42"), ("page", "next"), ("state", "Finished")]
    let last : UInt64 := 18446744073709551615
    let before : List Access := [.set .int64 "id" (some Int64.minValue),
      .set .text "state" (some "any")]
    let later : List Access := [.require .bool "id", .set .jobState "state" none,
      .get .int64 "page"]
    let q := p.after (before ++ .set .uint64 "id" (some last) :: later)
    q.get? "id" = some last ∧ q.lookup "state" = none ∧ q.lookup "page" = some "next" ∧
      ∃ e : Error, e.kind = .malformedUrl ∧
        (Access.require .int64 "page").run q = (.error e, q) := by
  intro p last before later q
  have hpage : q.lookup "page" = some "next" :=
    ((typed_store p).2.1 _ "page" (by simp [before, later, Access.Sets])).trans (by decide)
  have hnone : (q.get? "page" : Option Int64) = none := by
    rw [get?, hpage]
    decide
  refine ⟨?_, ?_, hpage, ((typed_store q).2.2 .int64 "page").2 hnone⟩
  · exact ((typed_store p).1 before later .uint64 "id" (by simp [later, Access.Sets])).1 last
  · exact ((typed_store p).1 (before ++ [.set .uint64 "id" (some last), .require .bool "id"])
      [.get .int64 "page"] .jobState "state" (by simp [Access.Sets])).2

end Params

end JudgeClient
