import CodeSurvey.Proofs.Json.Objects

/-!
# Objects that name some fields only

A record whose fields have values from the start may be written without some of them. What is left
of the object is read as the record in which the others have the values that they started with.

* `Json.Value.without` : an object without some members;
* `RecordForm.Fills.of_subset` : members fill a record whatever else may have been seen;
* `RecordForm.Fills.member` : a member that may have been left out.
-/

namespace CodeSurvey.Json

/-- An object without the members of some names. -/
def Value.without (removed : String → Bool) : Value → Value
  | .object members => .object (members.filter fun m => !removed m.1)
  | v => v

namespace RecordForm

variable {α β γ : Type} {form : RecordForm α β} {seen seen' : List String} {a b : α}
  {members : List (String × Value)}

theorem Fills.of_subset (h : form.Fills seen a members b) (hseen : seen' ⊆ seen) :
    form.Fills seen' a members b := by
  induction h generalizing seen' with
  | nil => exact .nil
  | cons hnew hfield hread _ ih =>
    refine .cons (fun hmem => hnew (hseen hmem)) hfield hread (ih ?_)
    exact List.cons_subset_cons _ hseen

/-- The field of a member takes the value that is written, or stays at the one that it has if the
member has been left out. -/
theorem Fills.member {removed : String → Bool} {name : String} {v : Value} {f : FieldForm α}
    {read : Reader γ} {g : γ → α} {x y : γ} (hnew : name ∉ seen)
    (hfield : form.fields.find? (fun f => f.name == name) = some f)
    (hset : f.read a = fun cs => (read cs).map fun (x, rest) => (g x, rest))
    (hread : Reads read v x) (hstart : g y = a)
    (hrest : form.Fills (name :: seen) (g (if removed name then y else x))
      (members.filter fun m => !removed m.1) b) :
    form.Fills seen a (((name, v) :: members).filter fun m => !removed m.1) b := by
  rw [List.filter_cons]
  cases hname : removed name with
  | true =>
    simp only [hname, if_true] at hrest
    rw [hstart] at hrest
    exact hrest.of_subset (List.subset_cons_self name seen)
  | false =>
    simp only [hname, Bool.false_eq_true, if_false] at hrest
    refine .cons hnew hfield ?_ hrest
    rw [hset]
    exact hread.map g

end RecordForm

end CodeSurvey.Json
