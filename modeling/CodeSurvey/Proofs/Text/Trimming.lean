import CodeSurvey.Text.Blank

/-!
# Trimmed text

Trimming takes the blanks away from both ends of a text and leaves the rest as it is, with the
blanks inside.

* `Text.span_eq_iff` : where a list is cut by a property of its items;
* `Text.IsTrimmed cs t` : `t` is the text `cs` without the blanks at its ends;
* `Text.trim_eq_iff` : so trimming gives it.
-/

namespace CodeSurvey.Text

variable {cs t : List Char}

/-- A list is cut in two where a property ends. -/
theorem span_eq_iff {α : Type} {p : α → Bool} {l front back : List α} :
    l.takeWhile p = front ∧ l.dropWhile p = back ↔
      l = front ++ back ∧ (∀ a ∈ front, p a = true) ∧ ∀ a ∈ back.head?, p a = false := by
  constructor
  · rintro ⟨rfl, rfl⟩
    refine ⟨List.takeWhile_append_dropWhile.symm, ?_, ?_⟩
    · exact List.all_eq_true.1 List.all_takeWhile
    · intro a ha
      have hnot := List.head?_dropWhile_not p l
      rw [Option.mem_def.1 ha] at hnot
      exact hnot
  · rintro ⟨rfl, hfront, hback⟩
    rw [List.takeWhile_append_of_pos hfront, List.dropWhile_append_of_pos hfront]
    cases back with
    | nil => simp
    | cons a back =>
      have ha := hback a rfl
      simp [ha]

/-- The rest of a list starts where a property ends. -/
theorem dropWhile_eq_iff {α : Type} {p : α → Bool} {l back : List α} :
    l.dropWhile p = back ↔
      (∃ front, l = front ++ back ∧ ∀ a ∈ front, p a = true) ∧ ∀ a ∈ back.head?, p a = false := by
  constructor
  · intro h
    rcases span_eq_iff.1 ⟨rfl, h⟩ with ⟨hcut, hfront, hback⟩
    exact ⟨⟨_, hcut, hfront⟩, hback⟩
  · rintro ⟨⟨front, hcut, hfront⟩, hback⟩
    exact (span_eq_iff.2 ⟨hcut, hfront, hback⟩).2

/-- The text between the blanks at the two ends of another one. -/
structure IsTrimmed (cs t : List Char) : Prop where
  cut : ∃ front back, cs = front ++ (t ++ back) ∧ (∀ c ∈ front, isBlank c = true) ∧
    ∀ c ∈ back, isBlank c = true
  head : ∀ c ∈ t.head?, isBlank c = false
  last : ∀ c ∈ t.getLast?, isBlank c = false

theorem trimFront_eq_iff :
    trimFront cs = t ↔
      (∃ front, cs = front ++ t ∧ ∀ c ∈ front, isBlank c = true) ∧
        ∀ c ∈ t.head?, isBlank c = false :=
  dropWhile_eq_iff

theorem trimBack_eq_iff :
    trimBack cs = t ↔
      (∃ back, cs = t ++ back ∧ ∀ c ∈ back, isBlank c = true) ∧
        ∀ c ∈ t.getLast?, isBlank c = false := by
  rw [trimBack, List.reverse_eq_iff, dropWhile_eq_iff, List.head?_reverse]
  refine and_congr_left fun _ => ?_
  -- Read from its end, the text has its blanks in front.
  constructor
  · rintro ⟨front, hcut, hfront⟩
    refine ⟨front.reverse, ?_, by simpa using hfront⟩
    rw [← List.reverse_inj, hcut, List.reverse_append, List.reverse_reverse]
  · rintro ⟨back, rfl, hback⟩
    exact ⟨back.reverse, List.reverse_append, by simpa using hback⟩

theorem trim_eq_iff : trim cs = t ↔ IsTrimmed cs t := by
  rw [trim, trimBack_eq_iff]
  constructor
  · rintro ⟨⟨back, hrest, hback⟩, hlast⟩
    rcases trimFront_eq_iff.1 hrest with ⟨⟨front, hcut, hfront⟩, hhead⟩
    refine ⟨⟨front, back, hcut, hfront, hback⟩, fun c hc => hhead c ?_, hlast⟩
    rw [List.head?_append, hc]
    rfl
  · rintro ⟨⟨front, back, rfl, hfront, hback⟩, hhead, hlast⟩
    cases t with
    | nil =>
      -- Nothing but blanks: those behind the text belong to those in front of it.
      have hblank : ∀ c ∈ front ++ back, isBlank c = true := by
        intro c hc
        exact (List.mem_append.1 hc).elim (hfront c) (hback c)
      have hnone : trimFront (front ++ back) = [] :=
        trimFront_eq_iff.2 ⟨⟨front ++ back, (List.append_nil _).symm, hblank⟩, by simp⟩
      exact ⟨⟨[], hnone, by simp⟩, hlast⟩
    | cons c t =>
      exact ⟨⟨back, trimFront_eq_iff.2 ⟨⟨front, rfl, hfront⟩, hhead⟩, hback⟩, hlast⟩

/-- A text without blanks is trimmed already. -/
theorem isTrimmed_self (h : ∀ c ∈ t, isBlank c = false) : IsTrimmed t t where
  cut := ⟨[], [], by simp, by simp, by simp⟩
  head := fun c hc => h c (List.mem_of_mem_head? hc)
  last := fun c hc => h c (List.mem_of_getLast? hc)

end CodeSurvey.Text
