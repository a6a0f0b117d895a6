/-!
# Cutting texts

The parts of a text between separators: one more than there are separators, empty ones included.
-/

namespace TrafficFeed.Text

/-- The parts of a list between the members that satisfy `p`. -/
def cutWhere (p : Char → Bool) : List Char → List (List Char)
  | [] => [[]]
  | c :: cs =>
    if p c then [] :: cutWhere p cs
    else
      match cutWhere p cs with
      | [] => [[c]]
      | part :: parts => (c :: part) :: parts

/-- The parts of a list between the members `sep`. -/
def cut (sep : Char) : List Char → List (List Char) := cutWhere (· == sep)

theorem cutWhere_ne_nil (p : Char → Bool) (cs : List Char) : cutWhere p cs ≠ [] := by
  fun_cases cutWhere p cs <;> simp

/-- Nothing is lost: the parts with the separator between them are the list. -/
theorem intercalate_cut (sep : Char) (cs : List Char) : [sep].intercalate (cut sep cs) = cs := by
  unfold cut
  induction cs with
  | nil => rfl
  | cons c cs ih =>
    obtain ⟨part, parts, h⟩ := List.exists_cons_of_ne_nil (cutWhere_ne_nil (· == sep) cs)
    by_cases hc : c = sep
    · simp_all [cutWhere, List.intercalate]
    · simp only [cutWhere, hc, beq_iff_eq, if_false, h] at ih ⊢
      cases parts <;> simp_all [List.intercalate]

end TrafficFeed.Text
