/-!
Cutting a list after each element that ends a piece. The pieces joined are the list, and only the
last may lack its end.
-/
namespace ClusterImport.Text

variable {α : Type}

def cutAfter (ends : α → Bool) : List α → List (List α)
  | [] => []
  | a :: rest =>
    if ends a then [a] :: cutAfter ends rest
    else match cutAfter ends rest with
      | [] => [[a]]
      | piece :: pieces => (a :: piece) :: pieces

theorem flatten_cutAfter (ends : α → Bool) (s : List α) : (cutAfter ends s).flatten = s := by
  induction s with
  | nil => rfl
  | cons a rest ih =>
    simp only [cutAfter]
    split
    · simp [ih]
    · split <;> simp_all

end ClusterImport.Text
