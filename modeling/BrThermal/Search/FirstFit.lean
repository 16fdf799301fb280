/-
The first entry of a table that fits.

A search that takes the first entry to fit is right for two reasons that have
nothing to do with the entries: how the table is ordered, and that asking for less
makes more entries fit.
-/
import Mathlib.Order.Basic

namespace BrThermal
namespace Search

variable {ε : Type*} {table : List ε} {p q : ε → Bool}

/-- In a table where no entry comes after a larger one, nothing that fits is smaller
than what is found. -/
theorem find?_minimal {κ : Type*} [Preorder κ] {key : ε → κ}
    (hsorted : table.Pairwise fun a b => ¬key b < key a) {a : ε} (h : table.find? p = some a) :
    ∀ b ∈ table, p b = true → ¬key b < key a := by
  induction table with
  | nil => cases h
  | cons e table ih =>
    rw [List.pairwise_cons] at hsorted
    obtain ⟨hfirst, hrest⟩ := hsorted
    intro b hb hfit
    by_cases he : p e = true
    · rw [List.find?_cons_of_pos he] at h
      obtain rfl := Option.some.inj h
      rcases List.mem_cons.mp hb with rfl | hb
      · exact lt_irrefl _
      · exact hfirst b hb
    · rw [List.find?_cons_of_neg he] at h
      rcases List.mem_cons.mp hb with rfl | hb
      · exact absurd hfit he
      · exact ih hrest h b hb hfit

/-- Where `p` fits whatever `q` fits, the search for `p` stops no later. -/
theorem find?_mono {R : ε → ε → Prop} (hrefl : ∀ a, R a a) (hsorted : table.Pairwise R)
    (hpq : ∀ e ∈ table, q e = true → p e = true) {b : ε} (h : table.find? q = some b) :
    ∃ a, table.find? p = some a ∧ R a b := by
  induction table with
  | nil => cases h
  | cons e table ih =>
    rw [List.pairwise_cons] at hsorted
    obtain ⟨hfirst, hrest⟩ := hsorted
    have hb : b ∈ e :: table := List.mem_of_find?_eq_some h
    by_cases he : p e = true
    · refine ⟨e, List.find?_cons_of_pos he, ?_⟩
      rcases List.mem_cons.mp hb with rfl | hb
      · exact hrefl b
      · exact hfirst b hb
    · have hqe : ¬q e = true := fun hqe => he (hpq e List.mem_cons_self hqe)
      rw [List.find?_cons_of_neg hqe] at h
      obtain ⟨a, ha, hle⟩ := ih hrest (fun e' he' => hpq e' (List.mem_cons_of_mem _ he')) h
      exact ⟨a, by rw [List.find?_cons_of_neg he, ha], hle⟩

end Search
end BrThermal
