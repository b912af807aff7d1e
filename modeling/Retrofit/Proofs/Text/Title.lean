import Retrofit.Text.Title

/-! Headings made of words. To change the case of a letter makes letters and marks on letters, and none of
the signs that give a document its form. -/
namespace Retrofit

namespace Chars

/-- No entry of the tables leads to the sign. -/
def unmade (runs : List CaseRun) (expansions : List (Nat × List Nat)) (sign : Char) : Bool :=
  expansions.all (fun (_, ns) => ns.all (Char.ofNat · != sign)) &&
    runs.all fun r => decide ((sign.toNat : Int) < r.first + r.shift ∨ r.last + r.shift < sign.toNat)

section Case

variable {runs : List CaseRun} {expansions : List (Nat × List Nat)} {sign c : Char} {cs : List Char}

theorem toNat_ofNat_of_ne {n : Nat} (solid : (Char.ofNat n).toNat ≠ 0) : (Char.ofNat n).toNat = n := by
  by_cases valid : n.isValidChar
  · rw [Char.ofNat, dif_pos valid]
    rfl
  · rw [Char.ofNat, dif_neg valid] at solid
    exact absurd rfl solid

theorem eq_of_mem_mapCase (solid : sign.toNat ≠ 0) (clear : unmade runs expansions sign = true)
    (member : sign ∈ mapCase runs expansions c) : c = sign := by
  rw [unmade, Bool.and_eq_true, List.all_eq_true, List.all_eq_true] at clear
  obtain ⟨unexpanded, unshifted⟩ := clear
  unfold mapCase at member
  split at member
  · rename_i ns found
    obtain ⟨front, back, rest, -⟩ := List.lookup_eq_some_iff.mp found
    obtain ⟨n, listed, made⟩ := List.mem_map.mp member
    have entry : (c.toNat, ns) ∈ expansions := by
      rw [rest]
      exact List.mem_append_right _ List.mem_cons_self
    have other := List.all_eq_true.mp (unexpanded _ entry) n listed
    simp [made] at other
  · split at member
    · rename_i r found
      have within := List.find?_some found
      have apart := unshifted r (List.mem_of_find?_eq_some found)
      have made := List.mem_singleton.mp member
      have moved : sign.toNat = (c.toNat + r.shift).toNat := by
        rw [made] at solid ⊢
        exact toNat_ofNat_of_ne solid
      simp only [CaseRun.holds, Bool.and_eq_true, decide_eq_true_eq] at within apart
      omega
    · exact (List.mem_singleton.mp member).symm

/-- The sign is not made from another character, neither in upper case nor in lower case. -/
structure Caseless (sign : Char) : Prop where
  solid : sign.toNat ≠ 0
  upper : unmade upperRuns upperExpansions sign = true
  lower : unmade lowerRuns lowerExpansions sign = true

theorem Caseless.mem_titleFrom (caseless : Caseless sign) (afterLetter : Bool)
    (member : sign ∈ titleFrom afterLetter cs) : sign ∈ cs := by
  induction cs generalizing afterLetter with
  | nil => exact member
  | cons c cs ih =>
    rw [titleFrom] at member
    split at member
    · rcases List.mem_append.mp member with here | later
      · have same : c = sign := by
          split at here
          · exact eq_of_mem_mapCase caseless.solid caseless.lower here
          · exact eq_of_mem_mapCase caseless.solid caseless.upper here
        exact same ▸ List.mem_cons_self
      · exact List.mem_cons_of_mem _ (ih true later)
    · rcases List.mem_cons.mp member with rfl | later
      · exact List.mem_cons_self
      · exact List.mem_cons_of_mem _ (ih false later)

theorem bar_caseless : Caseless '|' :=
  ⟨by decide, by decide +kernel, by decide +kernel⟩

theorem newline_caseless : Caseless '\n' :=
  ⟨by decide, by decide +kernel, by decide +kernel⟩

end Case

end Chars

theorem Text.mem_title {sign : Char} (caseless : Chars.Caseless sign) {s : String}
    (member : sign ∈ (title s).toList) : sign ∈ s.toList := by
  rw [title, String.toList_ofList] at member
  exact caseless.mem_titleFrom false member

end Retrofit
