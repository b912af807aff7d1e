import Retrofit.Proofs.Text.Pieces

/-! Text that is put on one line, and text without the white space at its end. -/
namespace Retrofit

namespace Chars

theorem trimRight_cons (c : Char) (cs : List Char) :
    trimRight (c :: cs) = if trimRight cs = [] then trimRight [c] else c :: trimRight cs := by
  unfold trimRight
  rw [List.reverse_cons, List.dropWhile_append]
  cases rest : cs.reverse.dropWhile isBlank with
  | nil => simp
  | cons d ds => simp

theorem trimRight_cons_congr (c : Char) {xs ys : List Char} (same : trimRight xs = trimRight ys) :
    trimRight (c :: xs) = trimRight (c :: ys) := by
  rw [trimRight_cons c xs, trimRight_cons c ys, same]

theorem not_blank_of_mem_words {cs word : List Char} (member : word ∈ words cs) :
    ∀ c ∈ word, isBlank c = false :=
  uncut_of_mem_splitWhere (List.mem_filter.mp member).1

end Chars

namespace Text

/-- Text is interpolated into text as it is. -/
theorem toString_same (s : String) : toString s = s :=
  rfl

theorem mem_join {sep : String} {ss : List String} {c : Char} (member : c ∈ (join sep ss).toList) :
    c ∈ sep.toList ∨ ∃ s ∈ ss, c ∈ s.toList := by
  induction ss with
  | nil => cases member
  | cons s ss ih =>
    cases ss with
    | nil => exact .inr ⟨s, List.mem_cons_self, member⟩
    | cons t ts =>
      simp only [join, String.toList_append, List.mem_append] at member
      rcases member with (first | between) | later
      · exact .inr ⟨s, List.mem_cons_self, first⟩
      · exact .inl between
      · rcases ih later with between | ⟨u, listed, inside⟩
        · exact .inl between
        · exact .inr ⟨u, List.mem_cons_of_mem _ listed, inside⟩

/-- Of all white space only the space itself is left, and so no line break. -/
theorem space_of_mem_oneLine {s : String} {c : Char} (member : c ∈ (oneLine s).toList)
    (blank : Chars.isBlank c = true) : c = ' ' := by
  rcases mem_join member with between | ⟨word, listed, inside⟩
  · exact List.mem_singleton.mp between
  · obtain ⟨letters, found, rfl⟩ := List.mem_map.mp listed
    rw [String.toList_ofList] at inside
    rw [Chars.not_blank_of_mem_words found c inside] at blank
    cases blank

end Text

end Retrofit
