import Retrofit.Proofs.Json.Agreement

/-! What a schema accepts is a document. Together with the agreement of reader and interpretation, this
makes the content of a document a matter of the value that it spells, and of nothing else. -/
namespace Retrofit.Json

variable {limit : Nat} {cs rest : List Char}

theorem mismatch_fails {α : Type} (expected : Expected) (front : List Char) (x : α) :
    mismatch limit expected front ≠ .ok x := by
  intro ok
  unfold mismatch at ok
  split at ok
  · simp [past] at ok
  split at ok
  · obtain ⟨r, -, ok⟩ := bind_ok ok
    simp [here] at ok
  split at ok
  · obtain ⟨r, -, ok⟩ := bind_ok ok
    simp [here] at ok
  split at ok
  · obtain ⟨r, -, ok⟩ := bind_ok ok
    simp [here] at ok
  split at ok
  · obtain ⟨⟨n, r⟩, -, ok⟩ := bind_ok ok
    cases n <;> simp [here] at ok
  split at ok
  · obtain ⟨r, -, ok⟩ := bind_ok ok
    simp [here] at ok
  split at ok
  · simp [here] at ok
  split at ok
  · simp [here] at ok
  · simp [past] at ok

/-! One lemma for each shape without parts -/

section Leaves

variable {inner : Spelling}

theorem readText_spelled {s : String} (ok : readText limit cs = .ok (s, rest))
    (within : cs.length ≤ limit) : ∃ t, Front limit inner (skipSpace cs) t rest := by
  unfold readText at ok
  split at ok
  · rename_i r front
    have shorter := length_of_skipSpace front
    rw [front]
    exact ⟨_, .text r rest (textTail_skimmed limit r rest s ok (by omega))⟩
  · exact absurd ok (mismatch_fails _ _ _)

theorem readFlag_spelled {b : Bool} (ok : readFlag limit cs = .ok (b, rest)) :
    ∃ t, Front limit inner (skipSpace cs) t rest := by
  unfold readFlag at ok
  split at ok
  · rename_i r front
    obtain ⟨r', letters, ok⟩ := bind_ok ok
    cases pure_ok ok
    rw [front]
    exact ⟨_, .yes r rest letters⟩
  · rename_i r front
    obtain ⟨r', letters, ok⟩ := bind_ok ok
    cases pure_ok ok
    rw [front]
    exact ⟨_, .no r rest letters⟩
  · exact absurd ok (mismatch_fails _ _ _)

theorem number_spelled {front : List Char} {n : Number} (starts : startsNumber front = true)
    (ok : number front = .ok (n, rest)) : ∃ t, Front limit inner front t rest := by
  cases front with
  | nil => simp [startsNumber] at starts
  | cons c r => exact ⟨_, .number c r rest starts (number_skimmed _ rest n ok)⟩

theorem readCount_spelled {n : Fin UInt64.size} (ok : readCount limit cs = .ok (n, rest)) :
    ∃ t, Front limit inner (skipSpace cs) t rest := by
  unfold readCount at ok
  dsimp only at ok
  split at ok
  · rename_i starts
    obtain ⟨⟨m, r'⟩, read, ok⟩ := bind_ok ok
    cases m with
    | integer m =>
      dsimp only at ok
      cases fits : wordOf? m with
      | none => simp [fits, here] at ok
      | some word =>
        rw [fits] at ok
        cases pure_ok ok
        exact number_spelled starts read
    | real x => simp [here] at ok
  · exact absurd ok (mismatch_fails _ _ _)

theorem readReal_spelled {x : Binary64} (ok : readReal limit cs = .ok (x, rest)) :
    ∃ t, Front limit inner (skipSpace cs) t rest := by
  unfold readReal at ok
  dsimp only at ok
  split at ok
  · rename_i starts
    obtain ⟨⟨m, r'⟩, read, ok⟩ := bind_ok ok
    cases pure_ok ok
    exact number_spelled starts read
  · exact absurd ok (mismatch_fails _ _ _)

theorem readUnit_spelled (ok : readUnit limit cs = .ok rest) :
    Front limit inner (skipSpace cs) .null rest := by
  unfold readUnit at ok
  split at ok
  · rename_i r front
    rw [front]
    exact .null r rest ok
  · exact absurd ok (mismatch_fails _ _ _)

/-- A tag is a text, or the key of an object whose only value is null. -/
theorem readTag_spelled {depth : Nat} {tags : List String} {i : Fin tags.length}
    (ok : readTag limit tags cs = .ok (i, rest)) (within : cs.length ≤ limit) :
    ∃ t, Front limit (Sketched limit (depth + 1)) (skipSpace cs) t rest := by
  unfold readTag at ok
  split at ok
  · simp [past] at ok
  · rename_i r front
    obtain ⟨⟨tag, r'⟩, named, ok⟩ := bind_ok ok
    obtain ⟨j, -, ok⟩ := bind_ok ok
    cases pure_ok ok
    have shorter := length_of_skipSpace front
    rw [front]
    exact ⟨_, .text r rest (textTail_skimmed limit r rest tag named (by omega))⟩
  · rename_i r front
    have shorter := length_of_skipSpace front
    split at ok
    · simp [past] at ok
    · rename_i r' quote
      have shortest := length_of_skipSpace quote
      obtain ⟨⟨tag, r₁⟩, named, ok⟩ := bind_ok ok
      obtain ⟨j, -, ok⟩ := bind_ok ok
      obtain ⟨r₂, separator, ok⟩ := bind_ok ok
      obtain ⟨r₃, unit, ok⟩ := bind_ok ok
      split at ok
      · rename_i r₄ closed
        cases pure_ok ok
        rw [front]
        exact ⟨_, .object r _ rest (.more true r .null [] r' r₁ r₂ r₃ rest
          (by simp [nextKey, quote]) (textTail_skimmed limit r' r₁ tag named (by omega)) separator
          (readUnit_spelled unit) (.stop false r₃ rest (by simp [nextKey, closed])))⟩
      · simp [here] at ok
      · simp [here] at ok
    · simp [past] at ok
    · simp [past] at ok
  · simp [past] at ok

end Leaves

theorem closeList_spelled {inner : Spelling} (first : Bool) (ok : closeList cs = .ok rest) :
    Items inner first cs [] rest := by
  unfold closeList at ok
  split at ok
  · simp [past] at ok
  · rename_i r front
    simp only [Except.ok.injEq] at ok
    exact .stop first cs rest (by simp [nextItem, front, ok])
  · split at ok <;> simp [past] at ok
  · simp [past] at ok

theorem repeated_fails {α : Type} (key : String) (x : α) : repeated key cs ≠ .ok x := by
  unfold repeated
  split <;> simp [here]

/-- As many levels as there are characters serve every value inside a text. -/
theorem sketched_of_front (depth : Nat) (within : cs.length ≤ limit)
    (front : ∃ t, Front limit (Sketched limit depth) (skipSpace cs) t rest) :
    ∃ t, Sketched limit limit cs t rest := by
  obtain ⟨t, begins⟩ := front
  exact ⟨t, sketched_deepen limit (depth + 1) limit cs rest t begins within⟩

mutual

theorem Shape.read_spelled (s : Shape) (cs rest : List Char) (x : s.Content)
    (within : cs.length ≤ limit) (ok : s.read limit cs = .ok (x, rest)) :
    ∃ t, Sketched limit limit cs t rest := by
  have bound := length_skipSpace cs
  have lawful := sketched_lawful limit limit
  cases s with
  | text => exact sketched_of_front 0 within (readText_spelled ok within)
  | flag => exact sketched_of_front 0 within (readFlag_spelled ok)
  | count => exact sketched_of_front 0 within (readCount_spelled ok)
  | real => exact sketched_of_front 0 within (readReal_spelled ok)
  | choice tags => exact sketched_of_front 1 within (readTag_spelled ok within)
  | optional item =>
    simp only [Shape.read] at ok
    split at ok
    · rename_i r front
      obtain ⟨r', letters, ok⟩ := bind_ok ok
      cases pure_ok ok
      refine sketched_of_front 0 within ⟨.null, ?_⟩
      rw [front]
      exact .null r rest letters
    · obtain ⟨⟨y, r'⟩, read, ok⟩ := bind_ok ok
      cases pure_ok ok
      obtain ⟨t, begins⟩ := Shape.read_spelled item (skipSpace cs) r' y (by omega) read
      exact ⟨t, (sketched_skips _ _ _ _ _).mp begins⟩
  | list item =>
    simp only [Shape.read] at ok
    split at ok
    · rename_i r front
      have shorter := length_of_skipSpace front
      have each (cs : List Char) (y : item.Content) (rest : List Char)
          (within : cs.length ≤ limit) (read : item.read limit cs = .ok (y, rest)) :
          ∃ t, True ∧ Sketched limit limit cs t rest :=
        (Shape.read_spelled item cs rest y within read).imp fun t begins => ⟨trivial, begins⟩
      obtain ⟨ys, ts, -, -, begins⟩ := items_spelled (fun _ _ => True) lawful each
        (limit + 1) [] x r rest (by omega) ok
      refine sketched_of_front limit within ⟨.array ts, ?_⟩
      rw [front]
      exact .array r ts rest begins
    · exact absurd ok (mismatch_fails _ _ _)
  | record name fields =>
    simp only [Shape.read] at ok
    split at ok
    · rename_i r front
      have shorter := length_of_skipSpace front
      obtain ⟨⟨draft, r'⟩, read, ok⟩ := bind_ok ok
      dsimp only at ok
      split at ok
      · cases pure_ok ok
        have each (key : String) (g : fields.Draft) (cs : List Char) (g' : fields.Draft)
            (rest : List Char) (within : cs.length ≤ limit)
            (read : fields.readMember limit key g cs = .ok (g', rest)) :
            ∃ r t, colon cs = .ok r ∧ True ∧ Sketched limit limit r t rest := by
          obtain ⟨r, t, separator, begins⟩ :=
            Fields.readMember_spelled fields key g g' cs rest within read
          exact ⟨r, t, separator, trivial, begins⟩
        obtain ⟨ms, -, begins⟩ := members_spelled (fun _ _ _ _ => True) lawful each
          (limit + 1) true fields.emptyDraft draft r rest (by omega) read
        refine sketched_of_front limit within ⟨.object ms, ?_⟩
        rw [front]
        exact .object r ms rest begins
      · simp [here] at ok
    · rename_i r front
      have shorter := length_of_skipSpace front
      obtain ⟨ts, begins⟩ :=
        Fields.readList_spelled fields name fields.size 0 r rest x (by omega) ok
      refine sketched_of_front limit within ⟨.array ts, ?_⟩
      rw [front]
      exact .array r ts rest begins
    · exact absurd ok (mismatch_fails _ _ _)

theorem Fields.readMember_spelled (fs : Fields) (k : String) (draft draft' : fs.Draft)
    (cs rest : List Char) (within : cs.length ≤ limit)
    (ok : fs.readMember limit k draft cs = .ok (draft', rest)) :
    ∃ r t, colon cs = .ok r ∧ Sketched limit limit r t rest := by
  cases fs with
  | nil =>
    simp only [Fields.readMember] at ok
    obtain ⟨r, separator, ok⟩ := bind_ok ok
    obtain ⟨r', skimmed, ok⟩ := bind_ok ok
    cases pure_ok ok
    have shorter := colon_length cs r separator
    obtain ⟨t, begins⟩ := sketched_of_skimValue (limit + 1) r rest skimmed
    exact ⟨r, t, separator, sketched_deepen limit (limit + 1) limit r rest t begins (by omega)⟩
  | cons key presence shape more =>
    obtain ⟨slot, draft⟩ := draft
    simp only [Fields.readMember] at ok
    split at ok
    · cases slot with
      | some y => exact absurd ok (repeated_fails _ _)
      | none =>
        obtain ⟨r, separator, ok⟩ := bind_ok ok
        obtain ⟨⟨y, r'⟩, read, ok⟩ := bind_ok ok
        cases pure_ok ok
        have shorter := colon_length cs r separator
        obtain ⟨t, begins⟩ := Shape.read_spelled shape r r' y (by omega) read
        exact ⟨r, t, separator, begins⟩
    · obtain ⟨⟨later, r'⟩, read, ok⟩ := bind_ok ok
      cases pure_ok ok
      exact Fields.readMember_spelled more k draft later cs r' within read

theorem Fields.readList_spelled (fs : Fields) (name : String) (size seen : Nat)
    (cs rest : List Char) (x : fs.Content) (within : cs.length ≤ limit)
    (ok : fs.readList limit name size seen cs = .ok (x, rest)) :
    ∃ ts, Items (Sketched limit limit) (seen == 0) cs ts rest := by
  cases fs with
  | nil =>
    simp only [Fields.readList] at ok
    obtain ⟨r, closed, ok⟩ := bind_ok ok
    cases pure_ok ok
    exact ⟨[], closeList_spelled _ closed⟩
  | cons key presence shape more =>
    simp only [Fields.readList] at ok
    obtain ⟨next, found, ok⟩ := bind_ok ok
    cases next with
    | stop r =>
      dsimp only at ok
      split at ok
      · cases pure_ok ok
        exact ⟨[], .stop _ cs rest found⟩
      · simp [here] at ok
    | more r =>
      obtain ⟨⟨y, r'⟩, read, ok⟩ := bind_ok ok
      obtain ⟨⟨ys, r''⟩, others, ok⟩ := bind_ok ok
      cases pure_ok ok
      have before := nextItem_more_length found
      obtain ⟨t, begins⟩ := Shape.read_spelled shape r r' y (by omega) read
      have behind := (sketched_lawful limit limit).shorter begins
      obtain ⟨ts, spelled⟩ :=
        Fields.readList_spelled more name size (seen + 1) r' r'' ys (by omega) others
      exact ⟨t :: ts, .more _ cs t ts r r' r'' found begins spelled⟩

end

/-- A document is decoded exactly when it spells a value that the schema gives a content to. -/
theorem decode_ok_iff (s : Shape) (text : String) (x : s.Content) :
    s.decode text = .ok x ↔ ∃ t, Spells text t ∧ s.interpret t = .ok x := by
  refine ⟨?_, ?_⟩
  · intro ok
    obtain ⟨⟨y, rest⟩, read, ended⟩ := bind_ok ok
    obtain ⟨t, begins⟩ := Shape.read_spelled s _ rest y (le_refl _) read
    simp only [finished] at ended
    split at ended
    · rename_i blank
      have spelled : Spells text t := ⟨_, rest, begins, blank⟩
      have agrees := decode_interprets s spelled
      rw [ok] at agrees
      exact ⟨t, spelled, agrees.symm⟩
    · simp [past] at ended
  · intro given
    rcases given with ⟨t, spelled, interpreted⟩
    have agrees := decode_interprets s spelled
    rw [interpreted] at agrees
    cases decoded : s.decode text with
    | error f =>
      rw [decoded] at agrees
      cases agrees
    | ok y =>
      rw [decoded] at agrees
      exact congrArg Except.ok (Except.ok.inj agrees)

end Retrofit.Json
