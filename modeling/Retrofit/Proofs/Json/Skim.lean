import Retrofit.Proofs.Json.Sketch

/-! Skimming passes over exactly what spells a value. -/
namespace Retrofit.Json

variable {limit : Nat} {inner : Spelling} {skim : Skimmer} {bound : Nat}

/-! From a spelling to the skimmer -/

/-- The items after the first, with the comma before each. -/
theorem skimItems_of_items (lawful : Lawful inner)
    (skims : ∀ cs t rest, cs.length ≤ bound → inner cs t rest → skim cs = .ok rest)
    {first : Bool} {cs rest : List Char} {ts : List Sketch}
    (items : Items inner first cs ts rest) (later : first = false) (within : cs.length ≤ bound)
    (n : Nat) (enough : cs.length < n) : skimItems skim n cs = .ok rest := by
  induction items generalizing n with
  | stop first cs rest closed =>
    obtain ⟨n, rfl⟩ : ∃ k, n = k + 1 := ⟨n - 1, by omega⟩
    simp [skimItems, nextItem_stop closed]
  | more first cs t ts r r' rest next item others ih =>
    subst later
    obtain ⟨n, rfl⟩ : ∃ k, n = k + 1 := ⟨n - 1, by omega⟩
    obtain ⟨q, comma, behind⟩ := (nextItem_more next).2
    rw [← behind, lawful.skips] at item
    have shorter := length_of_skipSpace comma
    have shortest := lawful.shorter item
    simp only [skimItems, comma, skims q t r' (by omega) item]
    exact ih rfl (by omega) n (by omega)

theorem skimMember_of_spelling (skims : ∀ cs t rest, cs.length ≤ bound → inner cs t rest →
      skim cs = .ok rest)
    {cs r r₁ r₂ r₃ : List Char} {t : Sketch} (quote : skipSpace cs = '"' :: r)
    (key : skimText (limit + 1) r = .ok r₁) (separator : colon r₁ = .ok r₂)
    (value : inner r₂ t r₃) (within : r₂.length ≤ bound) :
    skimMember limit skim cs = .ok r₃ := by
  simp [skimMember, quote, key, separator, bind, Except.bind, skims r₂ t r₃ within value]

/-- The members after the first, with the comma before each. -/
theorem skimMembers_of_members (lawful : Lawful inner)
    (skims : ∀ cs t rest, cs.length ≤ bound → inner cs t rest → skim cs = .ok rest)
    {first : Bool} {cs rest : List Char} {ms : List (Except Cause String × Sketch)}
    (members : Members limit inner first cs ms rest) (later : first = false)
    (within : cs.length ≤ bound) (n : Nat) (enough : cs.length < n) :
    skimMembers limit skim n cs = .ok rest := by
  induction members generalizing n with
  | stop first cs rest closed =>
    obtain ⟨n, rfl⟩ : ∃ k, n = k + 1 := ⟨n - 1, by omega⟩
    simp [skimMembers, nextKey_stop closed]
  | more first cs t ms r r₁ r₂ r₃ rest next key separator value others ih =>
    subst later
    obtain ⟨n, rfl⟩ : ∃ k, n = k + 1 := ⟨n - 1, by omega⟩
    obtain ⟨q, comma, quote⟩ := nextKey_more next
    have before := nextKey_more_length next
    have behindKey := skimText_length _ r r₁ key
    have behindColon := colon_length r₁ r₂ separator
    have behind := lawful.shorter value
    have member := skimMember_of_spelling skims quote key separator value (by omega)
    simp only [skimMembers, comma, member]
    exact ih rfl (by omega) n (by omega)

/-- What begins with a value is passed over up to its end. -/
theorem skimValue_of_sketched (depth : Nat) (cs rest : List Char) (t : Sketch)
    (begins : Sketched limit depth cs t rest) (within : cs.length ≤ limit) :
    skimValue limit depth cs = .ok rest := by
  induction depth generalizing cs t rest with
  | zero => exact begins.elim
  | succ depth ih =>
    have lawful := sketched_lawful limit depth
    have shrinks := length_skipSpace cs
    have skims (cs : List Char) (t : Sketch) (rest : List Char) (within : cs.length ≤ limit)
        (begins : Sketched limit depth cs t rest) : skimValue limit depth cs = .ok rest :=
      ih cs rest t begins within
    simp only [Sketched] at begins
    simp only [skimValue]
    generalize skipSpace cs = front at begins shrinks ⊢
    cases begins with
    | null r _ letters | yes r _ letters | no r _ letters => simpa using letters
    | text r _ quoted => simpa using quoted
    | number c r _ starts digits =>
      dsimp only
      have word (w : Char) (letter : (w == '-' || w.isDigit) = false) : c ≠ w := by
        intro same
        subst same
        simp [letter] at starts
      rw [if_neg (word 'n' rfl), if_neg (word 't' rfl), if_neg (word 'f' rfl)]
      split
      · rename_i minus
        subst minus
        exact digits
      · rename_i minus
        have digit : c.isDigit = true := by simpa [minus] using starts
        rw [if_pos digit]
        rw [numeral_unsigned minus] at digits
        exact digits
    | array r ts _ items =>
      rw [List.length_cons] at shrinks
      simp only [Char.reduceEq, if_false, if_true, Bool.false_eq_true, Char.reduceIsDigit]
      cases items with
      | stop _ _ _ closed => simp [nextItem_stop closed]
      | more _ _ t ts r₁ r₂ _ next item others =>
        obtain ⟨⟨c, q, rfl, bracket, -⟩, front⟩ := nextItem_more next
        simp only [if_true] at front
        have shorter := length_skipSpace r
        rw [front] at shorter
        have behind := lawful.shorter item
        simp only [front, bracket, if_false, skims _ t r₂ (by omega) item, bind, Except.bind]
        exact skimItems_of_items lawful skims others rfl (by omega) _ (by omega)
    | object r ms _ members =>
      rw [List.length_cons] at shrinks
      simp only [Char.reduceEq, if_false, if_true, Bool.false_eq_true, Char.reduceIsDigit]
      cases members with
      | stop _ _ _ closed => simp [nextKey_stop closed]
      | more _ _ t ms r₁ r₂ r₃ r₄ _ next key separator value others =>
        have front := nextKey_more next
        simp only [if_true] at front
        have before := nextKey_more_length next
        have behindKey := skimText_length _ r₁ r₂ key
        have behindColon := colon_length r₂ r₃ separator
        have behind := lawful.shorter value
        have again : skipSpace ('"' :: r₁) = '"' :: r₁ := by rw [← front, skipSpace_skipSpace]
        have member := skimMember_of_spelling skims again key separator value (by omega)
        simp only [front, Char.reduceEq, if_false, member, bind, Except.bind]
        exact skimMembers_of_members lawful skims others rfl (by omega) _ (by omega)

/-! From the skimmer to a spelling -/

theorem items_of_skimItems (lawful : Lawful inner)
    (spelled : ∀ cs rest, skim cs = .ok rest → ∃ t, inner cs t rest) (n : Nat)
    (cs rest : List Char) (ok : skimItems skim n cs = .ok rest) :
    ∃ ts, Items inner false cs ts rest := by
  induction n generalizing cs with
  | zero => simp [skimItems, here] at ok
  | succ n ih =>
    simp only [skimItems] at ok
    split at ok
    · simp [past] at ok
    · rename_i c q front
      split at ok
      · rename_i bracket
        simp only [Except.ok.injEq] at ok
        exact ⟨[], .stop false cs rest (by simp [nextItem, front, bracket, ok])⟩
      · split at ok
        · rename_i comma
          split at ok
          · rename_i r' skimmed
            obtain ⟨t, item⟩ := spelled q r' skimmed
            obtain ⟨ts, others⟩ := ih r' ok
            obtain ⟨d, r, behind, open_, -⟩ := lawful.opens item
            rw [← lawful.skips, behind] at item
            exact ⟨t :: ts, .more false cs t ts (d :: r) r' rest
              (nextItem_comma (by rw [front, comma]) behind open_) item others⟩
          · simp at ok
        · simp [past] at ok

theorem spelling_of_skimMember
    (spelled : ∀ cs rest, skim cs = .ok rest → ∃ t, inner cs t rest)
    (cs rest : List Char) (ok : skimMember limit skim cs = .ok rest) :
    ∃ r r₁ r₂ t, skipSpace cs = '"' :: r ∧ skimText (limit + 1) r = .ok r₁ ∧
      colon r₁ = .ok r₂ ∧ inner r₂ t rest := by
  unfold skimMember at ok
  split at ok
  · simp [past] at ok
  · rename_i c r front
    split at ok
    · rename_i quote
      cases key : skimText (limit + 1) r with
      | error f => simp [key, bind, Except.bind] at ok
      | ok r₁ =>
        cases separator : colon r₁ with
        | error f => simp [key, separator, bind, Except.bind] at ok
        | ok r₂ =>
          simp only [key, separator, bind, Except.bind] at ok
          obtain ⟨t, value⟩ := spelled r₂ rest ok
          exact ⟨r, r₁, r₂, t, by rw [front, quote], key, separator, value⟩
    · simp [past] at ok

theorem members_of_skimMembers
    (spelled : ∀ cs rest, skim cs = .ok rest → ∃ t, inner cs t rest) (n : Nat)
    (cs rest : List Char) (ok : skimMembers limit skim n cs = .ok rest) :
    ∃ ms, Members limit inner false cs ms rest := by
  induction n generalizing cs with
  | zero => simp [skimMembers, here] at ok
  | succ n ih =>
    simp only [skimMembers] at ok
    split at ok
    · simp [past] at ok
    · rename_i c q front
      split at ok
      · rename_i bracket
        simp only [Except.ok.injEq] at ok
        exact ⟨[], .stop false cs rest (by simp [nextKey, front, bracket, ok])⟩
      · split at ok
        · rename_i comma
          split at ok
          · rename_i r₃ skimmed
            obtain ⟨r, r₁, r₂, t, quote, key, separator, value⟩ :=
              spelling_of_skimMember spelled q r₃ skimmed
            obtain ⟨ms, others⟩ := ih r₃ ok
            exact ⟨_, .more false cs t ms r r₁ r₂ r₃ rest
              (nextKey_comma (by rw [front, comma]) quote) key separator value others⟩
          · simp at ok
        · simp [past] at ok

theorem sketched_of_skimValue (depth : Nat) (cs rest : List Char)
    (ok : skimValue limit depth cs = .ok rest) : ∃ t, Sketched limit depth cs t rest := by
  induction depth generalizing cs rest with
  | zero => simp [skimValue, past] at ok
  | succ depth ih =>
    have lawful := sketched_lawful limit depth
    simp only [skimValue] at ok
    simp only [Sketched]
    split at ok
    · simp [past] at ok
    · rename_i c r front
      rw [front]
      split at ok
      · rename_i letter
        subst letter
        exact ⟨_, .null r rest ok⟩
      split at ok
      · rename_i letter
        subst letter
        exact ⟨_, .yes r rest ok⟩
      split at ok
      · rename_i letter
        subst letter
        exact ⟨_, .no r rest ok⟩
      split at ok
      · rename_i minus
        subst minus
        exact ⟨_, .number '-' r rest rfl ok⟩
      split at ok
      · rename_i minus digit
        rw [← numeral_unsigned minus] at ok
        exact ⟨_, .number c r rest (by simp [digit]) ok⟩
      split at ok
      · rename_i quote
        subst quote
        exact ⟨_, .text r rest ok⟩
      split at ok
      · rename_i bracket
        subst bracket
        split at ok
        · simp [past] at ok
        · rename_i d q behind
          split at ok
          · rename_i closed
            simp only [Except.ok.injEq] at ok
            exact ⟨_, .array r [] rest (.stop true r rest (by simp [nextItem, behind, closed, ok]))⟩
          · rename_i open_
            cases item : skimValue limit depth (d :: q) with
            | error f => simp [item, bind, Except.bind] at ok
            | ok r' =>
              simp only [item, bind, Except.bind] at ok
              obtain ⟨t, item⟩ := ih (d :: q) r' item
              obtain ⟨ts, others⟩ := items_of_skimItems lawful ih _ r' rest ok
              exact ⟨_, .array r (t :: ts) rest (.more true r t ts (d :: q) r' rest
                (by simp [nextItem, behind, open_]) item others)⟩
      split at ok
      · rename_i bracket
        subst bracket
        split at ok
        · simp [past] at ok
        · rename_i d q behind
          split at ok
          · rename_i closed
            simp only [Except.ok.injEq] at ok
            exact ⟨_, .object r [] rest (.stop true r rest (by simp [nextKey, behind, closed, ok]))⟩
          · rename_i open_
            cases member : skimMember limit (skimValue limit depth) (d :: q) with
            | error f => simp [member, bind, Except.bind] at ok
            | ok r₃ =>
              simp only [member, bind, Except.bind] at ok
              obtain ⟨r', r₁, r₂, t, quote, key, separator, value⟩ :=
                spelling_of_skimMember ih (d :: q) r₃ member
              obtain ⟨ms, others⟩ := members_of_skimMembers ih _ r₃ rest ok
              rw [← behind, skipSpace_skipSpace] at quote
              exact ⟨_, .object r _ rest (.more true r t ms r' r₁ r₂ r₃ rest
                (by simp [nextKey, quote]) key separator value others)⟩
      · simp [past] at ok

end Retrofit.Json
