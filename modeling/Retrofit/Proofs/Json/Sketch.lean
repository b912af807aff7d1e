import Retrofit.Proofs.Json.Token

/-! The value that a text spells, whether or not a reader can hold it. JSON bounds neither the size of a
number nor the depth of a list, and lets a text escape half of a character; where a reader has to give
up on such a part, its sketch keeps the cause. -/
namespace Retrofit.Json

inductive Sketch where
  | null
  | bool (b : Bool)
  | number (n : Except Cause Number)
  | text (s : Except Cause String)
  | array (items : List Sketch)
  | object (members : List (Except Cause String × Sketch))

/-- That a text begins with a value, and which text is left behind it. -/
abbrev Spelling := List Char → Sketch → List Char → Prop

/-- The items of a list after its opening bracket, or after an item when `first` is false. -/
inductive Items (inner : Spelling) : Bool → List Char → List Sketch → List Char → Prop
  | stop (first cs rest) (closed : nextItem first cs = .ok (.stop rest)) :
      Items inner first cs [] rest
  | more (first cs t ts) (r r' rest : List Char) (next : nextItem first cs = .ok (.more r))
      (item : inner r t r') (others : Items inner false r' ts rest) :
      Items inner first cs (t :: ts) rest

/-- The members of an object after its opening bracket, or after a member when `first` is false. -/
inductive Members (limit : Nat) (inner : Spelling) :
    Bool → List Char → List (Except Cause String × Sketch) → List Char → Prop
  | stop (first cs rest) (closed : nextKey first cs = .ok (.stop rest)) :
      Members limit inner first cs [] rest
  | more (first cs t ms) (r r₁ r₂ r₃ rest : List Char) (next : nextKey first cs = .ok (.more r))
      (key : skimText (limit + 1) r = .ok r₁) (separator : colon r₁ = .ok r₂)
      (value : inner r₂ t r₃) (others : Members limit inner false r₃ ms rest) :
      Members limit inner first cs ((reading (textTail limit r), t) :: ms) rest

/-- A value that begins with the first character of a text, given how the values inside it are spelled. -/
inductive Front (limit : Nat) (inner : Spelling) : Spelling
  | null (r rest) (letters : word ['u', 'l', 'l'] r = .ok rest) :
      Front limit inner ('n' :: r) .null rest
  | yes (r rest) (letters : word ['r', 'u', 'e'] r = .ok rest) :
      Front limit inner ('t' :: r) (.bool true) rest
  | no (r rest) (letters : word ['a', 'l', 's', 'e'] r = .ok rest) :
      Front limit inner ('f' :: r) (.bool false) rest
  | number (c r rest) (starts : (c == '-' || c.isDigit) = true)
      (digits : numeral (c :: r) = .ok rest) :
      Front limit inner (c :: r) (.number (reading (Json.number (c :: r)))) rest
  | text (r rest) (quoted : skimText (limit + 1) r = .ok rest) :
      Front limit inner ('"' :: r) (.text (reading (textTail limit r))) rest
  | array (r ts rest) (items : Items inner true r ts rest) :
      Front limit inner ('[' :: r) (.array ts) rest
  | object (r ms rest) (members : Members limit inner true r ms rest) :
      Front limit inner ('{' :: r) (.object ms) rest

/-- The text begins with a value of at most `depth` levels. -/
def Sketched (limit : Nat) : Nat → Spelling
  | 0 => fun _ _ _ => False
  | depth + 1 => fun cs t rest => Front limit (Sketched limit depth) (skipSpace cs) t rest

/-- A whole document, with nothing but white space around its value. -/
def Spells (text : String) (t : Sketch) : Prop :=
  ∃ depth rest, Sketched text.toList.length depth text.toList t rest ∧ skipSpace rest = []

mutual

/-- A value that a reader holds leaves nothing to be desired. -/
def Value.sketch : Value → Sketch
  | .null => .null
  | .bool b => .bool b
  | .number n => .number (.ok n)
  | .text s => .text (.ok s)
  | .array vs => .array (sketchItems vs)
  | .object ms => .object (sketchMembers ms)

def sketchItems : List Value → List Sketch
  | [] => []
  | v :: vs => v.sketch :: sketchItems vs

def sketchMembers : List (String × Value) → List (Except Cause String × Sketch)
  | [] => []
  | (k, v) :: ms => (.ok k, v.sketch) :: sketchMembers ms

end

theorem sketchItems_eq_map (vs : List Value) : sketchItems vs = vs.map Value.sketch := by
  induction vs with
  | nil => rfl
  | cons v vs ih => rw [sketchItems, ih, List.map_cons]

theorem sketchMembers_eq_map (ms : List (String × Value)) :
    sketchMembers ms = ms.map fun (k, v) => (.ok k, v.sketch) := by
  induction ms with
  | nil => rfl
  | cons m ms ih => rw [sketchMembers, ih, List.map_cons]

/-! Where items and keys begin and end -/

theorem nextItem_stop {first : Bool} {cs rest : List Char}
    (closed : nextItem first cs = .ok (.stop rest)) : skipSpace cs = ']' :: rest := by
  unfold nextItem at closed
  split at closed
  · simp [past] at closed
  · rename_i c r front
    split at closed
    · rename_i bracket
      simp only [Except.ok.injEq, Next.stop.injEq] at closed
      rw [front, bracket, closed]
    · split at closed
      · simp at closed
      · split at closed
        · split at closed
          · simp [past] at closed
          · split at closed <;> simp [past] at closed
        · simp [past] at closed

/-- The first item begins at once, a later one behind a comma. -/
theorem nextItem_more {first : Bool} {cs r : List Char}
    (next : nextItem first cs = .ok (.more r)) :
    (∃ c q, r = c :: q ∧ c ≠ ']' ∧ isSpace c = false) ∧
      if first then skipSpace cs = r else ∃ q, skipSpace cs = ',' :: q ∧ skipSpace q = r := by
  unfold nextItem at next
  split at next
  · simp [past] at next
  · rename_i c q front
    split at next
    · simp at next
    · rename_i open_
      split at next
      · rename_i begins
        simp only [Except.ok.injEq, Next.more.injEq] at next
        rw [if_pos begins]
        exact ⟨⟨c, q, next.symm, open_, not_space_of_skipSpace front⟩, by rw [front, next]⟩
      · rename_i begun
        rw [if_neg begun]
        split at next
        · rename_i comma
          split at next
          · simp [past] at next
          · rename_i d q' behind
            split at next
            · simp [past] at next
            · rename_i item
              simp only [Except.ok.injEq, Next.more.injEq] at next
              exact ⟨⟨d, q', next.symm, item, not_space_of_skipSpace behind⟩,
                q, by rw [front, comma], by rw [behind, next]⟩
        · simp [past] at next

theorem nextItem_more_length {first : Bool} {cs r : List Char}
    (next : nextItem first cs = .ok (.more r)) : r.length ≤ cs.length := by
  have begins := (nextItem_more next).2
  split at begins
  · rw [← begins]
    exact length_skipSpace cs
  · obtain ⟨q, comma, behind⟩ := begins
    have shorter := length_of_skipSpace comma
    have bound := length_skipSpace q
    rw [behind] at bound
    omega

theorem nextKey_stop {first : Bool} {cs rest : List Char}
    (closed : nextKey first cs = .ok (.stop rest)) : skipSpace cs = '}' :: rest := by
  unfold nextKey at closed
  split at closed
  · simp [past] at closed
  · rename_i c r front
    split at closed
    · rename_i bracket
      simp only [Except.ok.injEq, Next.stop.injEq] at closed
      rw [front, bracket, closed]
    · split at closed
      · split at closed <;> simp [past] at closed
      · split at closed
        · split at closed
          · simp [past] at closed
          · split at closed
            · simp at closed
            · split at closed <;> simp [past] at closed
        · simp [past] at closed

/-- The first key begins at once, a later one behind a comma. -/
theorem nextKey_more {first : Bool} {cs r : List Char}
    (next : nextKey first cs = .ok (.more r)) :
    if first then skipSpace cs = '"' :: r
    else ∃ q, skipSpace cs = ',' :: q ∧ skipSpace q = '"' :: r := by
  unfold nextKey at next
  split at next
  · simp [past] at next
  · rename_i c q front
    split at next
    · simp at next
    · split at next
      · rename_i begins
        rw [if_pos begins]
        split at next
        · rename_i quote
          simp only [Except.ok.injEq, Next.more.injEq] at next
          rw [front, quote, next]
        · simp [past] at next
      · rename_i begun
        rw [if_neg begun]
        split at next
        · rename_i comma
          split at next
          · simp [past] at next
          · rename_i d q' behind
            split at next
            · rename_i quote
              simp only [Except.ok.injEq, Next.more.injEq] at next
              exact ⟨q, by rw [front, comma], by rw [behind, quote, next]⟩
            · split at next <;> simp [past] at next
        · simp [past] at next

theorem nextKey_more_length {first : Bool} {cs r : List Char}
    (next : nextKey first cs = .ok (.more r)) : r.length < cs.length := by
  have begins := nextKey_more next
  split at begins
  · exact length_of_skipSpace begins
  · obtain ⟨q, comma, quote⟩ := begins
    have shorter := length_of_skipSpace comma
    have shortest := length_of_skipSpace quote
    omega

theorem nextItem_comma {cs q r : List Char} {c : Char} (comma : skipSpace cs = ',' :: q)
    (behind : skipSpace q = c :: r) (item : c ≠ ']') :
    nextItem false cs = .ok (.more (c :: r)) := by
  simp [nextItem, comma, behind, item]

theorem nextKey_comma {cs q r : List Char} (comma : skipSpace cs = ',' :: q)
    (behind : skipSpace q = '"' :: r) : nextKey false cs = .ok (.more r) := by
  simp [nextKey, comma, behind]

/-! Laws of every spelling of values -/

/-- What a spelling of values has to observe to stand inside lists and objects. -/
structure Lawful (inner : Spelling) : Prop where
  shorter : ∀ {cs t rest}, inner cs t rest → rest.length < cs.length
  skips : ∀ {cs t rest}, inner (skipSpace cs) t rest ↔ inner cs t rest
  opens : ∀ {cs t rest}, inner cs t rest → ∃ c r, skipSpace cs = c :: r ∧ c ≠ ']' ∧ c ≠ ','

variable {limit : Nat} {inner : Spelling}

theorem Items.shorter (lawful : Lawful inner) {first : Bool} {cs rest : List Char}
    {ts : List Sketch} (items : Items inner first cs ts rest) : rest.length < cs.length := by
  induction items with
  | stop first cs rest closed => exact length_of_skipSpace (nextItem_stop closed)
  | more first cs t ts r r' rest next item others ih =>
    have before := nextItem_more_length next
    have within := lawful.shorter item
    omega

theorem Members.shorter (lawful : Lawful inner) {first : Bool} {cs rest : List Char}
    {ms : List (Except Cause String × Sketch)} (members : Members limit inner first cs ms rest) :
    rest.length < cs.length := by
  induction members with
  | stop first cs rest closed => exact length_of_skipSpace (nextKey_stop closed)
  | more first cs t ms r r₁ r₂ r₃ rest next key separator value others ih =>
    have before := nextKey_more_length next
    have behindKey := skimText_length _ r r₁ key
    have behindColon := colon_length r₁ r₂ separator
    have within := lawful.shorter value
    omega

theorem Front.shorter (lawful : Lawful inner) {front rest : List Char} {t : Sketch}
    (begins : Front limit inner front t rest) : rest.length < front.length := by
  cases begins with
  | null r _ letters => exact Nat.lt_succ_of_le (word_length _ r rest letters)
  | yes r _ letters => exact Nat.lt_succ_of_le (word_length _ r rest letters)
  | no r _ letters => exact Nat.lt_succ_of_le (word_length _ r rest letters)
  | number c r _ starts digits => exact numeral_length _ rest digits
  | text r _ quoted => exact Nat.lt_succ_of_lt (skimText_length _ r rest quoted)
  | array r ts _ items => exact Nat.lt_succ_of_lt (items.shorter lawful)
  | object r ms _ members => exact Nat.lt_succ_of_lt (members.shorter lawful)

theorem Front.opens {front rest : List Char} {t : Sketch}
    (begins : Front limit inner front t rest) :
    ∃ c r, front = c :: r ∧ c ≠ ']' ∧ c ≠ ',' := by
  cases begins with
  | number c r _ starts digits =>
    refine ⟨c, r, rfl, ?_, ?_⟩
    · intro same
      subst same
      simp at starts
    · intro same
      subst same
      simp at starts
  | null r _ _ | yes r _ _ | no r _ _ | text r _ _ | array r _ _ _ | object r _ _ _ =>
    exact ⟨_, r, rfl, by decide, by decide⟩

theorem sketched_skips (limit depth : Nat) (cs rest : List Char) (t : Sketch) :
    Sketched limit depth (skipSpace cs) t rest ↔ Sketched limit depth cs t rest := by
  cases depth with
  | zero => exact Iff.rfl
  | succ depth => simp only [Sketched, skipSpace_skipSpace]

theorem sketched_lawful (limit depth : Nat) : Lawful (Sketched limit depth) := by
  induction depth with
  | zero => exact ⟨False.elim, Iff.rfl, False.elim⟩
  | succ depth ih =>
    refine ⟨?_, sketched_skips limit _ _ _ _, Front.opens⟩
    intro cs t rest begins
    exact Nat.lt_of_lt_of_le (Front.shorter ih begins) (length_skipSpace cs)

/-! More levels are no harm, and a text of `n` characters has no need for more than `n` -/

section Deepening

variable {other : Spelling} {bound : Nat}

theorem Items.imp (lawful : Lawful inner)
    (weaker : ∀ cs t rest, cs.length ≤ bound → inner cs t rest → other cs t rest)
    {first : Bool} {cs rest : List Char} {ts : List Sketch}
    (items : Items inner first cs ts rest) (within : cs.length ≤ bound) :
    Items other first cs ts rest := by
  induction items with
  | stop first cs rest closed => exact .stop first cs rest closed
  | more first cs t ts r r' rest next item others ih =>
    have before := nextItem_more_length next
    have behind := lawful.shorter item
    exact .more first cs t ts r r' rest next (weaker r t r' (by omega) item) (ih (by omega))

theorem Members.imp (lawful : Lawful inner)
    (weaker : ∀ cs t rest, cs.length ≤ bound → inner cs t rest → other cs t rest)
    {first : Bool} {cs rest : List Char} {ms : List (Except Cause String × Sketch)}
    (members : Members limit inner first cs ms rest) (within : cs.length ≤ bound) :
    Members limit other first cs ms rest := by
  induction members with
  | stop first cs rest closed => exact .stop first cs rest closed
  | more first cs t ms r r₁ r₂ r₃ rest next key separator value others ih =>
    have before := nextKey_more_length next
    have behindKey := skimText_length _ r r₁ key
    have behindColon := colon_length r₁ r₂ separator
    have behind := lawful.shorter value
    exact .more first cs t ms r r₁ r₂ r₃ rest next key separator
      (weaker r₂ t r₃ (by omega) value) (ih (by omega))

end Deepening

theorem sketched_deepen (limit depth deeper : Nat) (cs rest : List Char) (t : Sketch)
    (begins : Sketched limit depth cs t rest) (within : cs.length ≤ deeper) :
    Sketched limit deeper cs t rest := by
  induction depth generalizing deeper cs t rest with
  | zero => exact begins.elim
  | succ depth ih =>
    have lawful := sketched_lawful limit depth
    have shrinks := length_skipSpace cs
    have positive := (sketched_lawful limit (depth + 1)).shorter begins
    obtain ⟨deeper, rfl⟩ : ∃ k, deeper = k + 1 := ⟨deeper - 1, by omega⟩
    have weaker (cs : List Char) (t : Sketch) (rest : List Char) (within : cs.length ≤ deeper)
        (begins : Sketched limit depth cs t rest) : Sketched limit deeper cs t rest :=
      ih deeper cs rest t begins within
    simp only [Sketched] at begins ⊢
    generalize skipSpace cs = front at begins shrinks ⊢
    cases begins with
    | null r _ letters => exact .null r rest letters
    | yes r _ letters => exact .yes r rest letters
    | no r _ letters => exact .no r rest letters
    | number c r _ starts digits => exact .number c r rest starts digits
    | text r _ quoted => exact .text r rest quoted
    | array r ts _ items =>
      rw [List.length_cons] at shrinks
      exact .array r ts rest (items.imp lawful weaker (by omega))
    | object r ms _ members =>
      rw [List.length_cons] at shrinks
      exact .object r ms rest (members.imp lawful weaker (by omega))

end Retrofit.Json
