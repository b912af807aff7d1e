import Retrofit.Json.Reader
import Retrofit.Proofs.Json.Sketch

/-! Whatever a reader accepts is spelled in the text, and a value read without a schema is the one that
is spelled there. -/
namespace Retrofit.Json

variable {limit : Nat} {inner : Spelling}

theorem reading_ok {α : Type} {read : Except Fault (α × List Char)} {x : α} {rest : List Char}
    (ok : read = .ok (x, rest)) : reading read = .ok x := by
  rw [ok]
  rfl

theorem bind_ok {ε α β : Type} {first : Except ε α} {next : α → Except ε β} {out : β}
    (ok : (first >>= next) = .ok out) : ∃ x, first = .ok x ∧ next x = .ok out := by
  cases first with
  | error e => simp [bind, Except.bind] at ok
  | ok x => exact ⟨x, rfl, ok⟩

theorem pure_ok {ε α : Type} {x y : α} (ok : (pure x : Except ε α) = .ok y) : x = y := by
  simpa [pure, Except.pure] using ok

/-- Items that are read one by one are spelled one by one. -/
theorem items_spelled {α : Type} {item : Reader α} (means : α → Sketch → Prop)
    (lawful : Lawful inner)
    (spelled : ∀ cs x rest, cs.length ≤ limit → item cs = .ok (x, rest) →
      ∃ t, means x t ∧ inner cs t rest)
    (n : Nat) (seen xs : List α) (cs rest : List Char) (within : cs.length ≤ limit)
    (ok : items item n seen cs = .ok (xs, rest)) :
    ∃ ys ts, xs = seen.reverse ++ ys ∧ List.Forall₂ means ys ts ∧
      Items inner seen.isEmpty cs ts rest := by
  induction n generalizing seen cs with
  | zero => simp [items, here] at ok
  | succ n ih =>
    simp only [items] at ok
    split at ok
    · simp at ok
    · rename_i r closed
      simp only [Except.ok.injEq, Prod.mk.injEq] at ok
      obtain ⟨rfl, rfl⟩ := ok
      exact ⟨[], [], by simp, .nil, .stop _ cs r closed⟩
    · rename_i r next
      have before := nextItem_more_length next
      split at ok
      · simp at ok
      · rename_i x r' read
        obtain ⟨t, meant, begins⟩ := spelled r x r' (by omega) read
        have behind := lawful.shorter begins
        obtain ⟨ys, ts, rfl, all, others⟩ := ih (x :: seen) r' (by omega) ok
        exact ⟨x :: ys, t :: ts, by simp, .cons meant all,
          .more _ cs t ts r r' rest next begins others⟩

/-- The steps by which the members of an object are gathered. -/
inductive Gathered {σ : Type} (step : String → σ → Sketch → σ → Prop) :
    σ → List (Except Cause String × Sketch) → σ → Prop
  | done (g) : Gathered step g [] g
  | member (key g t g' ms out) (first : step key g t g') (others : Gathered step g' ms out) :
      Gathered step g ((.ok key, t) :: ms) out

/-- Members that are read one by one are spelled one by one. -/
theorem members_spelled {σ : Type} {member : String → σ → Reader σ}
    (step : String → σ → Sketch → σ → Prop) (lawful : Lawful inner)
    (spelled : ∀ key g cs g' rest, cs.length ≤ limit → member key g cs = .ok (g', rest) →
      ∃ r t, colon cs = .ok r ∧ step key g t g' ∧ inner r t rest)
    (n : Nat) (first : Bool) (g out : σ) (cs rest : List Char) (within : cs.length ≤ limit)
    (ok : members limit member n first g cs = .ok (out, rest)) :
    ∃ ms, Gathered step g ms out ∧ Members limit inner first cs ms rest := by
  induction n generalizing first g cs with
  | zero => simp [members, here] at ok
  | succ n ih =>
    simp only [members] at ok
    split at ok
    · simp at ok
    · rename_i r closed
      simp only [Except.ok.injEq, Prod.mk.injEq] at ok
      obtain ⟨rfl, rfl⟩ := ok
      exact ⟨[], .done g, .stop first cs r closed⟩
    · rename_i r next
      have before := nextKey_more_length next
      split at ok
      · simp at ok
      · rename_i key r₁ named
        have skimmed := textTail_skimmed limit r r₁ key named (by omega)
        have behindKey := skimText_length _ r r₁ skimmed
        split at ok
        · simp at ok
        · rename_i g' r₃ read
          obtain ⟨r₂, t, separator, stepped, value⟩ := spelled key g r₁ g' r₃ (by omega) read
          have behindColon := colon_length r₁ r₂ separator
          have behind := lawful.shorter value
          obtain ⟨ms, all, others⟩ := ih false g' r₃ (by omega) ok
          have spelling := Members.more first cs t ms r r₁ r₂ r₃ rest next skimmed separator
            value others
          rw [reading_ok named] at spelling
          exact ⟨_, .member key g t g' ms out stepped all, spelling⟩

/-- A member is put in front of those before it. -/
private def Kept (key : String) (seen : List (String × Value)) (t : Sketch)
    (seen' : List (String × Value)) : Prop :=
  ∃ v : Value, t = v.sketch ∧ seen' = (key, v) :: seen

private theorem gathered_kept {seen out : List (String × Value)}
    {ms : List (Except Cause String × Sketch)} (all : Gathered Kept seen ms out) :
    ∃ vs, out = vs.reverse ++ seen ∧ ms = sketchMembers vs := by
  induction all with
  | done g => exact ⟨[], rfl, rfl⟩
  | member key g t g' ms out first others ih =>
    obtain ⟨v, rfl, rfl⟩ := first
    obtain ⟨vs, rfl, rfl⟩ := ih
    exact ⟨(key, v) :: vs, by simp, rfl⟩

private theorem forall₂_sketch {vs : List Value} {ts : List Sketch}
    (all : List.Forall₂ (fun (v : Value) t => t = v.sketch) vs ts) : ts = sketchItems vs := by
  induction all with
  | nil => rfl
  | cons first others ih => rw [first, ih, sketchItems]

theorem wordValue_ok {letters : List Char} {v w : Value} {cs rest : List Char}
    (ok : wordValue letters v cs = .ok (w, rest)) : v = w ∧ word letters cs = .ok rest := by
  unfold wordValue at ok
  split at ok
  · simp only [Except.ok.injEq, Prod.mk.injEq] at ok
    exact ⟨ok.1, by rw [← ok.2]; assumption⟩
  · simp at ok

/-- A list of values, given a reader for the values inside it. -/
private theorem array_spelled (lawful : Lawful inner) (item : Reader Value)
    (spelled : ∀ cs v rest, cs.length ≤ limit → item cs = .ok (v, rest) →
      inner cs v.sketch rest)
    (vs : List Value) (r rest : List Char) (within : r.length ≤ limit)
    (ok : items item (limit + 1) [] r = .ok (vs, rest)) :
    Front limit inner ('[' :: r) (Value.array vs).sketch rest := by
  obtain ⟨ys, ts, rfl, all, begins⟩ := items_spelled
    (fun (v : Value) t => t = v.sketch) lawful
    (fun cs v rest within read => ⟨_, rfl, spelled cs v rest within read⟩)
    (limit + 1) [] vs r rest within ok
  rw [forall₂_sketch all] at begins
  exact .array r _ rest begins

/-- An object, given a reader for the values inside it. -/
private theorem object_spelled (lawful : Lawful inner) (item : Reader Value)
    (spelled : ∀ cs v rest, cs.length ≤ limit → item cs = .ok (v, rest) →
      inner cs v.sketch rest)
    (member : String → List (String × Value) → Reader (List (String × Value)))
    (reads : ∀ key seen cs, member key seen cs = (do
      let (v, r) ← item (← colon cs)
      return ((key, v) :: seen, r)))
    (out : List (String × Value)) (r rest : List Char) (within : r.length ≤ limit)
    (ok : members limit member (limit + 1) true [] r = .ok (out, rest)) :
    Front limit inner ('{' :: r) (Value.object out.reverse).sketch rest := by
  have kept (key : String) (g : List (String × Value)) (cs : List Char)
      (g' : List (String × Value)) (rest : List Char) (within : cs.length ≤ limit)
      (read : member key g cs = .ok (g', rest)) :
      ∃ r t, colon cs = .ok r ∧ Kept key g t g' ∧ inner r t rest := by
    rw [reads] at read
    obtain ⟨r, separator, read⟩ := bind_ok read
    obtain ⟨⟨v, r'⟩, value, read⟩ := bind_ok read
    cases pure_ok read
    have shorter := colon_length cs r separator
    exact ⟨r, _, separator, ⟨v, rfl, rfl⟩, spelled r v rest (by omega) value⟩
  obtain ⟨ms, all, begins⟩ := members_spelled Kept lawful kept (limit + 1) true [] out r rest within ok
  obtain ⟨vs, rfl, rfl⟩ := gathered_kept all
  rw [List.append_nil, List.reverse_reverse]
  exact .object r _ rest begins

/-- One level of a value: `read` reads what stands inside it, if anything may. -/
theorem valueAround_spelled (lawful : Lawful inner) (read : Option (Reader Value))
    (spelled : ∀ item, read = some item → ∀ cs v rest, cs.length ≤ limit →
      item cs = .ok (v, rest) → inner cs v.sketch rest)
    (cs rest : List Char) (v : Value) (within : cs.length ≤ limit)
    (ok : valueAround limit read cs = .ok (v, rest)) :
    Front limit inner (skipSpace cs) v.sketch rest := by
  have bound := length_skipSpace cs
  unfold valueAround at ok
  split at ok
  · simp [past] at ok
  rename_i c r front
  rw [front, List.length_cons] at bound
  rw [front]
  split at ok
  · rename_i letter
    subst letter
    obtain ⟨rfl, letters⟩ := wordValue_ok ok
    exact .null r rest letters
  split at ok
  · rename_i letter
    subst letter
    obtain ⟨rfl, letters⟩ := wordValue_ok ok
    exact .yes r rest letters
  split at ok
  · rename_i letter
    subst letter
    obtain ⟨rfl, letters⟩ := wordValue_ok ok
    exact .no r rest letters
  split at ok
  · rename_i starts
    obtain ⟨⟨n, r'⟩, found, ok⟩ := bind_ok ok
    cases pure_ok ok
    have begins : Front limit inner (c :: r) _ rest :=
      .number c r rest starts (number_skimmed _ rest n found)
    rw [reading_ok found] at begins
    exact begins
  split at ok
  · rename_i quote
    subst quote
    obtain ⟨⟨s, r'⟩, found, ok⟩ := bind_ok ok
    cases pure_ok ok
    have begins : Front limit inner ('"' :: r) _ rest :=
      .text r rest (textTail_skimmed limit r rest s found (by omega))
    rw [reading_ok found] at begins
    exact begins
  split at ok
  · rename_i bracket
    subst bracket
    cases read with
    | none => simp [past] at ok
    | some item =>
      obtain ⟨⟨vs, r'⟩, listed, ok⟩ := bind_ok ok
      cases pure_ok ok
      exact array_spelled lawful item (spelled item rfl) vs r rest (by omega) listed
  split at ok
  · rename_i bracket
    subst bracket
    cases read with
    | none => simp [past] at ok
    | some item =>
      obtain ⟨⟨out, r'⟩, listed, ok⟩ := bind_ok ok
      cases pure_ok ok
      exact object_spelled lawful item (spelled item rfl) _ (fun _ _ _ => rfl) out r rest
        (by omega) listed
  · simp [past] at ok

/-- What is read at so many levels is spelled with one level more, that of the value itself. -/
theorem valueWithin_sketched (depth : Nat) (cs rest : List Char) (v : Value)
    (within : cs.length ≤ limit) (ok : valueWithin limit depth cs = .ok (v, rest)) :
    Sketched limit (depth + 1) cs v.sketch rest := by
  induction depth generalizing cs v rest with
  | zero =>
    exact valueAround_spelled (sketched_lawful limit 0) none (by simp) cs rest v within ok
  | succ depth ih =>
    refine valueAround_spelled (sketched_lawful limit (depth + 1)) _ ?_ cs rest v within ok
    intro item given cs v rest within ok
    rcases given with ⟨rfl⟩
    exact ih cs rest v within ok

theorem parse_spells {text : String} {v : Value} (ok : parse text = .ok v) :
    Spells text v.sketch := by
  obtain ⟨⟨w, rest⟩, read, ok⟩ := bind_ok ok
  simp only [finished] at ok
  split at ok
  · rename_i ended
    simp only [Except.ok.injEq] at ok
    subst ok
    exact ⟨deepest + 1, rest, valueWithin_sketched _ _ _ _ (le_refl _) read, ended⟩
  · simp [past] at ok

end Retrofit.Json
