import Retrofit.Proofs.Json.Interpretation
import Retrofit.Proofs.Json.Reading
import Retrofit.Proofs.Json.Skim

/-! The reader of a document agrees with the interpretation of its value on every text that spells one,
in the content it gives and in the cause of the fault it stops at. -/
namespace Retrofit.Json

/-! Agreement of a reader with a result -/

/-- The reader gives this result and leaves this text, or fails for the same cause. -/
def Agrees {α : Type} (rest : List Char) (read : Except Fault (α × List Char)) :
    Except Cause α → Prop
  | .ok x => read = .ok (x, rest)
  | .error c => ∃ behind, read = .error ⟨c, behind⟩

section Agreement

variable {α β : Type} {r rest : List Char}

theorem Agrees.bind {first : Except Fault (α × List Char)} {a : Except Cause α}
    {next : α × List Char → Except Fault (β × List Char)} {after : α → Except Cause β}
    (agrees : Agrees r first a) (follows : ∀ x, Agrees rest (next (x, r)) (after x)) :
    Agrees rest (first >>= next) (a >>= after) := by
  cases a with
  | ok x =>
    have same : first = .ok (x, r) := agrees
    rw [same]
    exact follows x
  | error c =>
    obtain ⟨behind, same⟩ := agrees
    rw [same]
    exact ⟨behind, rfl⟩

theorem Agrees.map {read : Except Fault (α × List Char)} {a : Except Cause α} (f : α → β)
    (agrees : Agrees rest read a) :
    Agrees rest (read >>= fun (x, r) => pure (f x, r)) (a.map f) := by
  have mapped : a.map f = a >>= fun x => pure (f x) := by cases a <;> rfl
  rw [mapped]
  exact agrees.bind fun x => rfl

theorem agrees_reading {read : Except Fault (α × List Char)}
    (leaves : ∀ x r, read = .ok (x, r) → r = rest) : Agrees rest read (reading read) := by
  cases read with
  | ok found =>
    obtain ⟨x, r⟩ := found
    rw [leaves x r rfl]
    rfl
  | error f => exact ⟨f.behind, rfl⟩

theorem agrees_here (c : Cause) (cs : List Char) :
    Agrees rest (here c cs : Except Fault (α × List Char)) (.error c) :=
  ⟨_, rfl⟩

theorem agrees_past (c : Cause) (cs : List Char) :
    Agrees rest (past c cs : Except Fault (α × List Char)) (.error c) :=
  ⟨_, rfl⟩

end Agreement

variable {limit : Nat} {inner : Spelling}

theorem textTail_agrees {r rest : List Char} (quoted : skimText (limit + 1) r = .ok rest)
    (within : r.length ≤ limit) :
    Agrees rest (textTail limit r) (reading (textTail limit r)) := by
  apply agrees_reading
  intro s r' read
  have skimmed := textTail_skimmed limit r r' s read within
  rw [quoted] at skimmed
  exact (Except.ok.inj skimmed).symm

theorem number_agrees {cs rest : List Char} (digits : numeral cs = .ok rest) :
    Agrees rest (number cs) (reading (number cs)) := by
  apply agrees_reading
  intro n r' read
  have skimmed := number_skimmed cs r' n read
  rw [digits] at skimmed
  exact (Except.ok.inj skimmed).symm

theorem ne_of_starts_number {c : Char} (starts : (c == '-' || c.isDigit) = true) {w : Char}
    (other : (w == '-' || w.isDigit) = false) : c ≠ w := by
  intro same
  subst same
  simp [other] at starts

/-- Where something else was expected, the reader reads on as far as it must to name what it found. -/
theorem mismatch_cause {front rest : List Char} {t : Sketch} (expected : Expected)
    (begins : Front limit inner front t rest) :
    ∃ c behind, (∀ α : Type, (mismatch limit expected front : Except Fault α) = .error ⟨c, behind⟩) ∧
      ∀ α : Type, (t.refuse expected : Except Cause α) = .error c := by
  cases begins with
  | null r _ letters | yes r _ letters | no r _ letters =>
    simp only [mismatch, Char.reduceEq, if_false, if_true, letters]
    exact ⟨_, _, fun _ => rfl, fun _ => rfl⟩
  | number c r _ starts digits =>
    have n : c ≠ 'n' := ne_of_starts_number starts rfl
    have t : c ≠ 't' := ne_of_starts_number starts rfl
    have f : c ≠ 'f' := ne_of_starts_number starts rfl
    have numeric : (decide (c = '-') || c.isDigit) = true := starts
    simp only [mismatch, n, t, f, numeric, if_false, if_true]
    cases number (c :: r) with
    | error f => exact ⟨f.cause, f.behind, fun _ => rfl, fun _ => rfl⟩
    | ok found =>
      obtain ⟨n, r'⟩ := found
      cases n <;> exact ⟨_, _, fun _ => rfl, fun _ => rfl⟩
  | text r _ quoted =>
    simp only [mismatch, Char.reduceEq, if_false, if_true]
    cases textTail limit r with
    | error f => exact ⟨f.cause, f.behind, fun _ => rfl, fun _ => rfl⟩
    | ok found => exact ⟨_, _, fun _ => rfl, fun _ => rfl⟩
  | array r ts _ items | object r ms _ members =>
    simp only [mismatch, Char.reduceEq, if_false, if_true]
    exact ⟨_, _, fun _ => rfl, fun _ => rfl⟩

theorem mismatch_agrees {α : Type} {front rest : List Char} {t : Sketch} (expected : Expected)
    (begins : Front limit inner front t rest) :
    Agrees rest (mismatch limit expected front : Except Fault (α × List Char))
      (t.refuse expected) := by
  obtain ⟨c, behind, fails, refuses⟩ := mismatch_cause expected begins
  rw [fails, refuses]
  exact ⟨behind, rfl⟩

/-! One lemma for each shape without parts -/

section Leaves

variable {cs rest : List Char} {t : Sketch}

theorem readText_agrees (begins : Front limit inner (skipSpace cs) t rest)
    (within : cs.length ≤ limit) : Agrees rest (readText limit cs) t.toText := by
  have bound := length_skipSpace cs
  have otherwise := mismatch_agrees (α := String) .text begins
  unfold readText
  generalize skipSpace cs = front at begins bound otherwise ⊢
  cases begins with
  | text r _ quoted =>
    rw [List.length_cons] at bound
    exact textTail_agrees quoted (by omega)
  | number c r _ starts digits =>
    split
    · rename_i same
      exact absurd (List.cons.inj same).1 (ne_of_starts_number starts rfl)
    · exact otherwise
  | null _ _ _ | yes _ _ _ | no _ _ _ | array _ _ _ _ | object _ _ _ _ => exact otherwise

theorem readFlag_agrees (begins : Front limit inner (skipSpace cs) t rest) :
    Agrees rest (readFlag limit cs) t.toFlag := by
  have otherwise := mismatch_agrees (α := Bool) .flag begins
  unfold readFlag
  generalize skipSpace cs = front at begins otherwise ⊢
  cases begins with
  | yes r _ letters | no r _ letters =>
    simp only [letters]
    rfl
  | number c r _ starts digits =>
    split
    · rename_i same
      exact absurd (List.cons.inj same).1 (ne_of_starts_number starts rfl)
    · rename_i same
      exact absurd (List.cons.inj same).1 (ne_of_starts_number starts rfl)
    · exact otherwise
  | null _ _ _ | text _ _ _ | array _ _ _ _ | object _ _ _ _ => exact otherwise

theorem readCount_agrees (begins : Front limit inner (skipSpace cs) t rest) :
    Agrees rest (readCount limit cs) t.toCount := by
  have otherwise := mismatch_agrees (α := Fin UInt64.size) .count begins
  unfold readCount
  generalize skipSpace cs = front at begins otherwise ⊢
  cases begins with
  | number c r _ starts digits =>
    have numeric : startsNumber (c :: r) = true := starts
    simp only [numeric, if_true]
    have agrees := number_agrees digits
    cases read : number (c :: r) with
    | error f => exact ⟨f.behind, rfl⟩
    | ok found =>
      obtain ⟨n, r'⟩ := found
      rw [read] at agrees
      have left : r' = rest := congrArg Prod.snd (Except.ok.inj agrees)
      subst left
      cases n with
      | integer n =>
        simp only [reading, Sketch.toCount, bind, Except.bind]
        cases wordOf? n with
        | none => exact agrees_here _ _
        | some word => rfl
      | real x => exact agrees_here _ _
  | null _ _ _ | yes _ _ _ | no _ _ _ | text _ _ _ | array _ _ _ _ | object _ _ _ _ =>
    exact otherwise

theorem readReal_agrees (begins : Front limit inner (skipSpace cs) t rest) :
    Agrees rest (readReal limit cs) t.toReal := by
  have otherwise := mismatch_agrees (α := Binary64) .real begins
  unfold readReal
  generalize skipSpace cs = front at begins otherwise ⊢
  cases begins with
  | number c r _ starts digits =>
    have numeric : startsNumber (c :: r) = true := starts
    simp only [numeric, if_true]
    exact (number_agrees digits).map Number.toReal
  | null _ _ _ | yes _ _ _ | no _ _ _ | text _ _ _ | array _ _ _ _ | object _ _ _ _ =>
    exact otherwise

theorem readUnit_cases (begins : Front limit inner (skipSpace cs) t rest) :
    (readUnit limit cs = .ok rest ∧ t = .null) ∨
      ∃ c behind, readUnit limit cs = .error ⟨c, behind⟩ ∧ t.toUnit = .error c := by
  obtain ⟨c, behind, fails, refuses⟩ := mismatch_cause .unit begins
  have otherwise := And.intro (fails (List Char)) (refuses Unit)
  unfold readUnit
  generalize skipSpace cs = front at begins otherwise ⊢
  cases begins with
  | null r _ letters => exact .inl ⟨letters, rfl⟩
  | number d r _ starts digits =>
    split
    · rename_i same
      exact absurd (List.cons.inj same).1 (ne_of_starts_number starts rfl)
    · exact .inr ⟨c, behind, otherwise⟩
  | yes _ _ _ | no _ _ _ | text _ _ _ | array _ _ _ _ | object _ _ _ _ =>
    exact .inr ⟨c, behind, otherwise⟩

theorem findTag_cases (tags : List String) (tag : String) (r : List Char) :
    (∃ i, findTag tags tag r = .ok i ∧ tagIndex tags tag = .ok i) ∨
      ∃ c behind, findTag tags tag r = .error ⟨c, behind⟩ ∧ tagIndex tags tag = .error c := by
  unfold findTag tagIndex
  cases tags.findFinIdx? (· == tag) with
  | none => exact .inr ⟨_, _, rfl, rfl⟩
  | some i => exact .inl ⟨i, rfl, rfl⟩

/-- A tag that is written as an object with one member, up to the closing brace. -/
private theorem tagObject_agrees (tags : List String) {r : List Char}
    {ms : List (Except Cause String × Sketch)}
    (fronts : ∀ cs t rest, inner cs t rest → ∃ further, Front limit further (skipSpace cs) t rest)
    (members : Members limit inner true r ms rest) (front : skipSpace cs = '{' :: r)
    (within : r.length ≤ limit) :
    Agrees rest (readTag limit tags cs) (Sketch.toTag tags (.object ms)) := by
  unfold readTag
  simp only [front]
  cases members with
  | stop _ _ _ closed =>
    simp only [nextKey_stop closed]
    exact agrees_past _ _
  | more _ _ t ms q r₁ r₂ r₃ _ next key separator value others =>
    have quote := nextKey_more next
    have shorter := nextKey_more_length next
    simp only [if_true] at quote
    simp only [quote, Sketch.toTag]
    refine (textTail_agrees key (by omega)).bind fun tag => ?_
    dsimp only
    rcases findTag_cases tags tag r₁ with ⟨i, found, index⟩ | ⟨c, behind, found, index⟩
    · rw [found, index]
      simp only [bind, Except.bind, separator]
      obtain ⟨further, begins⟩ := fronts r₂ t r₃ value
      rcases readUnit_cases begins with ⟨unit, rfl⟩ | ⟨c, behind, unit, refused⟩
      · simp only [unit, Sketch.toUnit]
        cases others with
        | stop _ _ _ closed =>
          simp only [nextKey_stop closed]
          rfl
        | more _ _ t' ms' q' _ _ _ _ next' _ _ _ _ =>
          obtain ⟨q'', comma, -⟩ := nextKey_more next'
          simp only [comma]
          exact agrees_here _ _
      · simp only [unit, refused]
        exact ⟨behind, rfl⟩
    · rw [found, index]
      exact ⟨behind, rfl⟩

theorem readTag_agrees (tags : List String)
    (fronts : ∀ cs t rest, inner cs t rest → ∃ further, Front limit further (skipSpace cs) t rest)
    (begins : Front limit inner (skipSpace cs) t rest) (within : cs.length ≤ limit) :
    Agrees rest (readTag limit tags cs) (t.toTag tags) := by
  have bound := length_skipSpace cs
  generalize same : skipSpace cs = front at begins bound
  cases begins with
  | text r _ quoted =>
    rw [List.length_cons] at bound
    unfold readTag
    simp only [same, Sketch.toTag]
    refine (textTail_agrees quoted (by omega)).bind fun tag => ?_
    dsimp only
    rcases findTag_cases tags tag rest with ⟨i, found, index⟩ | ⟨c, behind, found, index⟩
    · rw [found, index]
      rfl
    · rw [found, index]
      exact ⟨behind, rfl⟩
  | object r ms _ members =>
    rw [List.length_cons] at bound
    exact tagObject_agrees tags fronts members same (by omega)
  | number c r _ starts digits =>
    unfold readTag
    rw [same]
    split
    · rename_i empty
      cases empty
    · rename_i quote
      exact absurd (List.cons.inj quote).1 (ne_of_starts_number starts rfl)
    · rename_i brace
      exact absurd (List.cons.inj brace).1 (ne_of_starts_number starts rfl)
    · exact agrees_past _ _
  | null _ _ _ | yes _ _ _ | no _ _ _ | array _ _ _ _ =>
    unfold readTag
    rw [same]
    exact agrees_past _ _

end Leaves

/-! The loops over items and members -/

theorem items_agree {α : Type} {item : Reader α} {interpret : Sketch → Except Cause α}
    (lawful : Lawful inner)
    (agrees : ∀ cs t rest, cs.length ≤ limit → inner cs t rest →
      Agrees rest (item cs) (interpret t))
    {first : Bool} {cs rest : List Char} {ts : List Sketch}
    (spelled : Items inner first cs ts rest) (within : cs.length ≤ limit) (n : Nat)
    (enough : cs.length < n) (seen : List α) (begun : seen.isEmpty = first) :
    Agrees rest (items item n seen cs) ((ts.mapM interpret).map (seen.reverse ++ ·)) := by
  induction spelled generalizing n seen with
  | stop first cs rest closed =>
    obtain ⟨n, rfl⟩ : ∃ k, n = k + 1 := ⟨n - 1, by omega⟩
    simp only [items, begun, closed, List.mapM_nil]
    change _ = Except.ok (seen.reverse ++ [], rest)
    rw [List.append_nil]
  | more first cs t ts r r' rest next begins others ih =>
    obtain ⟨n, rfl⟩ : ∃ k, n = k + 1 := ⟨n - 1, by omega⟩
    have before := nextItem_more_length next
    have behind := lawful.shorter begins
    have read := agrees r t r' (by omega) begins
    simp only [items, begun, next, List.mapM_cons]
    cases interpreted : interpret t with
    | error c =>
      rw [interpreted] at read
      obtain ⟨place, failed⟩ := read
      exact ⟨place, by rw [failed]⟩
    | ok x =>
      rw [interpreted] at read
      have same : item r = .ok (x, r') := read
      have later := ih (by omega) n (by omega) (x :: seen) rfl
      rw [same]
      dsimp only
      rw [show (seen.reverse ++ ·) = fun xs => seen.reverse ++ xs from rfl]
      cases rest : ts.mapM interpret with
      | error c =>
        rw [rest] at later
        exact later
      | ok xs =>
        rw [rest] at later
        simpa [bind, Except.bind, pure, Except.pure, Except.map] using later

theorem members_agree {σ : Type} {member : String → σ → Reader σ}
    {take : String → σ → Sketch → Except Cause σ} (lawful : Lawful inner)
    (agrees : ∀ key g cs r t rest, r.length ≤ limit → colon cs = .ok r → inner r t rest →
      Agrees rest (member key g cs) (take key g t))
    {first : Bool} {cs rest : List Char} {ms : List (Except Cause String × Sketch)}
    (spelled : Members limit inner first cs ms rest) (within : cs.length ≤ limit) (n : Nat)
    (enough : cs.length < n) (g : σ) :
    Agrees rest (members limit member n first g cs) (gather take g ms) := by
  induction spelled generalizing n g with
  | stop first cs rest closed =>
    obtain ⟨n, rfl⟩ : ∃ k, n = k + 1 := ⟨n - 1, by omega⟩
    simp only [members, closed]
    rfl
  | more first cs t ms r r₁ r₂ r₃ rest next key separator value others ih =>
    obtain ⟨n, rfl⟩ : ∃ k, n = k + 1 := ⟨n - 1, by omega⟩
    have before := nextKey_more_length next
    have behindKey := skimText_length _ r r₁ key
    have behindColon := colon_length r₁ r₂ separator
    have behind := lawful.shorter value
    have named := textTail_agrees key (by omega)
    simp only [members, next, gather]
    cases name : reading (textTail limit r) with
    | error c =>
      rw [name] at named
      obtain ⟨place, failed⟩ := named
      exact ⟨place, by rw [failed]⟩
    | ok name' =>
      rw [name] at named
      have same : textTail limit r = .ok (name', r₁) := named
      have read := agrees name' g r₁ r₂ t r₃ (by omega) separator value
      rw [same]
      simp only [bind, Except.bind]
      cases taken : take name' g t with
      | error c =>
        rw [taken] at read
        obtain ⟨place, failed⟩ := read
        exact ⟨place, by rw [failed]⟩
      | ok g' =>
        rw [taken] at read
        have same : member name' g r₁ = .ok (g', r₃) := read
        rw [same]
        exact ih (by omega) n (by omega) g'

/-! The reader of a shape agrees with the interpretation by it -/

theorem sketched_front {depth : Nat} {cs rest : List Char} {t : Sketch}
    (begins : Sketched limit depth cs t rest) :
    ∃ shallower, Front limit (Sketched limit shallower) (skipSpace cs) t rest := by
  cases depth with
  | zero => exact begins.elim
  | succ depth => exact ⟨depth, begins⟩

theorem repeated_agrees {α : Type} (key : String) (cs rest : List Char) :
    Agrees rest (repeated key cs : Except Fault (α × List Char)) (.error (.repeatedMember key)) := by
  unfold repeated
  split <;> exact agrees_here _ _

/-- Behind the last field of a record that is written as a list, nothing but the bracket may stand. -/
theorem closeList_agrees (lawful : Lawful inner) {first : Bool} {cs rest : List Char}
    {ts : List Sketch} (spelled : Items inner first cs ts rest) :
    Agrees rest (do return ((), ← closeList cs))
      (if ts.isEmpty then .ok () else .error .trailingText) := by
  unfold closeList
  cases spelled with
  | stop _ _ _ closed =>
    rw [nextItem_stop closed]
    rfl
  | more _ _ t ts r r' _ next item others =>
    obtain ⟨⟨c, q, rfl, bracket, solid⟩, front⟩ := nextItem_more next
    split at front
    · obtain ⟨d, q', same, -, comma⟩ := lawful.opens item
      rw [skipSpace_cons solid] at same
      obtain ⟨rfl, rfl⟩ := List.cons.inj same
      rw [front]
      split
      · rename_i empty
        cases empty
      · rename_i closed
        exact absurd (List.cons.inj closed).1 bracket
      · rename_i separated
        exact absurd (List.cons.inj separated).1 comma
      · exact ⟨_, rfl⟩
    · obtain ⟨q', separated, behind⟩ := front
      simp only [separated, behind]
      split
      · rename_i closed
        exact absurd (List.cons.inj closed).1 bracket
      · exact ⟨_, rfl⟩

mutual

theorem Shape.read_agrees (s : Shape) {depth : Nat} {cs rest : List Char} {t : Sketch}
    (begins : Sketched limit depth cs t rest) (within : cs.length ≤ limit) :
    Agrees rest (s.read limit cs) (s.interpret t) := by
  obtain ⟨shallower, front⟩ := sketched_front begins
  have lawful := sketched_lawful limit shallower
  have bound := length_skipSpace cs
  cases s with
  | text =>
    simp only [Shape.read, Shape.interpret]
    exact readText_agrees front within
  | flag =>
    simp only [Shape.read, Shape.interpret]
    exact readFlag_agrees front
  | count =>
    simp only [Shape.read, Shape.interpret]
    exact readCount_agrees front
  | real =>
    simp only [Shape.read, Shape.interpret]
    exact readReal_agrees front
  | choice tags =>
    simp only [Shape.read, Shape.interpret]
    refine readTag_agrees tags ?_ front within
    intro cs t rest begins
    obtain ⟨depth, front⟩ := sketched_front begins
    exact ⟨_, front⟩
  | optional item =>
    have read := Shape.read_agrees item ((sketched_skips _ _ _ _ _).mpr begins) (by omega)
    simp only [Shape.read, Shape.interpret]
    generalize skipSpace cs = c at front read
    cases front with
    | null r _ letters =>
      simp only [letters, bind, Except.bind]
      rfl
    | number c r _ starts digits =>
      split
      · rename_i same
        exact absurd (List.cons.inj same).1 (ne_of_starts_number starts rfl)
      · exact read.map some
    | yes _ _ _ | no _ _ _ | text _ _ _ | array _ _ _ _ | object _ _ _ _ =>
      exact read.map some
  | list item =>
    have otherwise := mismatch_agrees (α := List item.Content) .sequence front
    simp only [Shape.read, Shape.interpret]
    generalize skipSpace cs = c at front bound otherwise
    cases front with
    | array r ts _ spelled =>
      rw [List.length_cons] at bound
      have read := items_agree lawful
        (fun cs t rest within begins => Shape.read_agrees item begins within)
        spelled (by omega) (limit + 1) (by omega) [] rfl
      have same : (ts.mapM item.interpret).map (([] : List item.Content).reverse ++ ·) =
          ts.mapM item.interpret := by
        cases ts.mapM item.interpret <;> rfl
      rw [same] at read
      exact read
    | number c r _ starts digits =>
      split
      · rename_i same
        exact absurd (List.cons.inj same).1 (ne_of_starts_number starts rfl)
      · exact otherwise
    | null _ _ _ | yes _ _ _ | no _ _ _ | text _ _ _ | object _ _ _ _ => exact otherwise
  | record name fields =>
    have otherwise := mismatch_agrees (α := fields.Content) (.record name) front
    simp only [Shape.read, Shape.interpret]
    generalize skipSpace cs = c at front bound otherwise
    cases front with
    | object r ms _ spelled =>
      rw [List.length_cons] at bound
      have read := members_agree lawful
        (fun key g cs r t rest within separator begins =>
          Fields.readMember_agrees fields key g within separator begins)
        spelled (by omega) (limit + 1) (by omega) fields.emptyDraft
      refine read.bind fun draft => ?_
      dsimp only
      cases fields.complete draft with
      | ok x => rfl
      | error key => exact agrees_here _ _
    | array r ts _ spelled =>
      rw [List.length_cons] at bound
      exact Fields.readList_agrees fields name fields.size 0 spelled (by omega)
    | number c r _ starts digits =>
      split
      · rename_i same
        exact absurd (List.cons.inj same).1 (ne_of_starts_number starts rfl)
      · rename_i same
        exact absurd (List.cons.inj same).1 (ne_of_starts_number starts rfl)
      · exact otherwise
    | null _ _ _ | yes _ _ _ | no _ _ _ | text _ _ _ => exact otherwise

theorem Fields.readMember_agrees (fs : Fields) (k : String) (draft : fs.Draft) {depth : Nat}
    {cs r rest : List Char} {t : Sketch} (within : r.length ≤ limit) (separator : colon cs = .ok r)
    (begins : Sketched limit depth r t rest) :
    Agrees rest (fs.readMember limit k draft cs) (fs.interpretMember k draft t) := by
  cases fs with
  | nil =>
    have deep := sketched_deepen limit depth (limit + 1) r rest t begins (by omega)
    have skimmed := skimValue_of_sketched (limit + 1) r rest t deep within
    simp only [Fields.readMember, Fields.interpretMember, separator, skimmed, bind, Except.bind]
    rfl
  | cons key presence shape more =>
    obtain ⟨slot, draft⟩ := draft
    simp only [Fields.readMember, Fields.interpretMember]
    split
    · cases slot with
      | some x => exact repeated_agrees key cs rest
      | none =>
        simp only [separator, bind, Except.bind]
        exact (Shape.read_agrees shape begins within).bind fun x => rfl
    · exact (Fields.readMember_agrees more k draft within separator begins).bind fun x => rfl

theorem Fields.readList_agrees (fs : Fields) (name : String) (size seen : Nat) {depth : Nat}
    {cs rest : List Char} {ts : List Sketch}
    (spelled : Items (Sketched limit depth) (seen == 0) cs ts rest) (within : cs.length ≤ limit) :
    Agrees rest (fs.readList limit name size seen cs) (fs.interpretItems name size seen ts) := by
  have lawful := sketched_lawful limit depth
  cases fs with
  | nil =>
    simp only [Fields.readList, Fields.interpretItems]
    exact closeList_agrees lawful spelled
  | cons key presence shape more =>
    simp only [Fields.readList, Fields.interpretItems]
    cases spelled with
    | stop _ _ _ closed =>
      simp only [closed, bind, Except.bind]
      cases (Fields.cons key presence shape more).allAbsent? with
      | none => exact agrees_here _ _
      | some x => rfl
    | more _ _ t ts r r' _ next item others =>
      have before := nextItem_more_length next
      have behind := lawful.shorter item
      simp only [next, bind, Except.bind]
      refine (Shape.read_agrees shape item (by omega)).bind fun x => ?_
      refine (Fields.readList_agrees more name size (seen + 1) others (by omega)).bind fun y => ?_
      rfl

end

/-- Decoding a document is interpreting the value that it spells, up to the place of a fault. -/
theorem decode_interprets (s : Shape) {text : String} {t : Sketch} (spelled : Spells text t) :
    (s.decode text).mapError Fault.cause = s.interpret t := by
  obtain ⟨depth, rest, begins, ended⟩ := spelled
  have agrees := Shape.read_agrees s begins (le_refl _)
  unfold Shape.decode
  cases interpreted : s.interpret t with
  | ok x =>
    rw [interpreted] at agrees
    have read : s.read text.toList.length text.toList = .ok (x, rest) := agrees
    simp only [read, bind, Except.bind, finished, ended]
    rfl
  | error c =>
    rw [interpreted] at agrees
    obtain ⟨place, failed⟩ := agrees
    simp only [failed, bind, Except.bind]
    rfl

end Retrofit.Json
