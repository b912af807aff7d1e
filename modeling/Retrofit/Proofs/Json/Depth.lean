import Retrofit.Proofs.Json.Agreement
import Retrofit.Proofs.Json.Real

/-! How deep a document may nest to be read without a schema. Up to that depth the value that it spells is
read from it, and whatever is deeper is not read at all. -/
namespace Retrofit.Json

mutual

/-- How many lists and objects stand around one another at most. -/
def Value.depth : Value → Nat
  | .null | .bool _ | .number _ | .text _ => 0
  | .array vs => depthItems vs + 1
  | .object ms => depthMembers ms + 1

def depthItems : List Value → Nat
  | [] => 0
  | v :: vs => max v.depth (depthItems vs)

def depthMembers : List (String × Value) → Nat
  | [] => 0
  | (_, v) :: ms => max v.depth (depthMembers ms)

end

theorem depthMembers_le_iff {ms : List (String × Value)} {n : Nat} :
    depthMembers ms ≤ n ↔ ∀ m ∈ ms, m.2.depth ≤ n := by
  induction ms with
  | nil => simp [depthMembers]
  | cons m ms ih => rw [depthMembers, Nat.max_le, ih, List.forall_mem_cons]

mutual

/-- Numbers make no difference to the depth. -/
theorem depth_reread : (v : Value) → v.reread.depth = v.depth
  | .null | .bool _ | .number _ | .text _ => rfl
  | .array vs => congrArg (· + 1) (depthItems_reread vs)
  | .object ms => congrArg (· + 1) (depthMembers_reread ms)

theorem depthItems_reread : (vs : List Value) → depthItems (rereadItems vs) = depthItems vs
  | [] => rfl
  | v :: vs => congrArg₂ max (depth_reread v) (depthItems_reread vs)

theorem depthMembers_reread : (ms : List (String × Value)) →
    depthMembers (rereadMembers ms) = depthMembers ms
  | [] => rfl
  | (_, v) :: ms => congrArg₂ max (depth_reread v) (depthMembers_reread ms)

end

/-- Puts a member, of which the value is held by `hold`, in front of those before it. -/
def keepMember (hold : Sketch → Except Cause Value) (key : String) (seen : List (String × Value))
    (t : Sketch) : Except Cause (List (String × Value)) :=
  (hold t).map fun v => (key, v) :: seen

/-- The value as it is held in memory, with so many levels of lists and objects, or the first thing about
it that cannot be held. -/
def Sketch.hold (depth : Nat) (t : Sketch) : Except Cause Value :=
  match t with
  | .null => .ok .null
  | .bool b => .ok (.bool b)
  | .number n => n.map .number
  | .text s => s.map .text
  | .array ts =>
    match depth with
    | 0 => .error .tooDeep
    | depth + 1 => (ts.mapM (Sketch.hold depth)).map .array
  | .object ms =>
    match depth with
    | 0 => .error .tooDeep
    | depth + 1 =>
      (gather (keepMember (Sketch.hold depth)) [] ms).map fun seen => .object seen.reverse

section Reading

variable {limit : Nat} {inner : Spelling} {cs rest : List Char} {t : Sketch}

/-- What reads the values inside lists and objects, if there may be any at so many levels. -/
inductive Inside (limit : Nat) (inner : Spelling) : Option (Reader Value) → Nat → Prop
  | nothing : Inside limit inner none 0
  | values (item : Reader Value) (depth : Nat)
      (agrees : ∀ cs t rest, cs.length ≤ limit → inner cs t rest →
        Agrees rest (item cs) (t.hold depth)) :
      Inside limit inner (some item) (depth + 1)

theorem array_agrees {item : Reader Value} {depth : Nat} (lawful : Lawful inner)
    (agrees : ∀ cs t rest, cs.length ≤ limit → inner cs t rest → Agrees rest (item cs) (t.hold depth))
    {ts : List Sketch} (spelled : Items inner true cs ts rest) (within : cs.length ≤ limit) :
    Agrees rest (items item (limit + 1) [] cs >>= fun (vs, r) => pure (.array vs, r))
      ((Sketch.array ts).hold (depth + 1)) := by
  have read := items_agree lawful agrees spelled within (limit + 1) (by omega) [] rfl
  have same : (ts.mapM (Sketch.hold depth)).map (([] : List Value).reverse ++ ·) =
      ts.mapM (Sketch.hold depth) := by
    cases ts.mapM (Sketch.hold depth) <;> rfl
  rw [same] at read
  exact read.map Value.array

/-- The members of an object are read as `member` says, and given back in their order. -/
theorem object_agrees {item : Reader Value} {depth : Nat} (lawful : Lawful inner)
    (agrees : ∀ cs t rest, cs.length ≤ limit → inner cs t rest → Agrees rest (item cs) (t.hold depth))
    {member : String → List (String × Value) → Reader (List (String × Value))}
    (reads : ∀ key seen cs, member key seen cs = (do
      let (v, r) ← item (← colon cs)
      return ((key, v) :: seen, r)))
    {ms : List (Except Cause String × Sketch)} (spelled : Members limit inner true cs ms rest)
    (within : cs.length ≤ limit) :
    Agrees rest
      (members limit member (limit + 1) true [] cs >>= fun (ms, r) => pure (.object ms.reverse, r))
      ((Sketch.object ms).hold (depth + 1)) := by
  have each (key : String) (seen : List (String × Value)) (cs r : List Char) (t : Sketch)
      (rest : List Char) (within : r.length ≤ limit) (separator : colon cs = .ok r)
      (begins : inner r t rest) :
      Agrees rest (member key seen cs) (keepMember (Sketch.hold depth) key seen t) := by
    simp only [reads, separator, bind, Except.bind]
    exact (agrees r t rest within begins).map fun v => (key, v) :: seen
  have read := members_agree lawful each spelled within (limit + 1) (by omega) []
  exact read.map fun seen => Value.object seen.reverse

theorem wordValue_read {letters r : List Char} (v : Value) (spelled : word letters r = .ok rest) :
    wordValue letters v r = .ok (v, rest) := by
  rw [wordValue, spelled]

/-- One level of a value. -/
theorem valueAround_agrees {read : Option (Reader Value)} {depth : Nat} (lawful : Lawful inner)
    (inside : Inside limit inner read depth) (front : Front limit inner (skipSpace cs) t rest)
    (within : cs.length ≤ limit) : Agrees rest (valueAround limit read cs) (t.hold depth) := by
  have bound := length_skipSpace cs
  unfold valueAround
  generalize skipSpace cs = c at front bound
  cases front with
  | null r _ letters | yes r _ letters | no r _ letters =>
    simp only [Sketch.hold]
    exact wordValue_read _ letters
  | number c r _ starts digits =>
    have n : c ≠ 'n' := ne_of_starts_number starts rfl
    have t : c ≠ 't' := ne_of_starts_number starts rfl
    have f : c ≠ 'f' := ne_of_starts_number starts rfl
    have numeric : (decide (c = '-') || c.isDigit) = true := starts
    simp only [n, t, f, numeric, if_false, if_true, Sketch.hold]
    exact (number_agrees digits).map Value.number
  | text r _ quoted =>
    rw [List.length_cons] at bound
    simp only [Sketch.hold]
    exact (textTail_agrees quoted (by omega)).map Value.text
  | array r ts _ spelled =>
    rw [List.length_cons] at bound
    cases inside with
    | nothing => exact agrees_past _ _
    | values item depth agrees => exact array_agrees lawful agrees spelled (by omega)
  | object r ms _ spelled =>
    rw [List.length_cons] at bound
    cases inside with
    | nothing => exact agrees_past _ _
    | values item depth agrees =>
      exact object_agrees lawful agrees (fun _ _ _ => rfl) spelled (by omega)

theorem valueWithin_agrees (depth : Nat) {levels : Nat} (begins : Sketched limit levels cs t rest)
    (within : cs.length ≤ limit) : Agrees rest (valueWithin limit depth cs) (t.hold depth) := by
  induction depth generalizing levels cs t rest with
  | zero =>
    obtain ⟨shallower, front⟩ := sketched_front begins
    exact valueAround_agrees (sketched_lawful limit shallower) .nothing front within
  | succ depth ih =>
    obtain ⟨shallower, front⟩ := sketched_front begins
    refine valueAround_agrees (sketched_lawful limit shallower) (.values _ depth ?_) front within
    intro cs t rest within begins
    exact ih begins within

end Reading

/-- Reading a document is holding the value that it spells, up to the place of a fault. -/
theorem parse_holds {text : String} {t : Sketch} (spelled : Spells text t) :
    (parse text).mapError Fault.cause = t.hold deepest := by
  obtain ⟨levels, rest, begins, ended⟩ := spelled
  have agrees := valueWithin_agrees deepest begins (le_refl _)
  unfold parse
  cases held : t.hold deepest with
  | ok v =>
    rw [held] at agrees
    have read : valueWithin text.toList.length deepest text.toList = .ok (v, rest) := agrees
    simp only [read, bind, Except.bind, finished, ended]
    rfl
  | error c =>
    rw [held] at agrees
    obtain ⟨place, failed⟩ := agrees
    simp only [failed, bind, Except.bind]
    rfl

/-! A value that comes from memory can be held again if there are levels enough for it -/

mutual

theorem hold_sketch (depth : Nat) : (v : Value) →
    v.sketch.hold depth = if v.depth ≤ depth then .ok v else .error .tooDeep
  | .null | .bool _ | .number _ | .text _ => by
    simp only [Value.sketch, Value.depth, Nat.zero_le, if_true]
    cases depth <;> rfl
  | .array vs => by
    cases depth with
    | zero => rfl
    | succ depth =>
      simp only [Value.sketch, Value.depth, Sketch.hold, hold_items depth vs, Nat.add_le_add_iff_right]
      split <;> rfl
  | .object ms => by
    cases depth with
    | zero => rfl
    | succ depth =>
      simp only [Value.sketch, Value.depth, Sketch.hold, hold_members depth [] ms,
        Nat.add_le_add_iff_right]
      split
      · simp [Except.map]
      · rfl

theorem hold_items (depth : Nat) : (vs : List Value) →
    (sketchItems vs).mapM (Sketch.hold depth) =
      if depthItems vs ≤ depth then .ok vs else .error .tooDeep
  | [] => rfl
  | v :: vs => by
    simp only [sketchItems, depthItems, List.mapM_cons, hold_sketch depth v, hold_items depth vs,
      Nat.max_le]
    by_cases first : v.depth ≤ depth
    · by_cases others : depthItems vs ≤ depth
      · simp [first, others, bind, Except.bind, pure, Except.pure]
      · simp [first, others, bind, Except.bind]
    · simp [first, bind, Except.bind]

theorem hold_members (depth : Nat) (seen : List (String × Value)) : (ms : List (String × Value)) →
    gather (keepMember (Sketch.hold depth)) seen (sketchMembers ms) =
      if depthMembers ms ≤ depth then .ok (ms.reverse ++ seen) else .error .tooDeep
  | [] => rfl
  | (k, v) :: ms => by
    simp only [sketchMembers, depthMembers, gather, keepMember, hold_sketch depth v, Nat.max_le, bind,
      Except.bind]
    by_cases first : v.depth ≤ depth
    · have others := hold_members depth ((k, v) :: seen) ms
      simp only [first, if_true, Except.map, true_and, others, List.reverse_cons, List.append_assoc,
        List.singleton_append]
    · simp [first, Except.map]

end

section Limit

variable {text : String} {v : Value}

/-- A document that spells a value is read as that value, unless it nests too deep. -/
theorem parse_of_spells (spelled : Spells text v.sketch) (shallow : v.depth ≤ deepest) :
    parse text = .ok v := by
  have held := parse_holds spelled
  rw [hold_sketch, if_pos shallow] at held
  cases parsed : parse text with
  | ok w =>
    rw [parsed] at held
    exact congrArg Except.ok (Except.ok.inj held)
  | error f =>
    rw [parsed] at held
    cases held

theorem parse_of_deep (spelled : Spells text v.sketch) (deep : deepest < v.depth) :
    ∃ behind, parse text = .error ⟨.tooDeep, behind⟩ := by
  have held := parse_holds spelled
  rw [hold_sketch, if_neg (Nat.not_le_of_lt deep)] at held
  cases parsed : parse text with
  | ok w =>
    rw [parsed] at held
    cases held
  | error f =>
    rw [parsed] at held
    cases f with
    | mk cause behind =>
      cases Except.error.inj held
      exact ⟨behind, rfl⟩

end Limit

/-! What is printed -/

theorem compactMembers_closed (ms : List (String × Value)) :
    ∃ inner, compactMembers ms = inner ++ ['}'] := by
  induction ms with
  | nil => exact ⟨[], rfl⟩
  | cons m ms ih =>
    obtain ⟨inner, closed⟩ := ih
    rw [compactMembers, closed, ← List.append_assoc]
    exact ⟨_, rfl⟩

theorem prettyMembers_closed (depth : Nat) (ms : List (String × Value)) :
    ∃ inner, prettyMembers depth ms = inner ++ ['}'] := by
  induction ms with
  | nil => exact ⟨_, rfl⟩
  | cons m ms ih =>
    obtain ⟨inner, closed⟩ := ih
    rw [prettyMembers, closed, ← List.append_assoc]
    exact ⟨_, rfl⟩

theorem compact_enclosed (ms : List (String × Value)) :
    ∃ inner, (compact (.object ms)).toList = '{' :: (inner ++ ['}']) := by
  rw [compact, String.toList_ofList]
  cases ms with
  | nil => exact ⟨[], rfl⟩
  | cons m ms =>
    obtain ⟨inner, closed⟩ := compactMembers_closed ms
    rw [compactValue, closed, List.cons_append, List.cons_append, ← List.append_assoc]
    exact ⟨_, rfl⟩

theorem pretty_enclosed (ms : List (String × Value)) :
    ∃ inner, (pretty (.object ms)).toList = '{' :: (inner ++ ['}']) := by
  rw [pretty, String.toList_ofList]
  cases ms with
  | nil => exact ⟨[], rfl⟩
  | cons m ms =>
    obtain ⟨inner, closed⟩ := prettyMembers_closed 0 ms
    rw [prettyValue, closed, ← List.append_assoc]
    exact ⟨_, rfl⟩

/-- The text is what is written for the value, in one line or with indentation. -/
inductive Printed (v : Value) : String → Prop
  | compact : Printed v (compact v)
  | pretty : Printed v (pretty v)

theorem Printed.enclosed {ms : List (String × Value)} {text : String}
    (printed : Printed (.object ms) text) : ∃ inner, text.toList = '{' :: (inner ++ ['}']) := by
  cases printed with
  | compact => exact compact_enclosed ms
  | pretty => exact pretty_enclosed ms

theorem Printed.respells {v : Value} {text : String} (printed : Printed v text)
    (held : ∀ n ∈ v.numbers, n.Held) : Spells text v.reread.sketch := by
  have readable : v.Readable := fun n member => (held n member).readable
  cases printed with
  | compact => exact compact_respells v readable
  | pretty => exact pretty_respells v readable

section Printed

variable {text : String} {v : Value}

/-- A printed value is read with its numbers as they are read again, unless it nests too deep. -/
theorem Printed.parsed (printed : Printed v text) (held : ∀ n ∈ v.numbers, n.Held)
    (shallow : v.depth ≤ deepest) : parse text = .ok v.reread := by
  rw [← depth_reread] at shallow
  exact parse_of_spells (printed.respells held) shallow

theorem Printed.too_deep (printed : Printed v text) (held : ∀ n ∈ v.numbers, n.Held)
    (deep : deepest < v.depth) : ∃ behind, parse text = .error ⟨.tooDeep, behind⟩ := by
  rw [← depth_reread] at deep
  exact parse_of_deep (printed.respells held) deep

end Printed

end Retrofit.Json
