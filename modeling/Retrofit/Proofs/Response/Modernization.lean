import Mathlib.Data.List.Nodup
import Retrofit.Proofs.Json.Depth
import Retrofit.Proofs.Response.Fence
import Retrofit.Proofs.Run.Attribution

/-! The response of a modernization: what each response is read as, and that modern code comes back from the
JSON that it is printed in, whatever it looks like. -/
namespace Retrofit

namespace Json

/-- The value is that of the last member with the key. -/
def LastMember (key : String) (ms : List (String × Value)) (v : Value) : Prop :=
  ∃ front behind, ms = front ++ (key, v) :: behind ∧ ∀ m ∈ behind, m.1 ≠ key

section LastMember

variable {key : String} {ms : List (String × Value)} {v : Value}

theorem lastMember?_none_iff : lastMember? key ms = none ↔ ∀ m ∈ ms, m.1 ≠ key := by
  induction ms with
  | nil => simp [lastMember?]
  | cons m ms ih =>
    obtain ⟨k, v⟩ := m
    rw [List.forall_mem_cons, ← ih, lastMember?]
    cases lastMember? key ms <;> simp

theorem lastMember?_append (front ms : List (String × Value)) :
    lastMember? key (front ++ ms) = (lastMember? key ms).or (lastMember? key front) := by
  induction front with
  | nil => simp [lastMember?]
  | cons m front ih =>
    rw [List.cons_append, lastMember?, ih, lastMember?]
    cases lastMember? key ms <;> rfl

theorem lastMember?_some_iff : lastMember? key ms = some v ↔ LastMember key ms v := by
  refine ⟨?_, ?_⟩
  · intro found
    induction ms with
    | nil => cases found
    | cons m ms ih =>
      rw [lastMember?] at found
      cases later : lastMember? key ms with
      | some w =>
        rw [later] at found ih
        obtain ⟨front, behind, split, last⟩ := ih found
        exact ⟨m :: front, behind, by rw [split, List.cons_append], last⟩
      | none =>
        simp only [later] at found
        split at found
        · rename_i same
          cases found
          exact ⟨[], ms, by rw [← same]; rfl, lastMember?_none_iff.mp later⟩
        · cases found
  · rintro ⟨front, behind, rfl, last⟩
    rw [lastMember?_append, lastMember?, lastMember?_none_iff.mpr last]
    simp

/-- In whatever order the members stand, the one member with a key is the last. -/
theorem lastMember?_of_perm {front behind : List (String × Value)} (members : ms.Perm (front ++ behind))
    (distinct : (front.map (·.1)).Nodup) (others : ∀ m ∈ behind, m.1 ∉ front.map (·.1))
    (member : (key, v) ∈ front) : lastMember? key ms = some v := by
  cases found : lastMember? key ms with
  | none =>
    have given : (key, v) ∈ ms := members.mem_iff.mpr (List.mem_append_left _ member)
    exact absurd rfl (lastMember?_none_iff.mp found _ given)
  | some w =>
    obtain ⟨before, after, split, -⟩ := lastMember?_some_iff.mp found
    have given : (key, w) ∈ front ++ behind := by
      rw [← members.mem_iff, split]
      exact List.mem_append_right _ List.mem_cons_self
    rcases List.mem_append.mp given with here | there
    · have same := List.inj_on_of_nodup_map distinct here member rfl
      exact congrArg (fun m => some m.2) same
    · exact absurd (List.mem_map_of_mem (f := (·.1)) member) (others (key, w) there)

end LastMember

end Json

/-- A printed object is given back by whatever holds it, with all the fences in its texts. -/
theorem Response.unfenced_printed {ms : List (String × Json.Value)} {text raw : String}
    (printed : Json.Printed (.object ms) text) (wraps : Wraps text raw) : unfenced raw = text := by
  obtain ⟨inner, enclosed⟩ := printed.enclosed
  refine wraps.unfenced_eq ⟨fun nonempty => ?_, fun nonempty => ?_⟩ ?_
  · simp only [enclosed]
    rfl
  · simp only [enclosed, ← List.cons_append, List.getLast_append_singleton]
    rfl
  · rw [enclosed]
    rintro ⟨rest, front⟩
    exact absurd (List.cons.inj front).1 (by decide)

theorem Response.payload_error_iff {raw : String} :
    (∃ f, Response.payload raw = .error f) ↔ ∀ v, Json.parse (Response.unfenced raw) ≠ .ok v := by
  unfold Response.payload
  dsimp only
  cases parsed : Json.parse (Response.unfenced raw) <;> simp

namespace Modernization

open Json (LastMember lastMember?_some_iff lastMember?_none_iff)

variable {raw : String} {m : Modernization}

theorem ofMembers_ok_iff {ms : List (String × Json.Value)} :
    ofMembers raw ms = .ok m ↔
      ∃ code, Json.lastMember? "modernized_code" ms = some (.text code) ∧
        m = ⟨code, textOr defaultName (Json.lastMember? "filename" ms),
          textOr defaultSummary (Json.lastMember? "changes_summary" ms), true⟩ := by
  unfold ofMembers
  refine ⟨?_, ?_⟩
  · intro ok
    split at ok
    case h_3 code member =>
      cases ok
      exact ⟨code, member, rfl⟩
    all_goals cases ok
  · rintro ⟨code, member, rfl⟩
    rw [member]

theorem ofResponse_ok_iff :
    ofResponse raw = .ok m ↔
      ((∀ v, Json.parse (Response.unfenced raw) ≠ .ok v) ∧ m = unstructured (Response.unfenced raw)) ∨
        ∃ ms, Json.parse (Response.unfenced raw) = .ok (.object ms) ∧ ofMembers raw ms = .ok m := by
  cases parsed : Json.parse (Response.unfenced raw) with
  | error f =>
    have prose : ∀ v, Json.parse (Response.unfenced raw) ≠ .ok v := by simp [parsed]
    rw [ofResponse_of_prose prose]
    simp [eq_comm]
  | ok v =>
    cases v with
    | object ms => simp [ofResponse, parsed]
    | null | bool _ | number _ | text _ | array _ => simp [ofResponse, parsed]

/-- The last member with the key if that is a text, and the default if not. -/
inductive Cosmetic (key default : String) (ms : List (String × Json.Value)) : String → Prop
  | given (s) (text : LastMember key ms (.text s)) : Cosmetic key default ms s
  | absent (none : ∀ s, ¬ LastMember key ms (.text s)) : Cosmetic key default ms default

theorem cosmetic_iff {key default s : String} {ms : List (String × Json.Value)} :
    Cosmetic key default ms s ↔ s = textOr default (Json.lastMember? key ms) := by
  refine ⟨?_, ?_⟩
  · rintro (⟨_, text⟩ | other)
    · rw [lastMember?_some_iff.mpr text]
      rfl
    · unfold textOr
      split
      · rename_i s found
        exact absurd (lastMember?_some_iff.mp found) (other s)
      · rfl
  · rintro rfl
    unfold textOr
    split
    · rename_i s found
      exact .given s (lastMember?_some_iff.mp found)
    · rename_i none
      refine .absent fun s text => ?_
      exact none s (lastMember?_some_iff.mpr text)

theorem wrongKind?_some_iff {v : Json.Value} :
    (∃ found, wrongKind? v = some found) ↔ v ≠ .null ∧ ∀ s, v ≠ .text s := by
  cases v <;> simp [wrongKind?]

theorem structured_iff :
    ofResponse raw = .ok m ∧ m.structured = true ↔
      ∃ ms, Json.parse (Response.unfenced raw) = .ok (.object ms) ∧
        LastMember "modernized_code" ms (.text m.code) ∧
        Cosmetic "filename" defaultName ms m.filename ∧
        Cosmetic "changes_summary" defaultSummary ms m.summary ∧ m.structured = true := by
  rw [ofResponse_ok_iff]
  refine ⟨?_, ?_⟩
  · rintro ⟨⟨-, rfl⟩ | ⟨ms, parsed, made⟩, structured⟩
    · cases structured
    · obtain ⟨code, member, rfl⟩ := ofMembers_ok_iff.mp made
      exact ⟨ms, parsed, lastMember?_some_iff.mp member, cosmetic_iff.mpr rfl, cosmetic_iff.mpr rfl, rfl⟩
  · rintro ⟨ms, parsed, member, filename, summary, structured⟩
    refine ⟨.inr ⟨ms, parsed, ofMembers_ok_iff.mpr ⟨m.code, lastMember?_some_iff.mpr member, ?_⟩⟩, structured⟩
    rw [← cosmetic_iff.mp filename, ← cosmetic_iff.mp summary, ← structured]

theorem unstructured_iff :
    ofResponse raw = .ok m ∧ m.structured = false ↔
      (∃ f, Response.payload raw = .error f) ∧ m = unstructured (Response.unfenced raw) := by
  rw [ofResponse_ok_iff, Response.payload_error_iff]
  refine ⟨?_, ?_⟩
  · rintro ⟨prose | ⟨ms, parsed, made⟩, plain⟩
    · exact prose
    · obtain ⟨code, member, rfl⟩ := ofMembers_ok_iff.mp made
      cases plain
  · rintro ⟨prose, rfl⟩
    exact ⟨.inl ⟨prose, rfl⟩, rfl⟩

/-- The JSON value names no code. -/
inductive Nameless : Json.Value → Prop
  | shapeless (v) (other : ∀ ms, v ≠ .object ms) : Nameless v
  | absent (ms) (absent : ∀ m ∈ ms, m.1 ≠ "modernized_code") : Nameless (.object ms)
  | null (ms) (null : LastMember "modernized_code" ms .null) : Nameless (.object ms)

theorem missing_iff :
    ofResponse raw = .error (.missing "modernized_code") ↔
      ∃ v, Json.parse (Response.unfenced raw) = .ok v ∧ Nameless v := by
  rw [ofResponse_error_iff]
  refine exists_congr fun v => and_congr_right fun _ => ⟨?_, ?_⟩
  · rintro (⟨_, other⟩ | ⟨ms, absent⟩ | ⟨ms, null⟩)
    · exact .shapeless v other
    · exact .absent ms (lastMember?_none_iff.mp absent)
    · exact .null ms (lastMember?_some_iff.mp null)
  · rintro (⟨_, other⟩ | ⟨ms, absent⟩ | ⟨ms, null⟩)
    · exact .shapeless v other
    · exact .absent ms (lastMember?_none_iff.mpr absent)
    · exact .null ms (lastMember?_some_iff.mpr null)

theorem schema_iff {f : Failure} :
    ofResponse raw = .error f ∧ f.kind = "SchemaViolation" ↔
      ∃ ms v found, Json.parse (Response.unfenced raw) = .ok (.object ms) ∧
        LastMember "modernized_code" ms v ∧ wrongKind? v = some found ∧ f = notText found raw := by
  rw [ofResponse_error_iff]
  refine ⟨?_, ?_⟩
  · rintro ⟨⟨v, parsed, codeless⟩, kind⟩
    cases codeless with
    | shapeless _ _ | absent _ _ | null _ _ => exact absurd kind (by decide)
    | mistyped ms v found member wrong =>
      exact ⟨ms, v, found, parsed, lastMember?_some_iff.mp member, wrong, rfl⟩
  · rintro ⟨ms, v, found, parsed, member, wrong, rfl⟩
    exact ⟨⟨_, parsed, .mistyped ms v found (lastMember?_some_iff.mpr member) wrong⟩, rfl⟩

/-- A response is one of four things, and which one is said of its JSON alone. Without a payload it is taken
for the code as it stands. JSON that names no code is missing it, and JSON that gives something else for the
code violates the schema. All other JSON gives the code, and the name and the summary if it has texts for
them. -/
theorem ofResponse_exact (raw : String) :
    let text := Response.unfenced raw
    (∀ m, ofResponse raw = .ok m ∧ m.structured = false ↔
      (∃ f, Response.payload raw = .error f) ∧
        m = ⟨text, "modernized_code.txt", "Modernization completed (no structured response)", false⟩) ∧
    (ofResponse raw = .error (.missing "modernized_code") ↔
      ∃ v, Json.parse text = .ok v ∧ Nameless v) ∧
    (∀ f, ofResponse raw = .error f ∧ f.kind = "SchemaViolation" ↔
      ∃ ms v, Json.parse text = .ok (.object ms) ∧ LastMember "modernized_code" ms v ∧
        (v ≠ .null ∧ ∀ s, v ≠ .text s) ∧ ∃ found, wrongKind? v = some found ∧
          f = .schema ("'modernized_code' must be a string, got " ++ found)
            (String.ofList (raw.toList.take 500))) ∧
    (∀ m, ofResponse raw = .ok m ∧ m.structured = true ↔
      ∃ ms, Json.parse text = .ok (.object ms) ∧ LastMember "modernized_code" ms (.text m.code) ∧
        Cosmetic "filename" "modernized_code.txt" ms m.filename ∧
        Cosmetic "changes_summary" "Code modernized" ms m.summary ∧ m.structured = true) ∧
    ∀ f, ofResponse raw = .error f →
      f = .missing "modernized_code" ∨ f.kind = "SchemaViolation" := by
  refine ⟨fun m => unstructured_iff, missing_iff, fun f => ?_, fun m => structured_iff, fun f failed => ?_⟩
  · rw [schema_iff]
    refine exists_congr fun ms => exists_congr fun v => ⟨?_, ?_⟩
    · rintro ⟨found, parsed, member, wrong, same⟩
      exact ⟨parsed, member, wrongKind?_some_iff.mp ⟨found, wrong⟩, found, wrong, same⟩
    · rintro ⟨parsed, member, -, found, wrong, same⟩
      exact ⟨found, parsed, member, wrong, same⟩
  · obtain missing | ⟨message, rfl⟩ := ofResponse_error failed
    · exact .inl missing
    · exact .inr rfl

/-- The members that an answer is made of. -/
def answer (code filename summary : String) : List (String × Json.Value) :=
  [("modernized_code", .text code), ("filename", .text filename), ("changes_summary", .text summary)]

section Printed

variable {code filename summary text : String} {ms more : List (String × Json.Value)}

theorem numbers_held (members : ms.Perm (answer code filename summary ++ more))
    (held : ∀ m ∈ more, ∀ n ∈ m.2.numbers, n.Held) :
    ∀ n ∈ (Json.Value.object ms).numbers, n.Held := by
  intro n member
  obtain ⟨m, here, number⟩ := Json.mem_numbersOfMembers.mp member
  rcases List.mem_append.mp (members.mem_iff.mp here) with own | further
  · simp only [answer, List.mem_cons, List.not_mem_nil, or_false] at own
    rcases own with rfl | rfl | rfl <;> cases number
  · exact held m further n number

theorem depth_le (members : ms.Perm (answer code filename summary ++ more))
    (shallow : ∀ m ∈ more, m.2.depth < 127) : (Json.Value.object ms).depth ≤ Json.deepest := by
  refine Nat.succ_le_succ (Json.depthMembers_le_iff.mpr fun m here => ?_)
  rcases List.mem_append.mp (members.mem_iff.mp here) with own | further
  · simp only [answer, List.mem_cons, List.not_mem_nil, or_false] at own
    rcases own with rfl | rfl | rfl <;> exact Nat.zero_le _
  · exact Nat.le_of_lt_succ (shallow m further)

theorem lt_depth (members : ms.Perm (answer code filename summary ++ more)) {m : String × Json.Value}
    (member : m ∈ more) (deep : 127 ≤ m.2.depth) : Json.deepest < (Json.Value.object ms).depth := by
  have here : m ∈ ms := members.mem_iff.mpr (List.mem_append_right _ member)
  exact Nat.lt_succ_of_le (Nat.le_trans deep (Json.depthMembers_le_iff.mp (Nat.le_refl _) m here))

theorem ofMembers_reread (members : ms.Perm (answer code filename summary ++ more))
    (others : ∀ m ∈ more, m.1 ∉ ["modernized_code", "filename", "changes_summary"]) (raw : String) :
    ofMembers raw (Json.rereadMembers ms) = .ok ⟨code, filename, summary, true⟩ := by
  have again : (Json.rereadMembers ms).Perm (answer code filename summary ++ Json.rereadMembers more) := by
    rw [Json.rereadMembers_eq_map, Json.rereadMembers_eq_map]
    have mapped := members.map fun m => (m.1, m.2.reread)
    rwa [List.map_append] at mapped
  have others' : ∀ m ∈ Json.rereadMembers more,
      m.1 ∉ (answer code filename summary).map (·.1) := by
    rw [Json.rereadMembers_eq_map, List.forall_mem_map]
    exact others
  have distinct : ((answer code filename summary).map (·.1)).Nodup := by
    change ["modernized_code", "filename", "changes_summary"].Nodup
    decide
  have last {key : String} {v : Json.Value} (member : (key, v) ∈ answer code filename summary) :=
    Json.lastMember?_of_perm again distinct others' member
  have named : Json.lastMember? "filename" (Json.rereadMembers ms) = some (.text filename) :=
    last (by simp [answer])
  have summed : Json.lastMember? "changes_summary" (Json.rereadMembers ms) = some (.text summary) :=
    last (by simp [answer])
  refine ofMembers_ok_iff.mpr ⟨code, last (by simp [answer]), ?_⟩
  rw [named, summed]
  rfl

/-- An object that nests too deep is not read, and so its text is taken for the code. -/
theorem ofResponse_too_deep (printed : Json.Printed (.object ms) text) (wraps : Response.Wraps text raw)
    (held : ∀ n ∈ (Json.Value.object ms).numbers, n.Held)
    (deep : Json.deepest < (Json.Value.object ms).depth) : ofResponse raw = .ok (unstructured text) := by
  have own := Response.unfenced_printed printed wraps
  obtain ⟨behind, failed⟩ := printed.too_deep held deep
  have prose : ∀ v, Json.parse (Response.unfenced raw) ≠ .ok v := by
    intro v parsed
    rw [own, failed] at parsed
    cases parsed
  rw [ofResponse_of_prose prose, own]

/-- Modern code comes back from the JSON that it is printed in, with its name and its summary, in whatever
order the members stand and whatever else there is, unless something else nests too deep. Then the whole text
is taken for the code. -/
theorem ofResponse_printed (members : ms.Perm (answer code filename summary ++ more))
    (others : ∀ m ∈ more, m.1 ∉ ["modernized_code", "filename", "changes_summary"])
    (held : ∀ m ∈ more, ∀ n ∈ m.2.numbers, n.Held) (printed : Json.Printed (.object ms) text)
    (wraps : Response.Wraps text raw) :
    ((∀ m ∈ more, m.2.depth < 127) → ofResponse raw = .ok ⟨code, filename, summary, true⟩) ∧
      ((∃ m ∈ more, 127 ≤ m.2.depth) → ofResponse raw = .ok (unstructured text)) := by
  have held := numbers_held members held
  refine ⟨?_, ?_⟩
  · intro shallow
    refine ofResponse_ok_iff.mpr (.inr ⟨Json.rereadMembers ms, ?_, ofMembers_reread members others raw⟩)
    rw [Response.unfenced_printed printed wraps]
    exact printed.parsed held (depth_le members shallow)
  · rintro ⟨m, member, deep⟩
    exact ofResponse_too_deep printed wraps held (lt_depth members member deep)

/-- Code with fences, braces and a control character, and beside it the largest number there is. -/
def fencedCode : String := "```\n\"\\\u0001\x7b\x7d\n```"

def besides : List (String × Json.Value) :=
  [("more", .array [.number (.real .greatest), .number (.integer (-1)), .object []])]

theorem fencedCode_printed :
    let ms := besides ++ answer fencedCode "a b.py" "\r\n"
    let raw := "\n" ++ "```" ++ "json" ++ "\n" ++ ("" ++ Json.pretty (.object ms) ++ "") ++ "\n" ++ "\t" ++
      "```" ++ "\u00a0"
    ms.Perm (answer fencedCode "a b.py" "\r\n" ++ besides) ∧
      (∀ m ∈ besides, m.1 ∉ ["modernized_code", "filename", "changes_summary"]) ∧
      (∀ m ∈ besides, ∀ n ∈ m.2.numbers, n.Held) ∧ Json.Printed (.object ms) (Json.pretty (.object ms)) ∧
      Response.Wraps (Json.pretty (.object ms)) raw ∧ (∀ m ∈ besides, m.2.depth < 127) ∧
      ofResponse raw = .ok ⟨fencedCode, "a b.py", "\r\n", true⟩ := by
  intro ms raw
  have members : ms.Perm (answer fencedCode "a b.py" "\r\n" ++ besides) := List.perm_append_comm
  have others : ∀ m ∈ besides, m.1 ∉ ["modernized_code", "filename", "changes_summary"] :=
    List.forall_mem_singleton.mpr (by decide)
  have held : ∀ m ∈ besides, ∀ n ∈ m.2.numbers, n.Held := by
    refine List.forall_mem_singleton.mpr ?_
    change ∀ n ∈ [Json.Number.real .greatest, .integer (-1)], n.Held
    simp [Json.Number.Held]
  have printed : Json.Printed (.object ms) (Json.pretty (.object ms)) := .pretty
  have wraps : Response.Wraps (Json.pretty (.object ms)) raw :=
    .fenced "\n" "json" "" "" "\t" "\u00a0" rfl (by decide) rfl rfl rfl (by decide) rfl
  have shallow : ∀ m ∈ besides, m.2.depth < 127 := List.forall_mem_singleton.mpr (by decide)
  exact ⟨members, others, held, printed, wraps, shallow,
    (ofResponse_printed members others held printed wraps).1 shallow⟩

/-- Lists, one inside the other. -/
def nest : Nat → Json.Value
  | 0 => .array []
  | n + 1 => .array [nest n]

theorem depth_nest (n : Nat) : (nest n).depth = n + 1 := by
  induction n with
  | zero => rfl
  | succ n ih => rw [nest, Json.Value.depth, Json.depthItems, Json.depthItems, ih, Nat.max_zero]

theorem numbers_nest (n : Nat) : (nest n).numbers = [] := by
  induction n with
  | zero => rfl
  | succ n ih => rw [nest, Json.Value.numbers, Json.numbersOfItems, Json.numbersOfItems, ih, List.append_nil]

/-- A further member of 127 lists hides the code of an answer. -/
theorem nested_unstructured :
    let ms := answer "x" "f" "s" ++ [("more", nest 126)]
    ofResponse (Json.compact (.object ms)) = .ok (unstructured (Json.compact (.object ms))) ∧
      ofResponse (Json.compact (.object ms)) ≠ .ok ⟨"x", "f", "s", true⟩ := by
  intro ms
  have members : ms.Perm (answer "x" "f" "s" ++ [("more", nest 126)]) := List.Perm.refl _
  have held : ∀ m ∈ [("more", nest 126)], ∀ n ∈ m.2.numbers, n.Held := by
    simp [numbers_nest]
  have deep := lt_depth members List.mem_cons_self (Nat.le_of_eq (depth_nest 126).symm)
  have taken := ofResponse_too_deep .compact (Response.wraps_self _) (numbers_held members held) deep
  refine ⟨taken, ?_⟩
  rw [taken]
  intro same
  cases congrArg structured (Except.ok.inj same)

end Printed

end Modernization

end Retrofit
