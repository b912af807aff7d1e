import Retrofit.Json.Printer
import Retrofit.Json.Token

/-! Which values come back from what is written for them. Everything but numbers always does; a real can
come back as one of its neighbours, since a reader of reals rounds more than once. -/
namespace Retrofit.Json

/-- Nothing that would belong to a number in front of it. -/
def EndsNumber : List Char → Prop
  | [] => True
  | c :: _ => c = ',' ∨ c = ']' ∨ c = '}' ∨ isSpace c = true

/-- The number is read back from what is written for it. -/
def Number.Legible (n : Number) : Prop :=
  (∃ c r, writtenNumber n = c :: r ∧ (c == '-' || c.isDigit) = true) ∧
    ∀ rest, EndsNumber rest → number (writtenNumber n ++ rest) = .ok (n, rest)

mutual

/-- All numbers in the value are read back from what is written for them. -/
def Value.Legible : Value → Prop
  | .null => True
  | .bool _ => True
  | .number n => n.Legible
  | .text _ => True
  | .array vs => LegibleItems vs
  | .object ms => LegibleMembers ms

def LegibleItems : List Value → Prop
  | [] => True
  | v :: vs => v.Legible ∧ LegibleItems vs

def LegibleMembers : List (String × Value) → Prop
  | [] => True
  | (_, v) :: ms => v.Legible ∧ LegibleMembers ms

end

/-- The number that is read where this one was written. -/
def Number.reread (n : Number) : Number :=
  match number (writtenNumber n) with
  | .ok (m, _) => m
  | .error _ => n

/-- What is written for the number can be read, though not always as the same number. -/
def Number.Readable (n : Number) : Prop :=
  (∃ c r, writtenNumber n = c :: r ∧ (c == '-' || c.isDigit) = true) ∧
    ∀ rest, EndsNumber rest → number (writtenNumber n ++ rest) = .ok (n.reread, rest)

theorem Number.reread_eq {n m : Number} (read : number (writtenNumber n) = .ok (m, [])) :
    n.reread = m := by
  rw [Number.reread, read]

theorem Number.Legible.reread_eq {n : Number} (legible : n.Legible) : n.reread = n := by
  have alone := legible.2 [] trivial
  rw [List.append_nil] at alone
  exact Number.reread_eq alone

theorem Number.Legible.readable {n : Number} (legible : n.Legible) : n.Readable := by
  rw [Number.Readable, legible.reread_eq]
  exact legible

mutual

def Value.numbers : Value → List Number
  | .null | .bool _ | .text _ => []
  | .number n => [n]
  | .array vs => numbersOfItems vs
  | .object ms => numbersOfMembers ms

def numbersOfItems : List Value → List Number
  | [] => []
  | v :: vs => v.numbers ++ numbersOfItems vs

def numbersOfMembers : List (String × Value) → List Number
  | [] => []
  | (_, v) :: ms => v.numbers ++ numbersOfMembers ms

end

/-- All numbers in the value can be read where they were written. -/
def Value.Readable (v : Value) : Prop :=
  ∀ n ∈ v.numbers, n.Readable

mutual

/-- The value with its numbers as they are read again. -/
def Value.reread : Value → Value
  | .null => .null
  | .bool b => .bool b
  | .number n => .number n.reread
  | .text s => .text s
  | .array vs => .array (rereadItems vs)
  | .object ms => .object (rereadMembers ms)

def rereadItems : List Value → List Value
  | [] => []
  | v :: vs => v.reread :: rereadItems vs

def rereadMembers : List (String × Value) → List (String × Value)
  | [] => []
  | (k, v) :: ms => (k, v.reread) :: rereadMembers ms

end

mutual

theorem Value.Legible.readable : (v : Value) → v.Legible → v.Readable
  | .null, _ | .bool _, _ | .text _, _ => List.forall_mem_nil _
  | .number n, legible => by
    simp only [Value.Legible] at legible
    exact List.forall_mem_singleton.mpr legible.readable
  | .array vs, legible => by
    simp only [Value.Legible] at legible
    exact legibleItems_readable vs legible
  | .object ms, legible => by
    simp only [Value.Legible] at legible
    exact legibleMembers_readable ms legible

theorem legibleItems_readable : (vs : List Value) → LegibleItems vs →
    ∀ n ∈ numbersOfItems vs, n.Readable
  | [], _ => List.forall_mem_nil _
  | v :: vs, legible =>
    List.forall_mem_append.mpr ⟨Value.Legible.readable v legible.1, legibleItems_readable vs legible.2⟩

theorem legibleMembers_readable : (ms : List (String × Value)) → LegibleMembers ms →
    ∀ n ∈ numbersOfMembers ms, n.Readable
  | [], _ => List.forall_mem_nil _
  | (_, v) :: ms, legible =>
    List.forall_mem_append.mpr
      ⟨Value.Legible.readable v legible.1, legibleMembers_readable ms legible.2⟩

end

mutual

theorem Value.Legible.reread_eq : (v : Value) → v.Legible → v.reread = v
  | .null, _ | .bool _, _ | .text _, _ => rfl
  | .number n, legible => by
    simp only [Value.Legible] at legible
    rw [Value.reread, legible.reread_eq]
  | .array vs, legible => by
    simp only [Value.Legible] at legible
    rw [Value.reread, legibleItems_reread vs legible]
  | .object ms, legible => by
    simp only [Value.Legible] at legible
    rw [Value.reread, legibleMembers_reread ms legible]

theorem legibleItems_reread : (vs : List Value) → LegibleItems vs → rereadItems vs = vs
  | [], _ => rfl
  | v :: vs, legible => by
    rw [rereadItems, Value.Legible.reread_eq v legible.1, legibleItems_reread vs legible.2]

theorem legibleMembers_reread : (ms : List (String × Value)) → LegibleMembers ms →
    rereadMembers ms = ms
  | [], _ => rfl
  | (_, v) :: ms, legible => by
    rw [rereadMembers, Value.Legible.reread_eq v legible.1, legibleMembers_reread ms legible.2]

end

theorem rereadMembers_eq_map (ms : List (String × Value)) :
    rereadMembers ms = ms.map fun m => (m.1, m.2.reread) := by
  induction ms with
  | nil => rfl
  | cons m ms ih => rw [rereadMembers, ih, List.map_cons]

theorem mem_numbersOfMembers {n : Number} {ms : List (String × Value)} :
    n ∈ numbersOfMembers ms ↔ ∃ m ∈ ms, n ∈ m.2.numbers := by
  induction ms with
  | nil => simp [numbersOfMembers]
  | cons m ms ih => simp only [numbersOfMembers, List.mem_append, ih, List.mem_cons, exists_eq_or_imp]

end Retrofit.Json
