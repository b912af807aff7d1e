import Retrofit.Proofs.Skeleton.Code

/-! The code on the lines of a skeleton. Comments add none to it, and a remark behind a line adds none
either as long as it stays on that line. -/
namespace Retrofit

/-- In all but one of the languages a comment begins with two slashes. -/
theorem Target.lineComment_of_braced {t : Target} (braced : t ≠ .python) :
    t.conventions.lineComment = "//" := by
  cases t with
  | python => exact absurd rfl braced
  | java | javaScript | generic => rfl

namespace Skeleton

def indentation (t : Target) (depth : Nat) : List Char :=
  (List.replicate depth (step t)).flatten

theorem space_of_mem_indentation {t : Target} {depth : Nat} {c : Char}
    (member : c ∈ indentation t depth) : c = ' ' := by
  obtain ⟨piece, copy, inside⟩ := List.mem_flatten.mp member
  rw [List.eq_of_mem_replicate copy] at inside
  cases t <;> simpa [step] using inside

theorem not_mem_indentation (t : Target) (depth : Nat) {c : Char} (other : c ≠ ' ') :
    c ∉ indentation t depth :=
  fun member => other (space_of_mem_indentation member)

variable (b : LineBreaks)

/-- The code on a line that is moved in by `depth` steps. -/
def Line.kept (t : Target) (depth : Nat) : Line → List (List Char)
  | .blank => []
  | .code own text => b.code (indentation t (depth + own) ++ text.toList)

def codeOf (t : Target) (depth : Nat) (lines : List Line) : List (List Char) :=
  lines.flatMap (Line.kept b t depth)

section Structure

variable {t : Target} {depth : Nat}

@[simp] theorem codeOf_nil : codeOf b t depth [] = [] :=
  rfl

@[simp] theorem codeOf_cons (l : Line) (ls : List Line) :
    codeOf b t depth (l :: ls) = l.kept b t depth ++ codeOf b t depth ls :=
  rfl

@[simp] theorem codeOf_append (ks ls : List Line) :
    codeOf b t depth (ks ++ ls) = codeOf b t depth ks ++ codeOf b t depth ls :=
  List.flatMap_append

@[simp] theorem kept_blank : Line.blank.kept b t depth = [] :=
  rfl

theorem kept_line (text : String) :
    (line text).kept b t depth = b.code (indentation t depth ++ text.toList) :=
  rfl

theorem kept_deeper (l : Line) : l.deeper.kept b t depth = l.kept b t (depth + 1) := by
  cases l with
  | blank => rfl
  | code own text =>
    simp only [Line.deeper, Line.kept]
    congr 3
    omega

@[simp] theorem codeOf_inside (ls : List Line) :
    codeOf b t depth (inside ls) = codeOf b t (depth + 1) ls := by
  unfold codeOf inside
  rw [List.flatMap_map]
  simp only [kept_deeper]

@[simp] theorem codeOf_spaced (ls : List Line) :
    codeOf b t depth (spaced ls) = codeOf b t depth ls := by
  cases ls <;> simp [spaced]

@[simp] theorem codeOf_block (header : String) (body : List Line) :
    codeOf b t depth (block header body) =
      (line (header ++ " \x7b")).kept b t depth ++ codeOf b t (depth + 1) body ++
        (line "\x7d").kept b t depth := by
  simp [block]

theorem codeOf_map {α : Type} (f : α → Line) (xs : List α) :
    codeOf b t depth (xs.map f) = xs.flatMap fun x => (f x).kept b t depth :=
  List.flatMap_map ..

theorem codeOf_flatMap {α : Type} (f : α → List Line) (xs : List α) :
    codeOf b t depth (xs.flatMap f) = xs.flatMap fun x => codeOf b t depth (f x) :=
  List.flatMap_assoc

end Structure

section Comments

variable {t : Target} (braced : t ≠ .python) (depth : Nat)

include braced

theorem kept_comment (text : String) : (comment t text).kept b t depth = [] := by
  have slashes := Target.lineComment_of_braced braced
  have begins : (comment t text).kept b t depth =
      b.code (indentation t depth ++ '/' :: '/' :: ' ' :: (Text.oneLine text).toList) := by
    simp [comment, kept_line, slashes, Text.toString_same]
  rw [begins]
  exact b.code_comment (fun c => space_of_mem_indentation) (b.unbroken_remark text)

theorem codeOf_stub (f : Function) : codeOf b t depth (stub t f) = [] := by
  unfold stub
  cases f.businessLogic with
  | none => simp [kept_comment b braced]
  | some logic => simp [kept_comment b braced]

theorem codeOf_preamble (p : Project) (m : Module) : codeOf b t depth (preamble t p m) = [] := by
  simp [preamble, kept_comment b braced]

theorem kept_remark (text : String) (d : Option String) :
    (line (text ++ remark t d)).kept b t depth = (line text).kept b t depth := by
  have slashes := Target.lineComment_of_braced braced
  cases d with
  | none => simp [remark]
  | some d =>
    unfold remark
    dsimp only
    split
    · simp
    · have behind := b.code_append_comment (indentation t depth ++ text.toList)
        (' ' :: (Text.oneLine d).toList)
      rw [b.leak_unbroken (b.unbroken_remark d), List.append_nil] at behind
      simpa [kept_line, slashes, Text.toString_same] using behind

end Comments

/-- What a remark that names the type says. -/
def typeNote (a : Parameter) : String :=
  match a.description with
  | some d => if Text.isBlank d then a.type else a.type ++ ": " ++ Text.oneLine d
  | none => a.type

theorem typeRemark_eq (t : Target) (a : Parameter) :
    typeRemark t a = "  " ++ t.conventions.lineComment ++ " " ++ typeNote a := by
  unfold typeRemark typeNote
  cases a.description with
  | none => simp [Text.toString_same]
  | some d =>
    dsimp only
    split
    · simp [Text.toString_same]
    · simp [Text.toString_same, String.append_assoc]

/-- The type may take a remark to further lines, which are code then. -/
theorem kept_typeRemark {t : Target} (braced : t ≠ .python) (depth : Nat) (text : String)
    (a : Parameter) :
    (line (text ++ typeRemark t a)).kept b t depth =
      (line text).kept b t depth ++ b.leak (typeNote a).toList := by
  have behind := b.code_append_comment (indentation t depth ++ text.toList)
    (' ' :: (typeNote a).toList)
  rw [b.leak_cons b.space] at behind
  simpa [kept_line, typeRemark_eq, Target.lineComment_of_braced braced] using behind

/-- A type on one line makes no code of its remark. -/
theorem leak_typeNote (a : Parameter) (unbroken : ∀ c ∈ a.type.toList, b.isBreak c = false) :
    b.leak (typeNote a).toList = [] := by
  apply b.leak_unbroken
  unfold typeNote
  cases a.description with
  | none => exact unbroken
  | some d =>
    dsimp only
    split
    · exact unbroken
    · have between : ∀ c ∈ [':', ' '], b.isBreak c = false := by
        simp [b.space, b.not_break_of_solid (c := ':') rfl]
      intro c member
      rw [String.toList_append, String.toList_append, List.mem_append, List.mem_append] at member
      rcases member with (own | sign) | behind
      · exact unbroken c own
      · exact between c sign
      · exact b.not_break_of_mem_oneLine behind

/-! The text of a skeleton -/

theorem code_render (t : Target) (ls : List Line) :
    b.code (render t ls).toList = codeOf b t 0 ls := by
  rw [render, String.toList_ofList]
  induction ls with
  | nil => rfl
  | cons l ls ih =>
    rw [List.flatMap_cons, codeOf_cons, ← ih]
    cases l with
    | blank => exact b.code_break b.newline [] _
    | code own text =>
      have ended := b.code_break b.newline (indentation t own ++ text.toList)
        (ls.flatMap (·.chars t))
      simpa [Line.chars, Line.kept, indentation] using ended

theorem code_join (texts : List String) :
    b.code (Text.join "\n" texts).toList = texts.flatMap fun s => b.code s.toList := by
  induction texts with
  | nil => rfl
  | cons s texts ih =>
    cases texts with
    | nil => simp [Text.join]
    | cons s' texts =>
      rw [List.flatMap_cons, ← ih]
      have ended := b.code_break b.newline s.toList (Text.join "\n" (s' :: texts)).toList
      simpa [Text.join] using ended

/-- The code of a skeleton is that of its modules, one after the other. -/
theorem code_skeletonFor (p : Project) (t : Target) :
    b.code (p.skeletonFor t).toList =
      p.modules.flatMap fun m => codeOf b t 0 (moduleLines t p m) := by
  rw [Project.skeletonFor, code_join, List.flatMap_map]
  simp only [moduleText, code_render]

end Skeleton

end Retrofit
