import Retrofit.Proofs.Skeleton.Outline

/-! Skeletons as a printer writes them that counts how far it is in. Each module is written from the margin
and ends there, so that nothing is carried over to the next one. -/
namespace Retrofit.Skeleton

structure Printer where
  depth : Nat
  written : List Char

/-- A line as it is written so much further in. -/
def Line.charsAt (t : Target) (depth : Nat) : Line → List Char
  | .blank => ['\n']
  | .code own text => indentation t (depth + own) ++ text.toList ++ ['\n']

namespace Printer

def deeper (s : Printer) : Printer :=
  { s with depth := s.depth + 1 }

def wrote (t : Target) (ls : List Line) (s : Printer) : Printer :=
  { s with written := s.written ++ ls.flatMap (·.charsAt t s.depth) }

end Printer

abbrev Print := StateT Printer Option

def emit (t : Target) (l : Line) : Print Unit :=
  modify (Printer.wrote t [l])

def enter : Print Unit :=
  modify Printer.deeper

/-- There is no way out of the margin. -/
def leave : Print Unit := do
  let s ← get
  match s.depth with
  | 0 => failure
  | depth + 1 => set { s with depth }

/-! The statements of the printer, one after the other -/

def printStub (t : Target) (f : Function) : Print Unit := do
  f.businessLogic.toList.forM fun logic => emit t (comment t s!"Logic: {logic}")
  emit t (comment t "TODO: Implement")

def printPreamble (t : Target) (p : Project) (m : Module) : Print Unit := do
  emit t (comment t m.description)
  emit t (comment t s!"Original: {p.legacyName}")
  emit t (comment t s!"Suggested: {p.modernName}")

def printPythonFunction (method : Bool) (f : Function) : Print Unit := do
  let params := (if method then ["self"] else []) ++ f.inputs.map (·.name)
  emit .python (line ("def " ++ f.name ++ "(" ++ Text.join ", " params ++ "):"))
  enter
  emit .python (docLine f.description)
  printStub .python f
  emit .python (line "pass")
  leave
  emit .python .blank

def printPythonModule (p : Project) (m : Module) : Print Unit := do
  emit .python (line docQuotes)
  emit .python (line (docText m.description))
  emit .python (line s!"Original: {docText p.legacyName}")
  emit .python (line s!"Suggested: {docText p.modernName}")
  emit .python (line docQuotes)
  emit .python .blank
  if m.kind = .module then
    m.attributes.forM fun a => emit .python (pythonAttribute "" a)
    if ¬ m.attributes.isEmpty then
      emit .python .blank
    m.functions.forM (printPythonFunction false)
    return
  if m.kind = .concreteClass then
    emit .python (line s!"class {m.name}:")
  else
    emit .python (line "from abc import ABC")
    emit .python .blank
    emit .python (line s!"class {m.name}(ABC):")
  enter
  emit .python (docLine m.description)
  emit .python .blank
  if ¬ m.attributes.isEmpty then
    emit .python (line "def __init__(self):")
    enter
    m.attributes.forM fun a => emit .python (pythonAttribute "self." a)
    leave
    emit .python .blank
  m.functions.forM (printPythonFunction true)
  leave

def printJavaFunction (declared : Bool) (f : Function) : Print Unit := do
  emit .java (comment .java f.description)
  if declared then
    printStub .java f
    emit .java (line (javaSignature f ++ ";"))
  else
    emit .java (line (javaModifiers f ++ " " ++ javaSignature f ++ " \x7b"))
    enter
    printStub .java f
    if javaReturn f ≠ "void" then
      emit .java (line "return null;")
    leave
    emit .java (line "\x7d")
  emit .java .blank

def printJavaModule (p : Project) (m : Module) : Print Unit := do
  let declared : Bool := m.kind = .interface
  printPreamble .java p m
  emit .java (line (javaKeyword m.kind ++ " " ++ m.name ++ " \x7b"))
  emit .java .blank
  enter
  m.attributes.forM fun a => emit .java (javaAttribute declared a)
  if ¬ m.attributes.isEmpty then
    emit .java .blank
  m.functions.forM (printJavaFunction declared)
  leave
  emit .java (line "\x7d")

def printScriptFunction (keyword : String) (f : Function) : Print Unit := do
  emit .javaScript (comment .javaScript f.description)
  emit .javaScript (line (keyword ++ f.name ++ "(" ++ scriptParams f.inputs ++ ")" ++ " \x7b"))
  enter
  printStub .javaScript f
  leave
  emit .javaScript (line "\x7d")
  emit .javaScript .blank

def printScriptModule (p : Project) (m : Module) : Print Unit := do
  printPreamble .javaScript p m
  emit .javaScript .blank
  if m.kind = .module then
    m.attributes.forM fun a => emit .javaScript (scriptAttribute "let " a)
    if ¬ m.attributes.isEmpty then
      emit .javaScript .blank
    m.functions.forM (printScriptFunction "function ")
    return
  emit .javaScript (line (s!"class {m.name}" ++ " \x7b"))
  enter
  if ¬ m.attributes.isEmpty then
    emit .javaScript (line "constructor() \x7b")
    enter
    m.attributes.forM fun a => emit .javaScript (scriptAttribute "this." a)
    leave
    emit .javaScript (line "\x7d")
    emit .javaScript .blank
  m.functions.forM (printScriptFunction "")
  leave
  emit .javaScript (line "\x7d")

def printNeutralFunction (f : Function) : Print Unit := do
  emit .generic (comment .generic f.description)
  emit .generic
    (line ("function " ++ f.name ++ "(" ++ neutralParams f.inputs ++ ")" ++ neutralReturn f ++ " \x7b"))
  enter
  printStub .generic f
  leave
  emit .generic (line "\x7d")

def printNeutralModule (p : Project) (m : Module) : Print Unit := do
  printPreamble .generic p m
  emit .generic (line (s!"{m.kind.tag} {m.name}" ++ " \x7b"))
  enter
  m.attributes.forM fun a => emit .generic (neutralAttribute a)
  m.functions.forM printNeutralFunction
  leave
  emit .generic (line "\x7d")

def printModule : Target → Project → Module → Print Unit
  | .python => printPythonModule
  | .java => printJavaModule
  | .javaScript => printScriptModule
  | .generic => printNeutralModule

def printNumbered (t : Target) (p : Project) (x : Module × Nat) : Print Unit := do
  if x.2 > 0 then
    emit t .blank
  printModule t p x.1

def printProject (t : Target) (p : Project) : Print Unit :=
  p.modules.zipIdx.forM (printNumbered t p)

/-! What a statement leaves behind -/

variable (t : Target) (s : Printer)

@[simp] theorem Printer.wrote_nil : s.wrote t [] = s := by
  simp [Printer.wrote]

@[simp] theorem Printer.wrote_wrote (xs ys : List Line) :
    (s.wrote t xs).wrote t ys = s.wrote t (xs ++ ys) := by
  simp [Printer.wrote]

@[simp] theorem run_emit (l : Line) : (emit t l).run s = some ((), s.wrote t [l]) := rfl

@[simp] theorem run_enter : enter.run s = some ((), s.deeper) := rfl

/-- Lines written one step further in are the lines moved in by one step. -/
@[simp] theorem run_leave (ls : List Line) :
    leave.run (s.deeper.wrote t ls) = some ((), s.wrote t (inside ls)) := by
  have moved (l : Line) : l.deeper.charsAt t s.depth = l.charsAt t (s.depth + 1) := by
    cases l with
    | blank => rfl
    | code own text =>
      rw [Line.deeper, Line.charsAt, Line.charsAt, Nat.add_right_comm, Nat.add_assoc]
  have same : (inside ls).flatMap (·.charsAt t s.depth) = ls.flatMap (·.charsAt t (s.depth + 1)) := by
    rw [inside, List.flatMap_map]
    simp only [moved]
  rw [Printer.wrote, Printer.wrote, same]
  rfl

theorem run_forM {α : Type} {t : Target} {print : α → Print Unit} {lines : α → List Line}
    (each : ∀ a s, (print a).run s = some ((), s.wrote t (lines a))) (as : List α) (s : Printer) :
    (forM as print).run s = some ((), s.wrote t (as.flatMap lines)) := by
  induction as generalizing s with
  | nil => simp
  | cons a as ih => simp [each, ih]

@[simp] theorem run_attributes (line : Parameter → Line) (as : List Parameter) :
    (forM as fun a => emit t (line a)).run s = some ((), s.wrote t (as.map line)) := by
  rw [run_forM (fun a s => run_emit t s (line a)), ← List.map_eq_flatMap]

@[simp] theorem run_printStub (f : Function) :
    (printStub t f).run s = some ((), s.wrote t (stub t f)) := by
  unfold printStub stub
  cases f.businessLogic with
  | none => simp
  | some logic => simp

@[simp] theorem run_printPreamble (p : Project) (m : Module) :
    (printPreamble t p m).run s = some ((), s.wrote t (preamble t p m)) := by
  simp [printPreamble, preamble]

theorem run_printPythonFunction (method : Bool) (f : Function) (s : Printer) :
    (printPythonFunction method f).run s = some ((), s.wrote .python (pythonFunction method f)) := by
  simp [printPythonFunction, pythonFunction]

theorem run_printJavaFunction (declared : Bool) (f : Function) (s : Printer) :
    (printJavaFunction declared f).run s = some ((), s.wrote .java (javaFunction declared f)) := by
  cases declared with
  | true => simp [printJavaFunction, javaFunction]
  | false =>
    by_cases void : javaReturn f = "void"
    · simp [printJavaFunction, javaFunction, block, void]
    · simp [printJavaFunction, javaFunction, block, void]

theorem run_printScriptFunction (keyword : String) (f : Function) (s : Printer) :
    (printScriptFunction keyword f).run s =
      some ((), s.wrote .javaScript (scriptFunction keyword f)) := by
  simp [printScriptFunction, scriptFunction, block]

theorem run_printNeutralFunction (f : Function) (s : Printer) :
    (printNeutralFunction f).run s = some ((), s.wrote .generic (neutralFunction f)) := by
  simp [printNeutralFunction, neutralFunction, block]

section Modules

variable (p : Project) (m : Module)

theorem run_printPythonModule :
    (printPythonModule p m).run s = some ((), s.wrote .python (pythonModule p m)) := by
  have free := run_forM (run_printPythonFunction false)
  have methods := run_forM (run_printPythonFunction true)
  unfold printPythonModule pythonModule
  -- without a class the printer returns before it has gone in
  by_cases kind : m.kind = .module
  · cases m.attributes <;> simp [pythonPreamble, spaced, kind, free]
  · by_cases concrete : m.kind = .concreteClass <;> cases attributes : m.attributes <;>
      simp [pythonPreamble, pythonClass, pythonClassHeader, pythonConstructor, kind,
        concrete, attributes, methods]

theorem run_printJavaModule :
    (printJavaModule p m).run s = some ((), s.wrote .java (javaModule p m)) := by
  have functions := run_forM (run_printJavaFunction (m.kind = .interface))
  unfold printJavaModule javaModule
  cases m.attributes <;> simp [spaced, functions]

theorem run_printScriptModule :
    (printScriptModule p m).run s = some ((), s.wrote .javaScript (scriptModule p m)) := by
  have free := run_forM (run_printScriptFunction "function ")
  have methods := run_forM (run_printScriptFunction "")
  unfold printScriptModule scriptModule
  by_cases kind : m.kind = .module
  · cases m.attributes <;> simp [spaced, kind, free]
  · cases attributes : m.attributes <;> simp [scriptConstructor, block, kind, attributes, methods]

theorem run_printNeutralModule :
    (printNeutralModule p m).run s = some ((), s.wrote .generic (neutralModule p m)) := by
  have functions := run_forM run_printNeutralFunction
  simp [printNeutralModule, neutralModule, block, functions]

@[simp] theorem run_printModule :
    (printModule t p m).run s = some ((), s.wrote t (moduleLines t p m)) := by
  cases t with
  | python => exact run_printPythonModule s p m
  | java => exact run_printJavaModule s p m
  | javaScript => exact run_printScriptModule s p m
  | generic => exact run_printNeutralModule s p m

end Modules

/-! Modules one after the other -/

theorem intercalate_blank (ls : List Line) (lss : List (List Line)) :
    [Line.blank].intercalate (ls :: lss) = ls ++ lss.flatMap (Line.blank :: ·) := by
  induction lss generalizing ls with
  | nil => simp
  | cons ls' lss ih => simp [List.intercalate_cons_cons, ih]

/-- Behind the first module, each one comes with an empty line before it. -/
theorem flatMap_zipIdx {α : Type} (lines : α → List Line) (as : List α) (k : Nat) :
    ((as.zipIdx (k + 1)).flatMap fun x => (if x.2 > 0 then [Line.blank] else []) ++ lines x.1) =
      as.flatMap fun a => Line.blank :: lines a := by
  induction as generalizing k with
  | nil => rfl
  | cons a as ih => simp [List.zipIdx_cons, ih]

theorem run_printProject (p : Project) :
    (printProject t p).run s = some ((), s.wrote t (projectLines t p)) := by
  have each (x : Module × Nat) (s : Printer) : (printNumbered t p x).run s =
      some ((), s.wrote t ((if x.2 > 0 then [Line.blank] else []) ++ moduleLines t p x.1)) := by
    unfold printNumbered
    split <;> simp
  have written := run_forM each p.modules.zipIdx s
  have lines : (p.modules.zipIdx.flatMap fun x =>
      (if x.2 > 0 then [Line.blank] else []) ++ moduleLines t p x.1) = projectLines t p := by
    unfold projectLines
    cases p.modules with
    | nil => rfl
    | cons m ms =>
      rw [List.zipIdx_cons, List.flatMap_cons, flatMap_zipIdx, List.map_cons, intercalate_blank]
      simp [List.flatMap_map]
  rw [lines] at written
  exact written

theorem Printer.wrote_margin (written : List Char) (ls : List Line) :
    (⟨0, written⟩ : Printer).wrote t ls = ⟨0, written ++ (render t ls).toList⟩ := by
  -- at the margin a line has its own depth only
  have margin (l : Line) : l.charsAt t 0 = l.chars t := by
    cases l with
    | blank => rfl
    | code own text =>
      rw [Line.charsAt, Nat.zero_add]
      rfl
  simp [Printer.wrote, render, margin]

theorem projectLines_split {p : Project} {a b : List Module} (left : a ≠ []) (right : b ≠ [])
    (split : p.modules = a ++ b) :
    projectLines t p =
      projectLines t { p with modules := a } ++ .blank :: projectLines t { p with modules := b } := by
  have same (ms : List Module) : moduleLines t { p with modules := ms } = moduleLines t p := by
    cases t <;> rfl
  obtain ⟨m, ms, rfl⟩ := List.exists_cons_of_ne_nil left
  obtain ⟨m', ms', rfl⟩ := List.exists_cons_of_ne_nil right
  simp [projectLines, split, same, intercalate_blank]

end Retrofit.Skeleton

namespace Retrofit

open Skeleton

/-- Modules are printed independently of each other: a skeleton can be cut between any two of them. The
printer is back at the margin after each module, whatever it was, and after the last one it has written
the skeleton. -/
theorem Project.skeletonFor_split (t : Target) (p : Project) {a b : List Module} (left : a ≠ [])
    (right : b ≠ []) (split : p.modules = a ++ b) :
    p.skeletonFor t =
        { p with modules := a }.skeletonFor t ++ "\n" ++ { p with modules := b }.skeletonFor t ∧
      (∀ m written, (printModule t p m).run ⟨0, written⟩ =
        some ((), ⟨0, written ++ (moduleText t p m).toList⟩)) ∧
      (printProject t p).run ⟨0, []⟩ = some ((), ⟨0, (p.skeletonFor t).toList⟩) := by
  refine ⟨?_, ?_, ?_⟩
  · rw [skeletonFor_eq_render, skeletonFor_eq_render, skeletonFor_eq_render,
      projectLines_split t left right split]
    apply String.toList_inj.mp
    simp [render, Line.chars]
  · intro m written
    rw [run_printModule, Printer.wrote_margin]
    rfl
  · rw [run_printProject, Printer.wrote_margin, skeletonFor_eq_render, List.nil_append]

/-- Functions and a variable without a class, which are printed without going in for them. -/
def coinTools : Module :=
  ⟨"coins", .module, "Counts coins", [],
    [⟨"count", "", [⟨"coins", "list", none⟩], [], [], [], [], [], [], none⟩],
    [⟨"rate", "int", some "Cents"⟩], []⟩

def coinBox : Module :=
  ⟨"Box", .abstractClass, "Holds coins", [],
    [⟨"empty", "", [], [], [], [], [], [], [], some "rate = 0"⟩],
    [⟨"coins", "list", none⟩], []⟩

def coinShop : Project :=
  ⟨"python", "shop.cbl", "shop.py", "", [coinTools, coinBox], [], [], []⟩

theorem coinShop_split :
    [coinTools] ≠ [] ∧ [coinBox] ≠ [] ∧ coinShop.modules = [coinTools] ++ [coinBox] ∧
      coinShop.skeletonFor .python =
        { coinShop with modules := [coinTools] }.skeletonFor .python ++ "\n" ++
          { coinShop with modules := [coinBox] }.skeletonFor .python ∧
      (printModule .python coinShop coinTools).run ⟨0, []⟩ =
        some ((), ⟨0, (moduleText .python coinShop coinTools).toList⟩) ∧
      (printProject .python coinShop).run ⟨0, []⟩ =
        some ((), ⟨0, (coinShop.skeletonFor .python).toList⟩) := by
  have left : [coinTools] ≠ [] := List.cons_ne_nil _ _
  have right : [coinBox] ≠ [] := List.cons_ne_nil _ _
  have split : coinShop.modules = [coinTools] ++ [coinBox] := rfl
  obtain ⟨halves, module, whole⟩ := Project.skeletonFor_split .python coinShop left right split
  have back := module coinTools []
  rw [List.nil_append] at back
  exact ⟨left, right, split, halves, back, whole⟩

end Retrofit
