import Retrofit.Proofs.Json.Respelling
import Retrofit.Proofs.Project.Acceptance
import Retrofit.Proofs.Project.RoundTrip

/-! What a document of a project means, and that this is all that counts: a document in another spelling is
the same project. -/
namespace Retrofit

open Json

section Contents

theorem ModuleKind.index_ofIndex (i : Fin ModuleKind.tags.length) :
    (ModuleKind.ofIndex i).index = i := by
  have all : ∀ i : Fin 4, (ModuleKind.ofIndex i).index = i := by decide
  exact all i

theorem DebtCategory.index_ofIndex (i : Fin DebtCategory.tags.length) :
    (DebtCategory.ofIndex i).index = i := by
  have all : ∀ i : Fin 5, (DebtCategory.ofIndex i).index = i := by decide
  exact all i

theorem Severity.index_ofIndex (i : Fin Severity.tags.length) :
    (Severity.ofIndex i).index = i := by
  have all : ∀ i : Fin 4, (Severity.ofIndex i).index = i := by decide
  exact all i

theorem Parameter.content_ofContent (x : Parameter.shape.Content) :
    (Parameter.ofContent x).content = x :=
  rfl

theorem Decision.content_ofContent (x : Decision.shape.Content) : (Decision.ofContent x).content = x :=
  rfl

theorem Function.content_ofContent (x : Function.shape.Content) :
    (Function.ofContent x).content = x := by
  unfold Function.ofContent Function.content
  simp only [map_back Parameter.content_ofContent, map_back Decision.content_ofContent]

theorem Module.content_ofContent (x : Module.shape.Content) : (Module.ofContent x).content = x := by
  unfold Module.ofContent Module.content
  simp only [map_back Parameter.content_ofContent, map_back Function.content_ofContent,
    ModuleKind.index_ofIndex]

theorem Debt.content_ofContent (x : Debt.shape.Content) : (Debt.ofContent x).content = x := by
  unfold Debt.ofContent Debt.content
  simp only [DebtCategory.index_ofIndex, Severity.index_ofIndex]

theorem Project.content_ofContent (x : Project.shape.Content) : (Project.ofContent x).content = x := by
  unfold Project.ofContent Project.content
  simp only [map_back Module.content_ofContent, map_back Debt.content_ofContent]

end Contents

namespace Project

/-- A document is accepted as the project that it means, if the project is usable. -/
theorem validate_ok_iff {text : String} {t : Sketch} (spelled : Spells text t) (p : Project) :
    validate text = .ok p ↔ Project.shape.Means t p.content ∧ p.Usable := by
  rw [Shape.means_iff]
  refine ⟨?_, ?_⟩
  · intro ok
    cases verdict text spelled with
    | accepted x content decoded usable given =>
      cases given.symm.trans ok
      rw [content_ofContent]
      exact ⟨content, usable⟩
    | unusable x message content decoded unusable given => cases given.symm.trans ok
    | mismatch c message refused course given => cases given.symm.trans ok
    | derailed c message refused course given => cases given.symm.trans ok
  · rintro ⟨interpreted, usable⟩
    have decoded := decode_of_spells spelled interpreted
    rw [ofContent_content] at decoded
    exact validateFrom_usable text decoded usable

/-- Two documents that are the same but for the order of members, members that are not known and blank
ones that are left out are accepted as the same project, or refused both. The project is what either
means, and so its lists are in the order of the document. -/
theorem respelled_validated {v w : Value} (respelled : Respelled (some Project.shape) v w)
    {text text' : String} (spelled : Spells text v.sketch) (spelled' : Spells text' w.sketch) :
    ((∃ p, validate text = .ok p) ↔ ∃ p, validate text' = .ok p) ∧
      (∀ p p', validate text = .ok p → validate text' = .ok p' → p = p') ∧
      ∀ p, validate text = .ok p ↔ Project.shape.Means v.sketch p.content ∧ p.Usable := by
  have same (p : Project) : validate text = .ok p ↔ validate text' = .ok p := by
    rw [validate_ok_iff spelled, validate_ok_iff spelled',
      respelled.alike.meaning Project.shape rfl p.content]
  refine ⟨exists_congr same, ?_, validate_ok_iff spelled⟩
  intro p p' ok ok'
  exact Except.ok.inj (((same p).mp ok).symm.trans ok')

/-- A module as short as it can be. -/
def shortModule : List (String × Value) :=
  [("name", .text "m"), ("type", .text "class"), ("description", .text "d")]

/-- The same with a member that is not known and a list that is empty. -/
def longModule : List (String × Value) :=
  ("imports", .array []) :: ("lines", .array [.null, .bool true]) :: shortModule

def around (module : List (String × Value)) : List (String × Value) :=
  [("modules", .array [.object module]), ("language", .text "l"), ("original_filename", .text "o"),
    ("suggested_filename", .text "s"), ("summary", .text "")]

theorem longModule_respelled :
    Respelled (some Project.shape) (.object (around shortModule))
      (.object (around longModule).reverse) := by
  have module : Respelled (some Module.shape) (.object shortModule) (.object longModule) :=
    .trans _ _ _ _ (.extended _ _ "lines" _ _ rfl rfl)
      (.completed _ _ "imports" _ _ _ rfl rfl (by simp [Fields.Requires, Shape.absent?]) rfl (by decide))
  exact .trans _ _ _ _ (.member _ "modules" _ _ _ (.item _ [] _ _ [] module))
    (.reordered _ _ _ (List.reverse_perm _).symm)

theorem longModule_validated :
    let short := Json.compact (.object (around shortModule))
    let long := Json.pretty (.object (around longModule).reverse)
    let p : Project := ⟨"l", "o", "s", "", [⟨"m", .concreteClass, "d", [], [], [], []⟩], [], [], []⟩
    Respelled (some Project.shape) (.object (around shortModule))
        (.object (around longModule).reverse) ∧
      Spells short (Value.object (around shortModule)).sketch ∧
      Spells long (Value.object (around longModule).reverse).sketch ∧
      validate short = .ok p ∧ validate long = .ok p := by
  intro short long p
  have spelled : Spells short (Value.object (around shortModule)).sketch :=
    compact_spells _ (by simp [around, shortModule, Value.Legible, LegibleItems, LegibleMembers])
  have spelled' : Spells long (Value.object (around longModule).reverse).sketch :=
    pretty_spells _ (by
      simp [around, longModule, shortModule, Value.Legible, LegibleItems, LegibleMembers])
  obtain ⟨accepted, same, meant⟩ := respelled_validated longModule_respelled spelled spelled'
  have said : Project.shape.Means (Value.object (around shortModule)).sketch p.content :=
    (Shape.means_iff _ _ _).mpr rfl
  have ok : validate short = .ok p := (meant p).mpr ⟨said, (defect_none_iff p).mp rfl⟩
  obtain ⟨p', ok'⟩ := accepted.mp ⟨p, ok⟩
  cases same p p' ok ok'
  exact ⟨longModule_respelled, spelled, spelled', ok, ok'⟩

end Project

end Retrofit
