import Retrofit.Disk.RawPath
import Retrofit.Proofs.Disk.Path
import Retrofit.Proofs.Text.Octets

/-! The names on a path that need not be text. Read as text, each of them still is a name: no separator and
no dots come up that were not there. Paths that are text have the same parts as octets and as text. -/
namespace Retrofit

namespace Octets

variable {octets : List UInt8}

theorem ofText_empty : ofText "" = [] := rfl

theorem ofText_here : ofText "." = [RawPath.dot] := by decide

theorem ofText_up : ofText ".." = [RawPath.dot, RawPath.dot] := by decide

theorem slash_of_mem_text (member : '/' ∈ (text octets).toList) : RawPath.slash ∈ octets := by
  rw [text, String.toList_ofList] at member
  have nothing : Sound none := fun b begun => absurd begun (Option.not_mem_none b)
  obtain ⟨octet, inside, same⟩ := mem_of_mem_read nothing member (by decide)
  have slash : octet = RawPath.slash := UInt8.toNat_inj.mp same
  rwa [← slash]

theorem slash_encoded {c : Char} (other : c ≠ '/') : RawPath.slash ∉ String.utf8EncodeChar c := by
  intro member
  by_cases short : c.toNat < 0x80
  · rw [encoded_short short, List.mem_singleton] at member
    have numbers := congrArg UInt8.toNat member
    rw [UInt8.toNat_ofNat', Nat.mod_eq_of_lt (by omega)] at numbers
    exact other (Char.toNat_inj.mp numbers.symm)
  · have long := encoded_long (by omega) _ member
    exact absurd long (by decide)

theorem splitWhere_ofText (cs : List Char) :
    Chars.splitWhere (· == RawPath.slash) (cs.flatMap String.utf8EncodeChar) =
      (Chars.splitWhere (· == '/') cs).map (·.flatMap String.utf8EncodeChar) := by
  induction cs with
  | nil => rfl
  | cons c cs ih =>
    obtain ⟨piece, pieces, cut⟩ := Chars.splitWhere_eq_cons (· == '/') cs
    rw [cut, List.map_cons] at ih
    rw [List.flatMap_cons]
    by_cases here : c = '/'
    · subst here
      rw [Chars.splitWhere_cut (by rfl), cut]
      exact (Chars.splitWhere_cut (by rfl) _).trans (congrArg ([] :: ·) ih)
    · have keep : (c == '/') = false := beq_eq_false_iff_ne.mpr here
      rw [Chars.splitWhere_keep (p := (· == '/')) keep cut]
      have uncut : ∀ octet ∈ String.utf8EncodeChar c, (octet == RawPath.slash) = false := by
        intro octet member
        rw [beq_eq_false_iff_ne]
        exact ne_of_mem_of_not_mem member (slash_encoded here)
      obtain ⟨front, last, pieces', joined⟩ := Chars.splitWhere_joined ih (String.utf8EncodeChar c)
      rw [Chars.splitWhere_of_uncut uncut] at pieces'
      obtain ⟨rfl, same⟩ : [] = front ∧ [String.utf8EncodeChar c] = [last] :=
        List.append_inj' pieces' rfl
      obtain rfl := (List.cons.inj same).1
      exact joined

end Octets

namespace RawPath

theorem segments_ofText (text : String) :
    (ofText text).segments = (Path.segments text).map Octets.ofText := by
  have pieces (cs : List Char) : Octets.ofText (String.ofList cs) = cs.flatMap String.utf8EncodeChar := by
    rw [Octets.ofText, String.toList_ofList]
  rw [segments, ofText, Octets.ofText, Octets.splitWhere_ofText, Path.segments, List.map_map]
  exact List.map_congr_left fun cs _ => (pieces cs).symm

/-- A part of a text as the system has it. -/
def Part.ofPart : Retrofit.Part → Part
  | .here | .up => .up
  | .name s => .name (Octets.ofText s)

theorem Part.of?_ofText (s : String) :
    Part.of? (Octets.ofText s) =
      if s = "" ∨ s = "." then none else if s = ".." then some .up else some (.name (Octets.ofText s)) := by
  have same {octets : List UInt8} {t : String} (form : Octets.ofText t = octets) :
      Octets.ofText s = octets ↔ s = t := by
    rw [← form]
    exact ⟨Octets.ofText_injective, congrArg Octets.ofText⟩
  simp only [Part.of?, same Octets.ofText_empty, same Octets.ofText_here, same Octets.ofText_up]

theorem parts_ofText (segments : List String) :
    (segments.map Octets.ofText).filterMap Part.of? = (Path.partsOf segments).map Part.ofPart := by
  induction segments with
  | nil => rfl
  | cons s rest ih =>
    rw [List.map_cons, List.filterMap_cons, Part.of?_ofText, ih, Path.partsOf]
    split_ifs <;> rfl

theorem fileName?_of_partsOf {text name : String}
    (last : (Path.partsOf (Path.segments text)).getLast? = some (.name name)) :
    (ofText text).fileName? = some (Octets.ofText name) := by
  rw [fileName?, components, segments_ofText, parts_ofText, List.getLast?_map, last]
  rfl

theorem text?_ofText (text : String) : (ofText text).text? = some text := by
  have back : Octets.text (ofText text).octets = text := Octets.text_ofText text
  rw [text?, back, if_pos rfl]

theorem eq_of_text? {p : RawPath} {text : String} (spelled : p.text? = some text) : p = ofText text := by
  unfold text? at spelled
  split at spelled
  · rename_i same
    rw [← same, Option.some.inj spelled]
  · cases spelled

/-- A name in a directory, as the system has it. -/
structure Clean (octets : List UInt8) : Prop where
  filled : octets ≠ []
  moves : octets ≠ [dot]
  descends : octets ≠ [dot, dot]
  single : slash ∉ octets

theorem Clean.normal {octets : List UInt8} (clean : Clean octets) :
    Path.Normal (Octets.text octets) := by
  obtain ⟨filled, moves, descends, single⟩ := clean
  have other {s : String} (short : ∀ c ∈ s.toList, c.toNat < 0x80) (other : octets ≠ Octets.ofText s) :
      Octets.text octets ≠ s :=
    mt (Octets.text_eq_short_iff short).mp other
  refine ⟨other (by simp) filled, other (by simp) ?_, other (by simp) ?_, ?_⟩
  · rwa [Octets.ofText_here]
  · rwa [Octets.ofText_up]
  · exact mt Octets.slash_of_mem_text single

variable {p : RawPath}

theorem clean_of_mem_parts {octets : List UInt8} (member : .name octets ∈ p.components.parts) :
    Clean octets := by
  obtain ⟨segment, inside, found⟩ := List.mem_filterMap.mp member
  have uncut := Chars.uncut_of_mem_splitWhere inside
  unfold Part.of? at found
  split_ifs at found with nothing up
  · cases found
  · obtain rfl := Part.name.inj (Option.some.inj found)
    rw [not_or] at nothing
    refine ⟨nothing.1, nothing.2, up, ?_⟩
    intro slash
    exact absurd (uncut _ slash) (by decide)

theorem clean_of_mem_names {parts : List Part} (inside : ∀ part ∈ parts, part ∈ p.components.parts)
    {octets : List UInt8} (member : octets ∈ parts.filterMap Part.name?) : Clean octets := by
  obtain ⟨part, here, found⟩ := List.mem_filterMap.mp member
  cases part with
  | up => cases found
  | name other =>
    cases found
    exact clean_of_mem_parts (inside _ here)

theorem parts_of_fileName {name : List UInt8} (last : p.fileName? = some name) :
    ∃ before, p.components.parts = before ++ [.name name] := by
  obtain ⟨part, final, named⟩ := Option.bind_eq_some_iff.mp last
  obtain ⟨before, parts⟩ := List.getLast?_eq_some_iff.mp final
  cases part with
  | up => cases named
  | name other =>
    cases named
    exact ⟨before, parts⟩

theorem names_of_fileName {name : List UInt8} (last : p.fileName? = some name) :
    p.names = p.above ++ [name] := by
  obtain ⟨before, parts⟩ := parts_of_fileName last
  rw [names, above, parts, List.dropLast_concat, List.filterMap_append]
  rfl

end RawPath

end Retrofit
