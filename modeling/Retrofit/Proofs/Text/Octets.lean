import Mathlib.Tactic.Ring
import Retrofit.Text.Octets

/-! What reading octets as text keeps. A text is read back from its form. Of other octets at least those
are kept that are characters by themselves, and no such character comes from anything else. -/
namespace Retrofit.Octets

namespace Begun

/-- The least value that the character can have. -/
def low (b : Begun) : Nat := (b.value * 64 + (b.least - 0x80)) * 64 ^ b.beyond

/-- The values that the character can have are all less than this. -/
def top (b : Begun) : Nat := (b.value * 64 + (b.greatest - 0x80) + 1) * 64 ^ b.beyond

/-- Whatever octets complete it, the character has a value that characters have, and one that takes more
than one octet. -/
structure Sound (b : Begun) : Prop where
  long : 0x80 ≤ b.low
  valid : b.top ≤ 0xD800 ∨ 0xE000 ≤ b.low ∧ b.top ≤ 0x110000

theorem of?_sound {octet : Nat} {b : Begun} (found : of? octet = some b) : b.Sound := by
  unfold of? at found
  split_ifs at found
  all_goals
    rw [← Option.some.inj found]
    constructor
    all_goals
      simp only [low, top]
      omega

end Begun

/-- What has begun, if anything, is sound. -/
def Sound (begun : Option Begun) : Prop := ∀ b ∈ begun, b.Sound

theorem toNat_ofNat_of_valid {n : Nat} (valid : n.isValidChar) : (Char.ofNat n).toNat = n := by
  rw [Char.ofNat, dif_pos valid]
  rfl

theorem toNat_mark : mark.toNat = 0xFFFD := by decide

/-- What one octet does: of the characters it completes, those that are short are the octet itself, and what
it begins is sound again. -/
structure Proceeds (octet : Nat) (result : List Char × Option Begun) : Prop where
  short : ∀ c ∈ result.1, c.toNat < 0x80 → c.toNat = octet
  sound : Sound result.2

theorem first_proceeds (octet : Nat) : Proceeds octet (first octet) := by
  unfold first
  split
  · rename_i plain
    refine ⟨?_, fun b begun => absurd begun (Option.not_mem_none b)⟩
    intro c member _
    rw [List.mem_singleton] at member
    rw [member]
    exact toNat_ofNat_of_valid (.inl (by omega))
  · split
    · rename_i b found
      refine ⟨fun c member => absurd member List.not_mem_nil, ?_⟩
      intro b' begun
      cases begun
      exact Begun.of?_sound found
    · refine ⟨?_, fun b begun => absurd begun (Option.not_mem_none b)⟩
      intro c member bound
      rw [List.mem_singleton] at member
      rw [member, toNat_mark] at bound
      omega

theorem next_completed {b : Begun} (sound : b.Sound) (last : b.beyond = 0) {octet : Nat}
    (least : b.least ≤ octet) (greatest : octet ≤ b.greatest) :
    (Char.ofNat (b.value * 64 + (octet - 0x80))).toNat = b.value * 64 + (octet - 0x80) ∧
      0x80 ≤ b.value * 64 + (octet - 0x80) := by
  obtain ⟨long, valid⟩ := sound
  simp only [Begun.low, Begun.top, last, Nat.pow_zero, Nat.mul_one] at long valid
  refine ⟨toNat_ofNat_of_valid ?_, by omega⟩
  unfold Nat.isValidChar
  omega

theorem next_begun {b : Begun} (sound : b.Sound) {n : Nat} (more : b.beyond = n + 1) {octet : Nat}
    (least : b.least ≤ octet) (greatest : octet ≤ b.greatest) :
    (Begun.mk (b.value * 64 + (octet - 0x80)) n 0x80 0xBF).Sound := by
  obtain ⟨long, valid⟩ := sound
  simp only [Begun.low, Begun.top, more, Nat.pow_succ] at long valid
  -- the values that are left are among those there were
  have low : (b.value * 64 + (b.least - 0x80)) * (64 ^ n * 64) ≤
      (b.value * 64 + (octet - 0x80)) * (64 ^ n * 64) :=
    Nat.mul_le_mul_right _ (by omega)
  have top : (b.value * 64 + (octet - 0x80) + 1) * (64 ^ n * 64) ≤
      (b.value * 64 + (b.greatest - 0x80) + 1) * (64 ^ n * 64) :=
    Nat.mul_le_mul_right _ (by omega)
  have low' : ((b.value * 64 + (octet - 0x80)) * 64 + (0x80 - 0x80)) * 64 ^ n =
      (b.value * 64 + (octet - 0x80)) * (64 ^ n * 64) := by ring
  have top' : ((b.value * 64 + (octet - 0x80)) * 64 + (0xBF - 0x80) + 1) * 64 ^ n =
      (b.value * 64 + (octet - 0x80) + 1) * (64 ^ n * 64) := by ring
  constructor
  · simp only [Begun.low, low']
    omega
  · simp only [Begun.low, Begun.top, low', top']
    omega

theorem step_proceeds {begun : Option Begun} (sound : Sound begun) (octet : Nat) :
    Proceeds octet (step begun octet) := by
  cases begun with
  | none => exact first_proceeds octet
  | some b =>
    have here : b.Sound := sound b rfl
    unfold step next
    dsimp only
    split
    · rename_i bounds
      split
      · rename_i last
        obtain ⟨value, long⟩ := next_completed here last bounds.1 bounds.2
        refine ⟨?_, fun b begun => absurd begun (Option.not_mem_none b)⟩
        intro c member short
        rw [List.mem_singleton] at member
        rw [member, value] at short
        omega
      · rename_i n more
        refine ⟨fun c member => absurd member List.not_mem_nil, ?_⟩
        intro b' begun
        obtain rfl := Option.some.inj begun
        exact next_begun here more bounds.1 bounds.2
    · obtain ⟨short, later⟩ := first_proceeds octet
      refine ⟨?_, later⟩
      rw [List.forall_mem_cons]
      refine ⟨?_, short⟩
      intro bound
      rw [toNat_mark] at bound
      omega

theorem read_cons (begun : Option Begun) (octet : UInt8) (rest : List UInt8) :
    read begun (octet :: rest) =
      (step begun octet.toNat).1 ++ read (step begun octet.toNat).2 rest := by
  cases begun <;> rfl

/-- A short character is an octet of what was read. -/
theorem mem_of_mem_read {begun : Option Begun} (sound : Sound begun) {octets : List UInt8} {c : Char}
    (member : c ∈ read begun octets) (short : c.toNat < 0x80) : ∃ octet ∈ octets, octet.toNat = c.toNat := by
  induction octets generalizing begun with
  | nil =>
    cases begun with
    | none => cases member
    | some b =>
      rw [read, List.mem_singleton] at member
      rw [member, toNat_mark] at short
      omega
  | cons octet rest ih =>
    obtain ⟨here, later⟩ := step_proceeds sound octet.toNat
    rw [read_cons, List.mem_append] at member
    rcases member with completed | behind
    · exact ⟨octet, List.mem_cons_self, (here c completed short).symm⟩
    · obtain ⟨other, inside, same⟩ := ih later behind
      exact ⟨other, List.mem_cons_of_mem _ inside, same⟩

/-- What has begun ends in a character that is not short, whatever follows. -/
theorem read_some {b : Begun} (sound : b.Sound) (octets : List UInt8) :
    ∃ c cs, read (some b) octets = c :: cs ∧ 0x80 ≤ c.toNat := by
  induction octets generalizing b with
  | nil => exact ⟨mark, [], rfl, by decide⟩
  | cons octet rest ih =>
    rw [read_cons, step, next]
    split
    · rename_i bounds
      split
      · rename_i last
        obtain ⟨value, long⟩ := next_completed sound last bounds.1 bounds.2
        exact ⟨_, _, rfl, value.symm ▸ long⟩
      · rename_i n more
        exact ih (next_begun sound more bounds.1 bounds.2)
    · exact ⟨mark, _, rfl, by decide⟩

/-- Short characters only come from their own octets. -/
theorem toNat_of_read_short {octets : List UInt8} (short : ∀ c ∈ read none octets, c.toNat < 0x80) :
    octets.map (·.toNat) = (read none octets).map (·.toNat) := by
  induction octets with
  | nil => rfl
  | cons octet rest ih =>
    rw [read_cons, step, first] at short ⊢
    split at short
    · rename_i plain
      rw [List.singleton_append, List.forall_mem_cons] at short
      rw [if_pos plain, List.singleton_append, List.map_cons, List.map_cons, ih short.2,
        toNat_ofNat_of_valid (.inl (by omega))]
    · split at short
      · rename_i b found
        obtain ⟨c, cs, begins, long⟩ := read_some (Begun.of?_sound found) rest
        have bound := short c (by rw [List.nil_append, begins]; exact List.mem_cons_self)
        omega
      · have bound := short mark List.mem_cons_self
        rw [toNat_mark] at bound
        omega

/-! The form of a text -/

theorem encoded_short {c : Char} (short : c.toNat < 0x80) :
    String.utf8EncodeChar c = [UInt8.ofNat c.toNat] := by
  unfold String.utf8EncodeChar
  exact if_pos (Nat.le_of_lt_succ short)

theorem encoded_long {c : Char} (long : 0x80 ≤ c.toNat) :
    ∀ octet ∈ String.utf8EncodeChar c, 0x80 ≤ octet.toNat := by
  have valid := c.valid
  change c.toNat.isValidChar at valid
  unfold String.utf8EncodeChar
  change ∀ octet ∈ (if c.toNat ≤ 127 then _ else _), _
  rw [if_neg (by omega)]
  split_ifs
  all_goals
    simp only [List.forall_mem_cons, List.not_mem_nil, false_imp_iff, implies_true, and_true,
      UInt8.toNat_ofNat']
    omega

theorem read_short {octet : UInt8} (short : octet.toNat < 0x80) (rest : List UInt8) :
    read none (octet :: rest) = Char.ofNat octet.toNat :: read none rest := by
  rw [read_cons, step, first, if_pos short]
  rfl

theorem read_begin {octet : UInt8} {b : Begun} (long : 0x80 ≤ octet.toNat)
    (begun : Begun.of? octet.toNat = some b) (rest : List UInt8) :
    read none (octet :: rest) = read (some b) rest := by
  rw [read_cons, step, first, if_neg (by omega), begun]
  rfl

section Behind

variable {value least greatest : Nat} {octet : UInt8}

theorem read_more (bounds : least ≤ octet.toNat ∧ octet.toNat ≤ greatest) (n : Nat) (rest : List UInt8) :
    read (some ⟨value, n + 1, least, greatest⟩) (octet :: rest) =
      read (some ⟨value * 64 + (octet.toNat - 0x80), n, 0x80, 0xBF⟩) rest := by
  rw [read_cons, step, next, if_pos bounds]
  rfl

theorem read_last (bounds : least ≤ octet.toNat ∧ octet.toNat ≤ greatest) (rest : List UInt8) :
    read (some ⟨value, 0, least, greatest⟩) (octet :: rest) =
      Char.ofNat (value * 64 + (octet.toNat - 0x80)) :: read none rest := by
  rw [read_cons, step, next, if_pos bounds]
  rfl

end Behind

namespace Begun

theorem of?_two (n : Nat) (least : 2 ≤ n) (greatest : n < 32) :
    of? (n + 0xC0) = some ⟨n, 0, 0x80, 0xBF⟩ := by
  rw [of?, if_pos (by omega), Nat.add_sub_cancel]

/-- The bounds for the second octet of three let every character through that takes three. -/
theorem of?_three (n second : Nat) (bound : n < 16) (within : second < 64)
    (long : 0x800 ≤ (n * 64 + second) * 64) (valid : n * 64 + second < 0x360 ∨ 0x380 ≤ n * 64 + second) :
    ∃ least greatest, of? (n + 0xE0) = some ⟨n, 1, least, greatest⟩ ∧
      least ≤ second + 0x80 ∧ second + 0x80 ≤ greatest := by
  rw [of?, if_neg (by omega)]
  split_ifs
  · obtain rfl : n = 0 := by omega
    exact ⟨_, _, rfl, by omega, by omega⟩
  · obtain rfl : n = 0xD := by omega
    exact ⟨_, _, rfl, by omega, by omega⟩
  · rw [Nat.add_sub_cancel]
    exact ⟨_, _, rfl, by omega, by omega⟩
  all_goals omega

/-- The bounds for the second octet of four let every character through that takes four. -/
theorem of?_four (n second : Nat) (within : second < 64) (long : 0x10 ≤ n * 64 + second)
    (valid : n * 64 + second < 0x110) :
    ∃ least greatest, of? (n + 0xF0) = some ⟨n, 2, least, greatest⟩ ∧
      least ≤ second + 0x80 ∧ second + 0x80 ≤ greatest := by
  rw [of?, if_neg (by omega), if_neg (by omega), if_neg (by omega), if_neg (by omega)]
  split_ifs
  · obtain rfl : n = 0 := by omega
    exact ⟨_, _, rfl, by omega, by omega⟩
  · rw [Nat.add_sub_cancel]
    exact ⟨_, _, rfl, by omega, by omega⟩
  · obtain rfl : n = 4 := by omega
    exact ⟨_, _, rfl, by omega, by omega⟩
  · omega

end Begun

theorem toNat_following (n : Nat) : (UInt8.ofNat (n % 64 + 128)).toNat = n % 64 + 0x80 := by
  rw [UInt8.toNat_ofNat', Nat.mod_eq_of_lt (by omega)]

theorem following_bounds (n : Nat) : 0x80 ≤ n % 64 + 0x80 ∧ n % 64 + 0x80 ≤ 0xBF := by omega

theorem utf8EncodeChar_eq (c : Char) :
    String.utf8EncodeChar c =
      let n := c.toNat
      if n ≤ 0x7F then [UInt8.ofNat n]
      else if n ≤ 0x7FF then [UInt8.ofNat (n / 64 % 32 + 192), UInt8.ofNat (n % 64 + 128)]
      else if n ≤ 0xFFFF then
        [UInt8.ofNat (n / 4096 % 16 + 224), UInt8.ofNat (n / 64 % 64 + 128), UInt8.ofNat (n % 64 + 128)]
      else
        [UInt8.ofNat (n / 262144 % 8 + 240), UInt8.ofNat (n / 4096 % 64 + 128),
          UInt8.ofNat (n / 64 % 64 + 128), UInt8.ofNat (n % 64 + 128)] :=
  rfl

/-- A character is read back from its form. -/
theorem read_encoded (c : Char) (rest : List UInt8) :
    read none (String.utf8EncodeChar c ++ rest) = c :: read none rest := by
  have valid : c.toNat.isValidChar := c.valid
  unfold Nat.isValidChar at valid
  have back {n : Nat} (same : n = c.toNat) : Char.ofNat n = c := by rw [same, Char.ofNat_toNat]
  rw [utf8EncodeChar_eq]
  dsimp only
  split_ifs with one two three
  · have short : (UInt8.ofNat c.toNat).toNat = c.toNat := by
      rw [UInt8.toNat_ofNat', Nat.mod_eq_of_lt (by omega)]
    rw [List.singleton_append, read_short (by omega), back short]
  · have head : (UInt8.ofNat (c.toNat / 64 % 32 + 192)).toNat = c.toNat / 64 + 0xC0 := by
      rw [UInt8.toNat_ofNat']
      omega
    have begun := Begun.of?_two (c.toNat / 64) (by omega) (by omega)
    simp only [List.cons_append, List.nil_append]
    rw [read_begin (by omega) (head ▸ begun), read_last (by rw [toNat_following]; exact following_bounds _),
      toNat_following, back (by omega)]
  · have head : (UInt8.ofNat (c.toNat / 4096 % 16 + 224)).toNat = c.toNat / 4096 + 0xE0 := by
      rw [UInt8.toNat_ofNat']
      omega
    obtain ⟨least, greatest, begun, bounds⟩ := Begun.of?_three (c.toNat / 4096) (c.toNat / 64 % 64)
      (by omega) (by omega) (by omega) (by omega)
    simp only [List.cons_append, List.nil_append]
    rw [read_begin (by omega) (head ▸ begun), read_more (by rw [toNat_following]; exact bounds),
      read_last (by rw [toNat_following]; exact following_bounds _), toNat_following, toNat_following,
      back (by omega)]
  · have head : (UInt8.ofNat (c.toNat / 262144 % 8 + 240)).toNat = c.toNat / 262144 + 0xF0 := by
      rw [UInt8.toNat_ofNat']
      omega
    obtain ⟨least, greatest, begun, bounds⟩ := Begun.of?_four (c.toNat / 262144) (c.toNat / 4096 % 64)
      (by omega) (by omega) (by omega)
    simp only [List.cons_append, List.nil_append]
    rw [read_begin (by omega) (head ▸ begun), read_more (by rw [toNat_following]; exact bounds),
      read_more (by rw [toNat_following]; exact following_bounds _),
      read_last (by rw [toNat_following]; exact following_bounds _), toNat_following, toNat_following,
      toNat_following, back (by omega)]

theorem read_ofText (cs : List Char) : read none (cs.flatMap String.utf8EncodeChar) = cs := by
  induction cs with
  | nil => rfl
  | cons c cs ih => rw [List.flatMap_cons, read_encoded, ih]

@[simp]
theorem text_ofText (s : String) : text (ofText s) = s := by
  rw [text, ofText, read_ofText, String.ofList_toList]

theorem ofText_injective {s t : String} (same : ofText s = ofText t) : s = t := by
  rw [← text_ofText s, same, text_ofText]

theorem toNat_encoded_short {cs : List Char} (short : ∀ c ∈ cs, c.toNat < 0x80) :
    (cs.flatMap String.utf8EncodeChar).map (·.toNat) = cs.map (·.toNat) := by
  induction cs with
  | nil => rfl
  | cons c cs ih =>
    rw [List.forall_mem_cons] at short
    have bound := short.1
    rw [List.flatMap_cons, encoded_short bound, List.map_append, ih short.2, List.map_singleton,
      UInt8.toNat_ofNat', Nat.mod_eq_of_lt (by omega)]
    rfl

/-- Octets that are read as short characters are the form of them. -/
theorem text_eq_short_iff {octets : List UInt8} {s : String} (short : ∀ c ∈ s.toList, c.toNat < 0x80) :
    text octets = s ↔ octets = ofText s := by
  refine ⟨?_, ?_⟩
  · rintro rfl
    rw [text, String.toList_ofList] at short
    have numbers : octets.map (·.toNat) = (ofText (text octets)).map (·.toNat) := by
      rw [ofText, text, String.toList_ofList, toNat_encoded_short short, toNat_of_read_short short]
    exact (List.map_inj_right fun _ _ => UInt8.toNat_inj.mp).mp numbers
  · rintro rfl
    exact text_ofText s

end Retrofit.Octets
