/-! Octets as text. A text has one form in octets, but octets need not be the form of a text. Where they
are not, reading them loses something: a mark is put in the place of each part that begins no character. -/
namespace Retrofit.Octets

/-- The form of a text. -/
def ofText (text : String) : List UInt8 :=
  text.toList.flatMap String.utf8EncodeChar

def mark : Char := '\uFFFD'

/-- A character that has begun: its value so far, how many octets follow the next one, and between which
bounds the next one has to be. -/
structure Begun where
  value : Nat
  beyond : Nat
  least : Nat
  greatest : Nat
  deriving DecidableEq

/-- What the first octet of a character of more than one begins. The bounds leave out values that have a
shorter form, surrogates, and values that are too large. -/
def Begun.of? (octet : Nat) : Option Begun :=
  if 0xC2 ≤ octet ∧ octet ≤ 0xDF then some ⟨octet - 0xC0, 0, 0x80, 0xBF⟩
  else if octet = 0xE0 then some ⟨0, 1, 0xA0, 0xBF⟩
  else if octet = 0xED then some ⟨0xD, 1, 0x80, 0x9F⟩
  else if 0xE1 ≤ octet ∧ octet ≤ 0xEF then some ⟨octet - 0xE0, 1, 0x80, 0xBF⟩
  else if octet = 0xF0 then some ⟨0, 2, 0x90, 0xBF⟩
  else if 0xF1 ≤ octet ∧ octet ≤ 0xF3 then some ⟨octet - 0xF0, 2, 0x80, 0xBF⟩
  else if octet = 0xF4 then some ⟨4, 2, 0x80, 0x8F⟩
  else none

/-- An octet with nothing before it: the characters that it completes, and what it begins. -/
def first (octet : Nat) : List Char × Option Begun :=
  if octet < 0x80 then ([Char.ofNat octet], none)
  else
    match Begun.of? octet with
    | some begun => ([], some begun)
    | none => ([mark], none)

/-- An octet behind what has begun. If it is out of bounds, it is read as a first one. -/
def next (begun : Begun) (octet : Nat) : List Char × Option Begun :=
  if begun.least ≤ octet ∧ octet ≤ begun.greatest then
    let value := begun.value * 64 + (octet - 0x80)
    match begun.beyond with
    | 0 => ([Char.ofNat value], none)
    | n + 1 => ([], some ⟨value, n, 0x80, 0xBF⟩)
  else
    let (completed, later) := first octet
    (mark :: completed, later)

def step : Option Begun → Nat → List Char × Option Begun
  | none => first
  | some begun => next begun

def read : Option Begun → List UInt8 → List Char
  | none, [] => []
  | some _, [] => [mark]
  | begun, octet :: rest =>
    let (completed, later) := step begun octet.toNat
    completed ++ read later rest

/-- The octets as text, with marks where they are none. -/
def text (octets : List UInt8) : String := String.ofList (read none octets)

end Retrofit.Octets
