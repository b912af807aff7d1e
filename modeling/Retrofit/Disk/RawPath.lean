import Retrofit.Text.Blank
import Retrofit.Text.Octets

/-! Paths as the system has them, which are octets and need not be text. Slashes separate the parts; empty
parts and dots mean nothing. -/
namespace Retrofit

structure RawPath where
  octets : List UInt8
  deriving DecidableEq

namespace RawPath

def ofText (text : String) : RawPath := ⟨Octets.ofText text⟩

instance : Coe String RawPath := ⟨ofText⟩

/-- The text that the path is the form of. -/
def text? (p : RawPath) : Option String :=
  if ofText (Octets.text p.octets) = p then some (Octets.text p.octets) else none

inductive Part where
  | up
  | name (octets : List UInt8)
  deriving DecidableEq

def slash : UInt8 := 0x2F

def dot : UInt8 := 0x2E

def Part.of? (segment : List UInt8) : Option Part :=
  if segment = [] ∨ segment = [dot] then none
  else if segment = [dot, dot] then some .up
  else some (.name segment)

/-- What a path says: whether it begins at the root, and its parts that mean something. -/
structure Components where
  absolute : Bool
  parts : List Part
  deriving DecidableEq

def segments (p : RawPath) : List (List UInt8) :=
  Chars.splitWhere (· == slash) p.octets

def components (p : RawPath) : Components where
  absolute := p.octets.head? == some slash
  parts := p.segments.filterMap Part.of?

def Part.name? : Part → Option (List UInt8)
  | .up => none
  | .name octets => some octets

def fileName? (p : RawPath) : Option (List UInt8) :=
  p.components.parts.getLast?.bind Part.name?

/-- The names on the way to the last part. -/
def above (p : RawPath) : List (List UInt8) :=
  p.components.parts.dropLast.filterMap Part.name?

/-- All names on the path. -/
def names (p : RawPath) : List (List UInt8) :=
  p.components.parts.filterMap Part.name?

end RawPath

end Retrofit
