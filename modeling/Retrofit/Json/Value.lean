import Retrofit.Binary64.Basic

/-! JSON documents. An object keeps its members as they were written, repeated keys included; the last
member of a key is the one that counts. -/
namespace Retrofit.Json

inductive Number where
  | integer (n : Int)
  | real (x : Binary64)
  deriving DecidableEq

inductive Value where
  | null
  | bool (b : Bool)
  | number (n : Number)
  | text (s : String)
  | array (items : List Value)
  | object (members : List (String × Value))
  deriving Nonempty

/-- The last member with the given key. -/
def lastMember? (key : String) : List (String × Value) → Option Value
  | [] => none
  | (k, v) :: rest =>
    match lastMember? key rest with
    | some w => some w
    | none => if k = key then some v else none

end Retrofit.Json
