import Retrofit.Json.Token

/-! Reading a document without a schema. Lists and objects nest at most 127 deep. -/
namespace Retrofit.Json

def deepest : Nat := 127

def wordValue (rest : List Char) (v : Value) : Reader Value := fun cs =>
  match word rest cs with
  | .ok r => .ok (v, r)
  | .error f => .error f

/-- A value, given a reader for the values inside it; there is none at the greatest depth. -/
def valueAround (limit : Nat) (inner : Option (Reader Value)) : Reader Value := fun cs =>
  match skipSpace cs with
  | [] => past .endInValue []
  | c :: r =>
    if c = 'n' then wordValue ['u', 'l', 'l'] .null r
    else if c = 't' then wordValue ['r', 'u', 'e'] (.bool true) r
    else if c = 'f' then wordValue ['a', 'l', 's', 'e'] (.bool false) r
    else if c = '-' || c.isDigit then do
      let (n, r') ← number (c :: r)
      return (.number n, r')
    else if c = '"' then do
      let (s, r') ← textTail limit r
      return (.text s, r')
    else if c = '[' then
      match inner with
      | none => past .tooDeep (c :: r)
      | some inner => do
        let (vs, r') ← items inner (limit + 1) [] r
        return (.array vs, r')
    else if c = '{' then
      match inner with
      | none => past .tooDeep (c :: r)
      | some inner => do
        let member (key : String) (seen : List (String × Value)) : Reader (List (String × Value)) :=
          fun cs => do
            let (v, r) ← inner (← colon cs)
            return ((key, v) :: seen, r)
        let (ms, r') ← members limit member (limit + 1) true [] r
        return (.object ms.reverse, r')
    else past .expectedValue (c :: r)

/-- A value with at most `depth` lists and objects around its innermost part. -/
def valueWithin (limit : Nat) : Nat → Reader Value
  | 0 => valueAround limit none
  | depth + 1 => valueAround limit (some (valueWithin limit depth))

def parse (text : String) : Except Fault Value := do
  let cs := text.toList
  let (v, r) ← valueWithin cs.length deepest cs
  finished v r

end Retrofit.Json
