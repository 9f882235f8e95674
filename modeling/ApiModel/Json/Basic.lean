import ApiModel.Assoc
import ApiModel.Number.Binary64

/-!
# JSON values

Objects keep their keys in document order. Whole numbers and numbers with a fraction or an exponent
stay apart: `1` is not `1.0`. `child?` steps from a value to a key of an object or to an index of an
array, `at?` follows a whole path.
-/

namespace ApiModel

inductive Number
  | int (value : Int)
  | float (value : Binary64)
deriving DecidableEq

namespace Number

/-- The nearest floating-point number. -/
def toBinary64 : Number → Binary64
  | .int n => Binary64.ofInt n
  | .float x => x

/-- The value of a whole number that is not negative. -/
def toNat? : Number → Option Nat
  | .int n => if 0 ≤ n then some n.toNat else none
  | .float _ => none

end Number

inductive Json
  | null
  | bool (value : Bool)
  | num (value : Number)
  | str (value : String)
  | arr (items : List Json)
  | obj (fields : List (String × Json))
deriving Inhabited

/-- The keys from a root down to a node; an item of an array is keyed by its index. -/
abbrev Path := List String

namespace Json

def ofNat (n : Nat) : Json := .num (.int n)

def isNull : Json → Bool
  | .null => true
  | _ => false

def bool? : Json → Option Bool
  | .bool b => some b
  | _ => none

def num? : Json → Option Number
  | .num n => some n
  | _ => none

def str? : Json → Option String
  | .str s => some s
  | _ => none

def arr? : Json → Option (List Json)
  | .arr items => some items
  | _ => none

def obj? : Json → Option (List (String × Json))
  | .obj fields => some fields
  | _ => none

/-- The value at a key of an object. -/
def get? (v : Json) (key : String) : Option Json :=
  v.obj?.bind (Assoc.get? key)

/-- The values one step below, each with its key. -/
def children : Json → List (String × Json)
  | .obj fields => fields
  | .arr items => items.zipIdx.map fun (v, i) => (Nat.repr i, v)
  | _ => []

/-- An index is spelled in decimal, without sign and without leading zeros. -/
def child? (v : Json) (key : String) : Option Json :=
  Assoc.get? key v.children

theorem isSome_child? {v : Json} {key : String} (h : key ∈ v.children.map (·.1)) :
    (v.child? key).isSome := by
  rw [Option.isSome_iff_ne_none]
  exact fun hn => Assoc.get?_eq_none_iff.mp hn h

theorem isSome_obj?_of_get? {v w : Json} {key : String} (h : v.get? key = some w) : v.obj?.isSome := by
  cases ho : v.obj? with
  | none => simp [get?, ho] at h
  | some fields => rfl

theorem child?_eq_get? {v : Json} {key : String} (hv : v.obj?.isSome) : v.child? key = v.get? key := by
  cases v with
  | obj fields => rfl
  | _ => cases hv

theorem repr_injective {i j : Nat} (h : Nat.repr i = Nat.repr j) : i = j := by
  have hread := congrArg (fun s => Nat.ofDigitChars 10 s.toList 0) h
  simpa [Nat.repr_eq_ofList_toDigits] using hread

theorem child?_arr (items : List Json) (i : Nat) : (arr items).child? (Nat.repr i) = items[i]? := by
  have found : ∀ n, Assoc.get? (Nat.repr (n + i)) ((items.zipIdx n).map fun (v, j) => (Nat.repr j, v)) =
      items[i]? := by
    induction items generalizing i with
    | nil => exact fun _ => rfl
    | cons v items ih =>
      intro n
      rw [List.zipIdx_cons, List.map_cons, Assoc.get?]
      cases i with
      | zero => exact if_pos rfl
      | succ i =>
        rw [if_neg fun he => by have := repr_injective he; omega, List.getElem?_cons_succ, ← ih i (n + 1)]
        congr 2
        omega
  simpa [child?, children] using found 0

def at? (v : Json) : Path → Option Json
  | [] => some v
  | key :: path => (v.child? key).bind (·.at? path)

@[simp] theorem at?_nil (v : Json) : v.at? [] = some v := rfl

theorem at?_cons (v : Json) (key : String) (path : Path) :
    v.at? (key :: path) = (v.child? key).bind (·.at? path) := rfl

theorem at?_append (v : Json) (p q : Path) : v.at? (p ++ q) = (v.at? p).bind (·.at? q) := by
  induction p generalizing v with
  | nil => simp
  | cons k p ih =>
    simp only [List.cons_append, at?_cons]
    cases v.child? k with
    | none => rfl
    | some w => simp [ih]

/-- The entries of an object that are not extensions, and no others, describe the document. -/
def isExtensionKey (key : String) : Bool := key.toList.take 2 = ['x', '-']

/-- The keys of an object that are not extensions. -/
def entryKeys (v : Json) : List String :=
  (v.obj?.getD []).filterMap fun (k, _) => if isExtensionKey k then none else some k

theorem entryKeys_obj (fields : List (String × Json)) :
    (obj fields).entryKeys = (fields.map (·.1)).filter fun key => !isExtensionKey key := by
  rw [entryKeys, ← List.filterMap_eq_filter, List.filterMap_map]
  refine congrArg (fun g => List.filterMap g fields) (funext fun field => ?_)
  cases h : isExtensionKey field.1 <;> simp [Option.guard, h]

/-- The extensions of an object. -/
def extensions (v : Json) : List (String × Json) :=
  (v.obj?.getD []).filter fun (k, _) => isExtensionKey k

/-- The number of items of an array. -/
def itemCount (v : Json) : Nat := (v.arr?.getD []).length

end Json

end ApiModel
