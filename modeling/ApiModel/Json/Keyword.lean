import ApiModel.Json.Basic

/-!
# Reading keywords

What a keyword of an object says, if it has a value of the right type. A value of another type says
as much as none.
-/

namespace ApiModel.Json

variable (v : Json) (key : String)

def has : Bool := (v.get? key).isSome

def text? : Option String := (v.get? key).bind (·.str?)

def flag? : Option Bool := (v.get? key).bind (·.bool?)

def list? : Option (List Json) := (v.get? key).bind (·.arr?)

def fields? : Option (List (String × Json)) := (v.get? key).bind (·.obj?)

/-- Whether the keyword is `true`. -/
def flag : Bool := (v.flag? key).getD false

/-- Whether the keyword is an object with at least one entry. -/
def hasEntries : Bool := !((v.fields? key).getD []).isEmpty

/-- Whether the keyword is an array with at least one item. -/
def hasItems : Bool := !((v.list? key).getD []).isEmpty

/-- The strings of an array; its other items are passed over. -/
def strings : List String := ((v.list? key).getD []).filterMap (·.str?)

/-- A whole number that is not negative. -/
def natural? : Option Nat := ((v.get? key).bind (·.num?)).bind (·.toNat?)

/-- Any number. -/
def float? : Option Binary64 := ((v.get? key).bind (·.num?)).map (·.toBinary64)

variable {v key}

theorem hasEntries_iff :
    v.hasEntries key ↔ ∃ field fields, v.get? key = some (.obj (field :: fields)) := by
  unfold hasEntries fields?
  rcases v.get? key with - | (- | - | - | - | - | (- | ⟨field, fields⟩)) <;> simp [obj?]

theorem hasItems_iff : v.hasItems key ↔ ∃ item items, v.get? key = some (.arr (item :: items)) := by
  unfold hasItems list?
  rcases v.get? key with - | (- | - | - | - | (- | ⟨item, items⟩) | -) <;> simp [arr?]

theorem mem_strings_iff {s : String} : s ∈ v.strings key ↔ .str s ∈ (v.list? key).getD [] := by
  simp only [strings, List.mem_filterMap]
  constructor
  · rintro ⟨w, hw, hs⟩
    cases w <;> cases hs
    exact hw
  · exact fun h => ⟨_, h, rfl⟩

end ApiModel.Json
