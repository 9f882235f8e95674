import ApiModel.Json.Basic
import ApiModel.Text.Percent
import ApiModel.Text.Split

/-!
# JSON pointers

A pointer into the document is `#`, then a slash and an escaped key for every step. `ofPath` writes
the pointer of a path, `segments` reads a pointer of a reference, in which keys may hold percent
escapes, and `literal?` reads one without them. Escaping is undone by `unescape` (`unescape_escape`)
and leaves no slash in a key (`slash_notMem_escape`).
-/

namespace ApiModel.Pointer

/-- A tilde becomes `~0` and a slash `~1`. -/
def escape (key : List Char) : List Char :=
  key.flatMap fun c => if c = '~' then ['~', '0'] else if c = '/' then ['~', '1'] else [c]

theorem escape_cons (c : Char) (key : List Char) :
    escape (c :: key) =
      (if c = '~' then ['~', '0'] else if c = '/' then ['~', '1'] else [c]) ++ escape key :=
  List.flatMap_cons

theorem escape_eq_nil_iff {key : List Char} : escape key = [] ↔ key = [] := by
  cases key with
  | nil => simp [escape]
  | cons c key =>
    rw [escape_cons]
    split
    · simp
    · split <;> simp

/-- Reads `~1` as a slash and `~0` as a tilde; other tildes stand for themselves. -/
def unescape : List Char → List Char
  | '~' :: '1' :: cs => '/' :: unescape cs
  | '~' :: '0' :: cs => '~' :: unescape cs
  | c :: cs => c :: unescape cs
  | [] => []

theorem unescape_escape (key : List Char) : unescape (escape key) = key := by
  induction key with
  | nil => simp [escape, unescape]
  | cons c key ih =>
    simp only [escape, List.flatMap_cons] at ih ⊢
    by_cases h : c = '~'
    · simp [h, unescape, ih]
    · by_cases h' : c = '/'
      · simp [h', unescape, ih]
      · simp only [h, h', if_false, List.cons_append, List.nil_append]
        rw [unescape, ih] <;> simp [h]

theorem escape_injective {k k' : List Char} (h : escape k = escape k') : k = k' := by
  rw [← unescape_escape k, h, unescape_escape]

theorem slash_notMem_escape (key : List Char) : '/' ∉ escape key := by
  simp only [escape, List.mem_flatMap, not_exists, not_and]
  intro c _
  split
  · simp
  · split
    · simp
    · rename_i h; simp [Ne.symm h]

/-- The written form of a key. -/
def encodeKey (key : String) : String := String.ofList (escape key.toList)

/-- The key that a segment of a reference means. -/
def decodeKey (segment : String) : String :=
  Percent.decode (String.ofList (unescape segment.toList))

theorem decodeKey_escape (key : String) :
    decodeKey (String.ofList (escape key.toList)) = Percent.decode key := by
  rw [decodeKey, String.toList_ofList, unescape_escape, String.ofList_toList]

theorem encodeKey_injective {key key' : String} (h : encodeKey key = encodeKey key') : key = key' :=
  String.toList_inj.mp (escape_injective (String.ofList_injective h))

theorem unescape_ne_nil {cs : List Char} (h : cs ≠ []) : unescape cs ≠ [] := by
  fun_cases unescape cs with
  | case1 | case2 | case3 => exact List.cons_ne_nil _ _
  | case4 => exact absurd rfl h

theorem decodeKey_ne_empty {part : List Char} (h : part ≠ []) :
    decodeKey (String.ofList part) ≠ "" := by
  rw [decodeKey, String.toList_ofList]
  exact Percent.decode_ne_empty fun he => unescape_ne_nil h (String.ofList_injective he)

/-! ### Pointers -/

/-- One step down from a pointer. -/
def join (pointer key : String) : String := pointer ++ "/" ++ encodeKey key

/-- The pointer of a path. -/
def ofPath (path : Path) : String := path.foldl join "#"

theorem ofPath_append_singleton (path : Path) (key : String) :
    ofPath (path ++ [key]) = join (ofPath path) key := by
  simp [ofPath]

/-- The keys that a pointer of a reference means: the text after all leading number signs and
slashes, divided at the slashes. -/
def segments (pointer : String) : Path :=
  let body := pointer.toList.dropWhile (· = '#')
  if body.isEmpty then []
  else (Split.parts '/' (body.dropWhile (· = '/'))).map fun part => decodeKey (String.ofList part)

/-- The pointer of the path that a pointer of a reference means. -/
def canonical (pointer : String) : String := ofPath (segments pointer)

/-- The keys of a pointer that has no percent escapes: the text after all leading number signs is
empty or starts with a slash. -/
def literal? (pointer : String) : Option Path :=
  match pointer.toList.dropWhile (· = '#') with
  | [] => some []
  | '/' :: rest => some ((Split.parts '/' rest).map fun part => String.ofList (unescape part))
  | _ => none

theorem toList_ofPath (path : Path) :
    (ofPath path).toList = '#' :: path.flatMap fun key => '/' :: escape key.toList := by
  have fold : ∀ start : String, (path.foldl join start).toList =
      start.toList ++ path.flatMap fun key => '/' :: escape key.toList := by
    induction path with
    | nil => simp
    | cons key path ih => simp [ih, join, encodeKey]
  exact fold "#"

/-- Reading the pointer of a path gives the path back. -/
theorem literal?_ofPath (path : Path) : literal? (ofPath path) = some path := by
  unfold literal?
  rw [toList_ofPath]
  cases path with
  | nil => rfl
  | cons key path =>
    have hparts : Split.parts '/'
          (escape key.toList ++ path.flatMap fun key => '/' :: escape key.toList) =
        (key :: path).map fun key => escape key.toList :=
      Split.parts_flatMap (fun key => slash_notMem_escape key.toList) key path
    simp only [List.flatMap_cons, List.cons_append, List.dropWhile_cons]
    simp [hparts, unescape_escape, Function.comp_def]

theorem ofPath_injective {path path' : Path} (h : ofPath path = ofPath path') : path = path' := by
  rw [← Option.some.injEq, ← literal?_ofPath path, h, literal?_ofPath]

/-- The name that a path gives to what it leads to: its last key, read as in a reference. -/
def nameOfPath (path : Path) : Option String :=
  (path.getLast?.map Percent.decode).filter (· ≠ "")

theorem nameOfPath_append_singleton (path : Path) {key : String} (h : key ≠ "") :
    nameOfPath (path ++ [key]) = some (Percent.decode key) := by
  simp [nameOfPath, Percent.decode_ne_empty h]

/-- The name that a pointer of a reference gives to its target. -/
def declaredName? (pointer : String) : Option String :=
  (segments pointer).getLast?.filter (· ≠ "")

end ApiModel.Pointer
