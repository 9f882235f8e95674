import ApiModel.Proofs.TargetNames

/-!
# Keys as segments of pointers

A key is written by two replacements in a row, tildes first, and a segment is read by two others in a
row and then the reading of percent escapes (`escape_eq_replace`, `unescape_eq_replace`). The order
matters: what one replacement writes may hold what the next one looks for. A key that is written and
read back is the key with its percent escapes read, and so is each key of a pointer
(`written_keys_read_back`).
-/

namespace ApiModel

namespace Text

/-- Every occurrence of the text that starts with `c` and goes on with `more` becomes `new`. Occurrences
are looked for from the left and do not overlap. -/
def replace (c : Char) (more new : List Char) : List Char → List Char
  | [] => []
  | a :: cs =>
    if a = c ∧ more <+: cs then new ++ replace c more new (cs.drop more.length)
    else a :: replace c more new cs
termination_by cs => cs.length
decreasing_by all_goals simp only [List.length_cons, List.length_drop]; omega

variable {a c d : Char} {more new cs : List Char}

theorem replace_of_occurs (cs : List Char) :
    replace c more new (c :: (more ++ cs)) = new ++ replace c more new cs := by
  rw [replace, if_pos ⟨rfl, List.prefix_append more cs⟩, List.drop_left]

theorem replace_of_not_occurs (h : ¬ (a = c ∧ more <+: cs)) :
    replace c more new (a :: cs) = a :: replace c more new cs := by
  rw [replace, if_neg h]

/-- A single character is replaced wherever it stands. -/
theorem replace_nil (cs : List Char) :
    replace c [] new cs = cs.flatMap fun a => if a = c then new else [a] := by
  induction cs with
  | nil => simp [replace]
  | cons a cs ih =>
    rw [List.flatMap_cons, ← ih]
    by_cases ha : a = c
    · rw [if_pos ha, ha]
      exact replace_of_occurs cs
    · rw [if_neg ha, replace_of_not_occurs (fun h => ha h.1)]
      rfl

end Text

namespace Pointer

open Text (replace)

theorem escape_eq_replace (key : List Char) :
    escape key = replace '/' [] ['~', '1'] (replace '~' [] ['~', '0'] key) := by
  rw [Text.replace_nil, Text.replace_nil, List.flatMap_assoc, escape]
  refine List.flatMap_congr fun c _ => ?_
  by_cases htilde : c = '~'
  · simp [htilde]
  · simp [htilde]

/-- Reading the slashes leaves the first character as it is, or makes it a slash. -/
theorem head?_replace_slash {c : Char} {cs : List Char}
    (h : (replace '~' ['1'] ['/'] cs).head? = some c) : c = '/' ∨ cs.head? = some c := by
  cases cs with
  | nil => simp [replace] at h
  | cons a cs =>
    rw [replace] at h
    split at h
    · exact .inl (Option.some.inj h).symm
    · exact .inr h

theorem unescape_eq_replace (cs : List Char) :
    unescape cs = replace '~' ['0'] ['~'] (replace '~' ['1'] ['/'] cs) := by
  fun_induction unescape cs with
  | case1 cs ih =>
    have hslash : replace '~' ['1'] ['/'] ('~' :: '1' :: cs) = '/' :: replace '~' ['1'] ['/'] cs :=
      Text.replace_of_occurs cs
    rw [hslash, Text.replace_of_not_occurs (by simp), ih]
  | case2 cs ih =>
    have hkept : replace '~' ['1'] ['/'] ('~' :: '0' :: cs) =
        '~' :: '0' :: replace '~' ['1'] ['/'] cs := by
      rw [Text.replace_of_not_occurs (by simp), Text.replace_of_not_occurs (by simp)]
    have htilde : replace '~' ['0'] ['~'] ('~' :: '0' :: replace '~' ['1'] ['/'] cs) =
        '~' :: replace '~' ['0'] ['~'] (replace '~' ['1'] ['/'] cs) :=
      Text.replace_of_occurs _
    rw [hkept, htilde, ih]
  | case3 c cs hone hzero ih =>
    have hslash : ¬ (c = '~' ∧ ['1'] <+: cs) := by
      rintro ⟨rfl, rest, rfl⟩
      exact hone rest rfl rfl
    -- The first replacement does not bring a zero behind a tilde that had none.
    have htilde : ¬ (c = '~' ∧ ['0'] <+: replace '~' ['1'] ['/'] cs) := by
      rintro ⟨rfl, rest, hrest⟩
      have hhead : (replace '~' ['1'] ['/'] cs).head? = some '0' := by rw [← hrest]; rfl
      obtain ⟨more, rfl⟩ := List.head?_eq_some_iff.mp
        ((head?_replace_slash hhead).resolve_left (by decide))
      exact hzero more rfl rfl
    rw [Text.replace_of_not_occurs hslash, Text.replace_of_not_occurs htilde, ih]
  | case4 => simp [replace]

/-! ### Written keys -/

/-- A tilde in a written key starts one of the two escapes. -/
theorem head?_of_tilde_escape {key before after : List Char} (h : escape key = before ++ '~' :: after) :
    after.head? = some '0' ∨ after.head? = some '1' := by
  induction key generalizing before with
  | nil => simp [escape] at h
  | cons c key ih =>
    rw [escape_cons] at h
    split at h
    · rcases before with - | ⟨a, - | ⟨b, before⟩⟩
      · left; cases h; rfl
      · simp at h
      · exact ih (List.cons.inj (List.cons.inj h).2).2
    · split at h
      · rcases before with - | ⟨a, - | ⟨b, before⟩⟩
        · right; cases h; rfl
        · simp at h
        · exact ih (List.cons.inj (List.cons.inj h).2).2
      · rename_i htilde _
        cases before with
        | nil => exact absurd (List.cons.inj h).1 htilde
        | cons a before => exact ih (List.cons.inj h).2

/-- How a key is written as a segment of a pointer, and what the segment says when it is read. -/
structure WrittenKey (key : String) : Prop where
  /-- Tildes are replaced first, and then slashes. -/
  written : (encodeKey key).toList = replace '/' [] ['~', '1'] (replace '~' [] ['~', '0'] key.toList)
  noSlash : '/' ∉ (encodeKey key).toList
  tildes : ∀ before after, (encodeKey key).toList = before ++ '~' :: after →
    after.head? = some '0' ∨ after.head? = some '1'
  readBack : decodeKey (encodeKey key) = Percent.decode key
  /-- The key itself is read back exactly if it has no percent escape. -/
  same : decodeKey (encodeKey key) = key ↔ Percent.hasEscape key.toList = false

theorem writtenKey (key : String) : WrittenKey key where
  written := by rw [encodeKey, String.toList_ofList, escape_eq_replace]
  noSlash := by rw [encodeKey, String.toList_ofList]; exact slash_notMem_escape _
  tildes before after h := by
    rw [encodeKey, String.toList_ofList] at h
    exact head?_of_tilde_escape h
  readBack := decodeKey_escape key
  same := by rw [encodeKey, decodeKey_escape, Percent.decode_eq_self_iff]

example : encodeKey "~1/" = "~01~1" ∧ decodeKey "~01~1" = "~1/" := by decide +kernel

/-- The keys of a pointer are read back as they are exactly if none has a percent escape and the first is
not an empty one before another. -/
theorem segments_ofPath_eq_self_iff {path : Path} :
    segments (ofPath path) = path ↔
      (∀ key ∈ path, Percent.hasEscape key.toList = false) ∧
        ¬ ∃ next rest, path = "" :: next :: rest := by
  have hplain : path.map Percent.decode = path ↔
      ∀ key ∈ path, Percent.hasEscape key.toList = false := by
    simp only [← Percent.decode_eq_self_iff]
    simpa using @List.map_inj_left _ _ path Percent.decode id
  rw [segments_ofPath, ← withoutFront_eq_self_iff]
  constructor
  · intro h
    -- A key that is passed over is missed in the length.
    have hfront : withoutFront path = path := by
      refine withoutFront_eq_self_iff.mpr ?_
      rintro ⟨next, rest, rfl⟩
      have hle := length_withoutFront_le (next :: rest)
      have hlength := congrArg List.length h
      rw [List.length_map, withoutFront, if_pos rfl] at hlength
      rw [hlength] at hle
      exact Nat.not_succ_le_self _ hle
    rw [hfront] at h
    exact ⟨hplain.mp h, hfront⟩
  · rintro ⟨hkeys, hfront⟩
    rw [hfront, hplain.mpr hkeys]

/-- Writing keys loses nothing, and reading them back gives the keys with their percent escapes read; a
pointer made key by key is read back as its keys. -/
theorem written_keys_read_back :
    (∀ key, WrittenKey key) ∧ Function.Injective encodeKey ∧
      (∀ segment, decodeKey segment = Percent.decode
        (String.ofList (replace '~' ['0'] ['~'] (replace '~' ['1'] ['/'] segment.toList)))) ∧
      ∀ path : Path, segments (path.foldl join "#") = path ↔
        (∀ key ∈ path, Percent.hasEscape key.toList = false) ∧
          ¬ ∃ next rest, path = "" :: next :: rest := by
  refine ⟨writtenKey, fun _ _ => encodeKey_injective, fun segment => ?_, fun path => segments_ofPath_eq_self_iff⟩
  rw [decodeKey, unescape_eq_replace]

end Pointer

end ApiModel
