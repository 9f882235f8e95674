import ApiModel.Text.Utf8

/-!
# Percent escapes

A percent sign and two hexadecimal digits stand for a byte; bytes that follow one another are read
as UTF-8. All other characters, a lone percent sign among them, stand for themselves. Reading an escape
takes three characters and gives at most one, so only text without escapes stands for itself
(`decode_eq_self_iff`).
-/

namespace ApiModel.Percent

def hexValue? (c : Char) : Option Nat :=
  if '0' ≤ c && c ≤ '9' then some (c.toNat - '0'.toNat)
  else if 'a' ≤ c && c ≤ 'f' then some (c.toNat - 'a'.toNat + 10)
  else if 'A' ≤ c && c ≤ 'F' then some (c.toNat - 'A'.toNat + 10)
  else none

/-- The byte that two hexadecimal digits name. -/
def byte? (high low : Char) : Option UInt8 :=
  match hexValue? high, hexValue? low with
  | some h, some l => some (UInt8.ofNat (16 * h + l))
  | _, _ => none

/-- `run` holds the bytes of the escapes just before the text. -/
def decodeFrom (run : List UInt8) : List Char → List Char
  | '%' :: high :: low :: cs =>
    match byte? high low with
    | some b => decodeFrom (run ++ [b]) cs
    | none => Utf8.decodeLossy run ++ '%' :: decodeFrom [] (high :: low :: cs)
  | c :: cs => Utf8.decodeLossy run ++ c :: decodeFrom [] cs
  | [] => Utf8.decodeLossy run

def decode (s : String) : String := String.ofList (decodeFrom [] s.toList)

/-- The escapes of the bytes of a character. -/
def escape (c : Char) : List Char :=
  (String.utf8EncodeChar c).flatMap fun b =>
    ['%', Nat.digitChar (b.toNat / 16) |>.toUpper, Nat.digitChar (b.toNat % 16) |>.toUpper]

/-- Whether a percent sign and two hexadecimal digits occur. -/
def hasEscape : List Char → Bool
  | '%' :: high :: low :: cs => (byte? high low).isSome || hasEscape (high :: low :: cs)
  | _ :: cs => hasEscape cs
  | [] => false

theorem decodeFrom_nil_of_not_hasEscape {cs : List Char} (h : hasEscape cs = false) :
    decodeFrom [] cs = cs := by
  fun_induction hasEscape cs with
  | case1 high low cs ih =>
    simp only [Bool.or_eq_false_iff, Option.isSome_eq_false_iff, Option.isNone_iff_eq_none] at h
    simp [decodeFrom, h.1, Utf8.decodeLossy, ih h.2]
  | case2 c cs hne ih =>
    rw [decodeFrom]
    · simp [Utf8.decodeLossy, ih h]
    · exact hne
  | case3 => simp [decodeFrom, Utf8.decodeLossy]

/-- Text without escapes stands for itself. -/
theorem decode_of_not_hasEscape {s : String} (h : hasEscape s.toList = false) : decode s = s := by
  simp [decode, decodeFrom_nil_of_not_hasEscape h]

theorem toList_decode (s : String) : (decode s).toList = decodeFrom [] s.toList := String.toList_ofList

theorem length_decodeFrom_le (run : List UInt8) (cs : List Char) :
    (decodeFrom run cs).length ≤ run.length + cs.length := by
  fun_induction decodeFrom run cs with
  | case1 run high low cs b hb ih =>
    simp only [List.length_append, List.length_cons, List.length_nil] at ih ⊢
    omega
  | case2 run high low cs hb ih =>
    have hrun := Utf8.length_decodeLossy_le run
    simp only [List.length_append, List.length_cons, List.length_nil] at ih ⊢
    omega
  | case3 run c cs _ ih =>
    have hrun := Utf8.length_decodeLossy_le run
    simp only [List.length_append, List.length_cons, List.length_nil] at ih ⊢
    omega
  | case4 run => exact Utf8.length_decodeLossy_le run

theorem length_decodeFrom_lt (run : List UInt8) {cs : List Char} (h : hasEscape cs) :
    (decodeFrom run cs).length < run.length + cs.length := by
  fun_induction decodeFrom run cs with
  | case1 run high low cs b hb _ =>
    have hle := length_decodeFrom_le (run ++ [b]) cs
    simp only [List.length_append, List.length_cons, List.length_nil] at hle ⊢
    omega
  | case2 run high low cs hb ih =>
    have hrun := Utf8.length_decodeLossy_le run
    rw [hasEscape, hb] at h
    replace ih := ih h
    simp only [List.length_append, List.length_cons, List.length_nil] at ih ⊢
    omega
  | case3 run c cs hc ih =>
    have hrun := Utf8.length_decodeLossy_le run
    rw [hasEscape] at h
    · replace ih := ih h
      simp only [List.length_append, List.length_cons, List.length_nil] at ih ⊢
      omega
    · exact hc
  | case4 => cases h

/-- Only text without escapes stands for itself. -/
theorem decode_eq_self_iff {s : String} : decode s = s ↔ hasEscape s.toList = false := by
  refine ⟨fun he => Bool.eq_false_iff.mpr fun h => ?_, decode_of_not_hasEscape⟩
  have hlt := length_decodeFrom_lt [] h
  rw [← toList_decode, he, List.length_nil, Nat.zero_add] at hlt
  exact Nat.lt_irrefl _ hlt

theorem decodeFrom_ne_nil {run : List UInt8} {cs : List Char} (h : run ≠ [] ∨ cs ≠ []) :
    decodeFrom run cs ≠ [] := by
  fun_induction decodeFrom run cs with
  | case1 run high low cs b hb ih => exact ih (.inl (by simp))
  | case2 | case3 => simp
  | case4 run =>
    obtain ⟨b, bs, rfl⟩ := List.exists_cons_of_ne_nil (h.resolve_right fun he => he rfl)
    rw [Utf8.decodeLossy]
    exact List.cons_ne_nil _ _

theorem decode_ne_empty {s : String} (h : s ≠ "") : decode s ≠ "" := by
  intro he
  have hread := toList_decode s
  rw [he] at hread
  exact decodeFrom_ne_nil (.inr fun hs => h (String.toList_eq_nil_iff.mp hs)) hread.symm

end ApiModel.Percent
