import ApiModel.Proofs.Enumeration

/-!
# Pointers spelled as references

Keys of a reference may hold percent escapes, so in a reference to the node at a pointer each percent
sign is spelled `%25`. Read back, the spelled pointer is the pointer itself (`canonical_spell_eq_iff`),
and a slot with the reference stands for the node. Nodes below an empty first key are the exception:
all slashes at the front of a reference are passed over, and with them the empty keys between them, so
no reference leads to such a node (`not_isUnderEmptyKey_of_follow`).
-/

namespace ApiModel

namespace Percent

/-- Every percent sign becomes `%25`. -/
def quote (cs : List Char) : List Char :=
  cs.flatMap fun c => if c = '%' then ['%', '2', '5'] else [c]

theorem quote_cons (c : Char) (cs : List Char) :
    quote (c :: cs) = (if c = '%' then ['%', '2', '5'] else [c]) ++ quote cs :=
  List.flatMap_cons

theorem mem_quote {c : Char} {cs : List Char} (hc : c ≠ '%' ∧ c ≠ '2' ∧ c ≠ '5') :
    c ∈ quote cs ↔ c ∈ cs := by
  induction cs with
  | nil => rfl
  | cons a cs ih =>
    rw [quote_cons, List.mem_append, ih, List.mem_cons]
    refine or_congr_left ?_
    split
    · rename_i ha; simp [ha, hc]
    · exact List.mem_singleton

theorem quote_eq_nil_iff {cs : List Char} : quote cs = [] ↔ cs = [] := by
  cases cs with
  | nil => simp [quote]
  | cons c cs =>
    rw [quote_cons]
    split <;> simp

theorem decodeLossy_replicate (n : Nat) :
    Utf8.decodeLossy (List.replicate n 0x25) = List.replicate n '%' := by
  induction n with
  | zero => simp [Utf8.decodeLossy]
  | succ n ih =>
    have hfirst : Utf8.firstChar 0x25 (List.replicate n 0x25) = ('%', List.replicate n 0x25) := rfl
    rw [List.replicate_succ, Utf8.decodeLossy, hfirst, ih, List.replicate_succ]

/-- Percent signs that are spelled one after the other are one run of bytes, so the run is general. -/
theorem decodeFrom_quote (n : Nat) (cs : List Char) :
    decodeFrom (List.replicate n 0x25) (quote cs) = List.replicate n '%' ++ cs := by
  induction cs generalizing n with
  | nil => simp [quote, decodeFrom, decodeLossy_replicate]
  | cons c cs ih =>
    rw [quote_cons]
    by_cases hc : c = '%'
    · have hbyte : byte? '2' '5' = some 0x25 := rfl
      have hread : decodeFrom (List.replicate n 0x25) ('%' :: '2' :: '5' :: quote cs) =
          decodeFrom (List.replicate (n + 1) 0x25) (quote cs) := by
        rw [decodeFrom, hbyte, List.replicate_succ']
      rw [if_pos hc, hc]
      show decodeFrom (List.replicate n 0x25) ('%' :: '2' :: '5' :: quote cs) = _
      rw [hread, ih, List.replicate_succ', List.append_assoc]
      rfl
    · rw [if_neg hc, List.cons_append, List.nil_append, decodeFrom, decodeLossy_replicate]
      · exact congrArg _ (congrArg _ (ih 0))
      · rintro _ _ _ rfl; exact absurd rfl hc

end Percent

namespace Pointer

/-- The pointer of a node as a reference to it. -/
def spell (pointer : String) : String := String.ofList (Percent.quote pointer.toList)

theorem unescape_quote_escape (key : List Char) :
    unescape (Percent.quote (escape key)) = Percent.quote key := by
  induction key with
  | nil => simp [escape, Percent.quote, unescape]
  | cons c key ih =>
    -- No character is written in both ways, and neither way writes what the other reads.
    by_cases htilde : c = '~'
    · simp [htilde, escape_cons, Percent.quote_cons, unescape, ih]
    by_cases hslash : c = '/'
    · simp [hslash, escape_cons, Percent.quote_cons, unescape, ih]
    by_cases hpercent : c = '%'
    · simp [hpercent, escape_cons, Percent.quote_cons, unescape, ih]
    · simp [htilde, hslash, hpercent, escape_cons, Percent.quote_cons, unescape, ih]

theorem decodeKey_quote_escape (key : String) :
    decodeKey (String.ofList (Percent.quote (escape key.toList))) = key := by
  have hread : Percent.decodeFrom [] (Percent.quote key.toList) = key.toList :=
    Percent.decodeFrom_quote 0 key.toList
  rw [decodeKey, String.toList_ofList, unescape_quote_escape, Percent.decode, String.toList_ofList,
    hread, String.ofList_toList]

/-! ### Empty keys at the front -/

/-- What is left of a path if its pointer is read as a reference: the keys from the first on that is not
empty, or the last if all are empty. -/
def withoutFront : Path → Path
  | [] => []
  | [key] => [key]
  | key :: next :: rest => if key = "" then withoutFront (next :: rest) else key :: next :: rest

theorem length_withoutFront_le (path : Path) : (withoutFront path).length ≤ path.length := by
  fun_induction withoutFront path with
  | case1 | case2 | case4 => exact Nat.le_refl _
  | case3 _ _ ih => exact Nat.le_succ_of_le ih

theorem getLast?_withoutFront (path : Path) : (withoutFront path).getLast? = path.getLast? := by
  fun_induction withoutFront path with
  | case1 | case2 | case4 => rfl
  | case3 next rest ih => rw [ih, List.getLast?_cons_cons]

theorem withoutFront_eq_self_iff {path : Path} :
    withoutFront path = path ↔ ¬ ∃ next rest, path = "" :: next :: rest := by
  fun_cases withoutFront path with
  | case1 | case2 => simp
  | case3 next rest =>
    refine ⟨fun he => ?_, fun hno => absurd ⟨next, rest, rfl⟩ hno⟩
    have hle := length_withoutFront_le (next :: rest)
    rw [he, List.length_cons] at hle
    exact absurd hle (Nat.not_succ_le_self _)
  | case4 key next rest hkey => simp [hkey]

section

variable {write : String → List Char} (hslash : ∀ key, '/' ∉ write key)
  (hempty : ∀ key, write key = [] ↔ key = "")

include hslash hempty

/-- No more than the first slash is passed over if the first key is not empty or there is no other. -/
theorem dropWhile_slashes {key : String} {rest : Path} (h : key ≠ "" ∨ rest = []) :
    ((key :: rest).flatMap fun key => '/' :: write key).dropWhile (· = '/') =
      write key ++ rest.flatMap fun key => '/' :: write key := by
  rw [List.flatMap_cons, List.cons_append, List.dropWhile_cons_of_pos (by simp)]
  cases hw : write key with
  | nil =>
    rcases h with hkey | rfl
    · exact absurd ((hempty key).mp hw) hkey
    · rfl
  | cons c cs =>
    have hc : c ≠ '/' := fun he => hslash key (hw ▸ he ▸ List.mem_cons_self ..)
    rw [List.cons_append, List.dropWhile_cons_of_neg (by simpa using hc)]

/-- Passing over slashes at the front passes over empty keys, but for the last one. -/
theorem exists_dropWhile_slashes {path : Path} (h : path ≠ []) :
    ∃ key rest, withoutFront path = key :: rest ∧
      (path.flatMap fun key => '/' :: write key).dropWhile (· = '/') =
        write key ++ rest.flatMap fun key => '/' :: write key := by
  fun_induction withoutFront path with
  | case1 => exact absurd rfl h
  | case2 key => exact ⟨key, [], rfl, dropWhile_slashes hslash hempty (.inr rfl)⟩
  | case3 next rest ih =>
    obtain ⟨key, rest', hfront, hdrop⟩ := ih (List.cons_ne_nil _ _)
    refine ⟨key, rest', hfront, ?_⟩
    rw [List.flatMap_cons, (hempty "").mpr rfl, List.cons_append, List.nil_append,
      List.dropWhile_cons_of_pos (by simp)]
    exact hdrop
  | case4 key next rest hkey =>
    exact ⟨key, next :: rest, rfl, dropWhile_slashes hslash hempty (.inl hkey)⟩

/-- The keys that a pointer means in a reference, if each key is written without a slash. -/
theorem segments_of_toList {pointer : String} {path : Path}
    (hp : pointer.toList = '#' :: path.flatMap fun key => '/' :: write key) :
    segments pointer =
      (withoutFront path).map fun key => decodeKey (String.ofList (write key)) := by
  have hbody : pointer.toList.dropWhile (· = '#') = path.flatMap fun key => '/' :: write key := by
    rw [hp, List.dropWhile_cons_of_pos (by simp)]
    cases path with
    | nil => rfl
    | cons key rest => rw [List.flatMap_cons, List.cons_append, List.dropWhile_cons_of_neg (by simp)]
  unfold segments
  rw [hbody]
  cases path with
  | nil => rfl
  | cons first rest =>
    obtain ⟨key, rest', hfront, hdrop⟩ :=
      exists_dropWhile_slashes hslash hempty (List.cons_ne_nil first rest)
    have hfull : ((first :: rest).flatMap fun key => '/' :: write key).isEmpty = false := rfl
    simp only [hfull, hdrop, hfront, Split.parts_flatMap hslash]
    simp

end

theorem slash_notMem_quote_escape (key : String) : '/' ∉ Percent.quote (escape key.toList) := by
  rw [Percent.mem_quote (by decide)]
  exact slash_notMem_escape _

theorem quote_escape_eq_nil_iff (key : String) :
    Percent.quote (escape key.toList) = [] ↔ key = "" := by
  rw [Percent.quote_eq_nil_iff, escape_eq_nil_iff, String.toList_eq_nil_iff]

theorem toList_spell_ofPath (path : Path) :
    (spell (ofPath path)).toList =
      '#' :: path.flatMap fun key => '/' :: Percent.quote (escape key.toList) := by
  rw [spell, String.toList_ofList, toList_ofPath, Percent.quote_cons, Percent.quote, List.flatMap_assoc]
  rfl

theorem segments_spell (path : Path) : segments (spell (ofPath path)) = withoutFront path := by
  rw [segments_of_toList slash_notMem_quote_escape quote_escape_eq_nil_iff (toList_spell_ofPath path)]
  simp only [decodeKey_quote_escape, List.map_id']

theorem segments_ofPath (path : Path) :
    segments (ofPath path) = (withoutFront path).map Percent.decode := by
  rw [segments_of_toList (fun key => slash_notMem_escape key.toList)
    (fun key => escape_eq_nil_iff.trans String.toList_eq_nil_iff) (toList_ofPath path)]
  simp only [decodeKey_escape]

/-- The name that a pointer gives to its target is that of the path. -/
theorem declaredName?_ofPath (path : Path) : declaredName? (ofPath path) = nameOfPath path := by
  rw [declaredName?, nameOfPath, segments_ofPath, List.getLast?_map, getLast?_withoutFront]

/-- The pointer leads through an empty first key: two slashes follow the number sign. -/
def IsUnderEmptyKey (pointer : String) : Prop := ['#', '/', '/'] <+: pointer.toList

instance (pointer : String) : Decidable (IsUnderEmptyKey pointer) :=
  inferInstanceAs (Decidable (['#', '/', '/'] <+: pointer.toList))

theorem isUnderEmptyKey_ofPath_iff {path : Path} :
    IsUnderEmptyKey (ofPath path) ↔ ∃ next rest, path = "" :: next :: rest := by
  rw [IsUnderEmptyKey, toList_ofPath, List.cons_prefix_cons]
  cases path with
  | nil => simp
  | cons key rest =>
    rw [List.flatMap_cons, List.cons_append, List.cons_prefix_cons]
    cases hkey : escape key.toList with
    | nil =>
      have hempty : key = "" := String.toList_eq_nil_iff.mp (escape_eq_nil_iff.mp hkey)
      cases rest <;> simp [hempty]
    | cons c cs =>
      have hc : c ≠ '/' := fun he => slash_notMem_escape key.toList (hkey ▸ he ▸ List.mem_cons_self ..)
      have hfull : key ≠ "" := by rintro rfl; cases hkey
      simp [Ne.symm hc, hfull]

/-- A spelled pointer is read back as the pointer, but for one that leads through an empty first key. -/
theorem canonical_spell_eq_iff {path : Path} :
    canonical (spell (ofPath path)) = ofPath path ↔ ¬ IsUnderEmptyKey (ofPath path) := by
  rw [canonical, segments_spell, isUnderEmptyKey_ofPath_iff, ← withoutFront_eq_self_iff]
  exact ⟨ofPath_injective, congrArg ofPath⟩

theorem local?_spell (path : Path) (self : Option String) :
    Reference.local? (spell (ofPath path)) self = some (spell (ofPath path)) := by
  unfold Reference.local?
  rw [toList_spell_ofPath, Split.once?, if_pos rfl]
  exact congrArg some (String.toList_inj.mp (by rw [toList_spell_ofPath]; simp))

/-- What a reference means never has an empty first key with another key below it. -/
theorem not_isUnderEmptyKey_canonical (pointer : String) : ¬ IsUnderEmptyKey (canonical pointer) := by
  rw [canonical, isUnderEmptyKey_ofPath_iff]
  rintro ⟨next, rest, h⟩
  unfold segments at h
  simp only at h
  split at h
  · cases h
  -- The first part is empty only if nothing but slashes was left, and then there is no other part.
  generalize hbody : (pointer.toList.dropWhile (· = '#')).dropWhile (· = '/') = body at h
  cases body with
  | nil => simp [Split.parts] at h
  | cons c cs =>
    have hc : c ≠ '/' := by
      have := List.head?_dropWhile_not (· = '/') (pointer.toList.dropWhile (· = '#'))
      rw [hbody] at this
      simpa using this
    rw [Split.parts, if_neg hc] at h
    split at h
    · simp at h
    · simp only [List.map_cons, List.cons.injEq] at h
      exact decodeKey_ne_empty (List.cons_ne_nil _ _) h.1

end Pointer

/-! ### References to nodes -/

namespace Document

variable {doc : Document}

/-- A node is found by the reference that spells its pointer, unless it is below an empty first key. -/
theorem resolvePointer_spell {path : Path} {v : Json} (hv : doc.at? path = some v)
    (hend : v.reference? = none) (hfront : ¬ Pointer.IsUnderEmptyKey (Pointer.ofPath path))
    {slot : String} {w : Json} (hw : doc.get? slot = some w)
    (hr : w.reference? = some (Pointer.spell (Pointer.ofPath path))) :
    doc.resolvePointer slot = .ok (some ⟨⟨path, v⟩, Pointer.nameOfPath path⟩) := by
  obtain ⟨seen, -, hseen⟩ := exists_resolvePointer_eq hw hr
  have hpath : Pointer.segments (Pointer.spell (Pointer.ofPath path)) = path :=
    Pointer.ofPath_injective (Pointer.canonical_spell_eq_iff.mpr hfront)
  have hat : doc.at? (Pointer.segments (Pointer.spell (Pointer.ofPath path))) = some v := by
    rw [hpath, hv]
  rw [hseen, follow_of_some (Pointer.local?_spell path _) hat, hend, hpath]
  rfl

theorem not_isUnderEmptyKey_of_follow {seen : List Path} {reference : String} {f : Fragment}
    (h : doc.follow seen reference = .ok f) : ¬ Pointer.IsUnderEmptyKey f.pointer := by
  fun_induction follow doc seen reference with
  | case1 | case2 => cases h
  | case3 _ _ pointer => cases h; exact Pointer.not_isUnderEmptyKey_canonical pointer
  | case4 => cases h
  | case5 _ _ _ _ _ _ _ _ _ ih => exact ih h

/-- The pointer of a node is read back from its spelling, and a slot with that reference stands for the
node, exactly if the node is not below an empty first key; no slot with a reference stands for a node
that is. -/
theorem spelled_reference_resolves (doc : Document) (h : doc.root.KeysDistinct) {i : Nat}
    {pointer : String} (hp : doc.arena.pointers[i]? = some pointer) :
    (Pointer.canonical (Pointer.spell pointer) = pointer ↔ ¬ Pointer.IsUnderEmptyKey pointer) ∧
      (¬ Pointer.IsUnderEmptyKey pointer →
        ∀ v, doc.get? pointer = some v → v.reference? = none →
        ∀ slot w, doc.get? slot = some w → w.reference? = some (Pointer.spell pointer) →
          ∃ t, doc.resolvePointer slot = .ok (some t) ∧ doc.arena.id? t.pointer = some i ∧
            t.pointer = pointer ∧ t.value = v) ∧
      (Pointer.IsUnderEmptyKey pointer →
        ∀ slot w t, doc.get? slot = some w → w.reference?.isSome →
          doc.resolvePointer slot = .ok (some t) → t.pointer ≠ pointer) := by
  obtain ⟨f, -, rfl⟩ := pointers_eq_some_iff.mp hp
  refine ⟨Pointer.canonical_spell_eq_iff, fun hfront v hv hend slot w hw hr => ?_,
    fun hunder slot w t hw hr ht he => ?_⟩
  · rw [Fragment.pointer, get?_ofPath] at hv
    exact ⟨_, resolvePointer_spell hv hend hfront hw hr, (id?_eq_some_iff h).mpr hp, rfl, rfl⟩
  · obtain ⟨reference, hreference⟩ := Option.isSome_iff_exists.mp hr
    obtain ⟨seen, -, hseen⟩ := exists_resolvePointer_eq hw hreference
    rw [hseen] at ht
    obtain ⟨g, hg, htarget⟩ := exists_of_map_eq_ok ht
    cases htarget
    exact not_isUnderEmptyKey_of_follow hg (he ▸ hunder)

/-- A node under keys with slashes, tildes and percent signs, and a reference to it. -/
def withSpelledReference : Document where
  root := .obj [
    ("/~", .obj [("%2F%", .obj [("type", .str "string")])]),
    ("r", .obj [("$ref", .str "#/~1~0/%252F%25")])]

theorem spelled_reference_resolves_withSpelledReference :
    withSpelledReference.root.KeysDistinct ∧
      withSpelledReference.arena.pointers[2]? = some "#/~1~0/%2F%" ∧
      ∃ t, withSpelledReference.resolvePointer "#/r" = .ok (some t) ∧
        withSpelledReference.arena.id? t.pointer = some 2 ∧ t.pointer = "#/~1~0/%2F%" ∧
        t.value = .obj [("type", .str "string")] := by
  have hkeys : withSpelledReference.root.KeysDistinct := by decide +kernel
  have hp : withSpelledReference.arena.pointers[2]? = some "#/~1~0/%2F%" := by decide +kernel
  have hfront : ¬ Pointer.IsUnderEmptyKey "#/~1~0/%2F%" := by decide +kernel
  exact ⟨hkeys, hp, (spelled_reference_resolves withSpelledReference hkeys hp).2.1 hfront
    (.obj [("type", .str "string")]) (by rfl) (by decide +kernel) "#/r"
    (.obj [("$ref", .str "#/~1~0/%252F%25")]) (by rfl) (by decide +kernel)⟩

/-- A node under an empty first key, one beside it under the same second key, and a reference that
spells the pointer of the first. -/
def withEmptyFirstKey : Document where
  root := .obj [
    ("", .obj [("x", .obj [("type", .str "string")])]),
    ("x", .obj [("type", .str "integer")]),
    ("r", .obj [("$ref", .str "#//x")])]

/-- The reference that spells the pointer of the node under the empty key leads to the other one. -/
theorem spelled_reference_misread :
    withEmptyFirstKey.root.KeysDistinct ∧
      withEmptyFirstKey.arena.pointers[2]? = some "#//x" ∧
      withEmptyFirstKey.get? "#//x" = some (.obj [("type", .str "string")]) ∧
      (Json.obj [("type", .str "string")]).reference? = none ∧
      withEmptyFirstKey.get? "#/r" = some (.obj [("$ref", .str (Pointer.spell "#//x"))]) ∧
      Pointer.canonical (Pointer.spell "#//x") ≠ "#//x" ∧
      ∃ t, withEmptyFirstKey.resolvePointer "#/r" = .ok (some t) ∧ t.pointer = "#/x" := by
  have hslot : withEmptyFirstKey.get? "#/r" = some (.obj [("$ref", .str "#//x")]) := by rfl
  have hspell : Pointer.spell "#//x" = "#//x" := by decide +kernel
  have hmeant : Pointer.segments "#//x" = ["x"] := by decide +kernel
  have hlocal : Reference.local? "#//x" withEmptyFirstKey.selfUri = some "#//x" := by decide +kernel
  have hat : withEmptyFirstKey.at? (Pointer.segments "#//x") =
      some (.obj [("type", .str "integer")]) := by
    rw [hmeant]; rfl
  obtain ⟨seen, -, hseen⟩ := exists_resolvePointer_eq hslot rfl
  have hother : withEmptyFirstKey.resolvePointer "#/r" =
      .ok (some ⟨⟨["x"], .obj [("type", .str "integer")]⟩, Pointer.nameOfPath ["x"]⟩) := by
    rw [hseen, follow_of_some hlocal hat, hmeant]
    rfl
  exact ⟨by decide +kernel, by decide +kernel, by rfl, by decide +kernel, hspell ▸ hslot,
    by decide +kernel, _, hother, by decide +kernel⟩

end Document

end ApiModel
