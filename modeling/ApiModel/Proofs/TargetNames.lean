import ApiModel.Proofs.Chains

/-!
# The names of targets

The target of a reference is named after its last key, read as a key of a reference (`named_of_endsAt`).
A key of the document has no percent escapes to be read, so the name is the key only if nothing in it
looks like one (`name_of_target`).
-/

namespace ApiModel.Document

variable {doc : Document} {slot key : String} {f : Fragment} {path : Path}

/-- A reference leads to the node at the end of its chain and names it after its key. -/
theorem named_of_endsAt (hr : (doc.referenceAt? slot).isSome) (hend : doc.EndsAt slot f)
    (hkey : f.path = path ++ [key]) (hne : key ≠ "") :
    ∃ t, doc.resolvePointer slot = .ok (some t) ∧ t.toFragment = f ∧
      t.name = some (Percent.decode key) := by
  obtain ⟨t, ht, rfl⟩ := resolvePointer_of_endsAt hend
  obtain ⟨reference, hreference⟩ := Option.isSome_iff_exists.mp hr
  refine ⟨t, ht, rfl, ?_⟩
  rw [(endsAt_of_resolvePointer ht).2, hreference, Option.bind_some, Fragment.pointer,
    Pointer.declaredName?_ofPath, hkey, Pointer.nameOfPath_append_singleton path hne]

/-- A node at the end of references is named after its last key, which is the key as it is written exactly
if it has no percent escape in it. So keys without escapes are told apart by the names. -/
theorem name_of_target (doc : Document) {slot key : String} {path : Path} {v : Json}
    (hr : (doc.referenceAt? slot).isSome) (hend : doc.EndsAt slot ⟨path ++ [key], v⟩)
    (hne : key ≠ "") :
    ∃ t, doc.resolvePointer slot = .ok (some t) ∧ t.toFragment = ⟨path ++ [key], v⟩ ∧
      t.name = some (Percent.decode key) ∧
      (t.name = some key ↔ Percent.hasEscape key.toList = false) ∧
      (Percent.hasEscape key.toList = false → ∀ slot' key' v',
        (doc.referenceAt? slot').isSome → doc.EndsAt slot' ⟨path ++ [key'], v'⟩ → key' ≠ "" →
        Percent.hasEscape key'.toList = false →
        ∃ t', doc.resolvePointer slot' = .ok (some t') ∧ (t'.name = t.name ↔ key' = key)) := by
  obtain ⟨t, ht, hnode, hname⟩ := named_of_endsAt hr hend rfl hne
  refine ⟨t, ht, hnode, hname, ?_, fun hplain slot' key' v' hr' hend' hne' hplain' => ?_⟩
  · rw [hname, Option.some.injEq, Percent.decode_eq_self_iff]
  · obtain ⟨t', ht', -, hname'⟩ := named_of_endsAt hr' hend' rfl hne'
    refine ⟨t', ht', ?_⟩
    rw [hname, hname', Percent.decode_of_not_hasEscape hplain,
      Percent.decode_of_not_hasEscape hplain', Option.some.injEq]

/-- Nodes under keys with slashes, tildes, percent signs and letters that are not ASCII, and references to
them, one of them by an alias. -/
def withFarKeys : Document where
  root := .obj [
    ("d", .obj [
      ("é/~1%", .obj [("type", .str "string")]),
      ("%zz", .obj [("type", .str "integer")]),
      ("Alias", .obj [("$ref", .str "#/d/é~1~01%25")])]),
    ("r", .obj [("$ref", .str "#/d/Alias")]),
    ("s", .obj [("$ref", .str "#/d/%25zz")])]

theorem name_of_target_withFarKeys :
    (withFarKeys.referenceAt? "#/r").isSome ∧
      withFarKeys.EndsAt "#/r" ⟨["d"] ++ ["é/~1%"], .obj [("type", .str "string")]⟩ ∧
      "é/~1%" ≠ "" ∧
      ∃ t t', withFarKeys.resolvePointer "#/r" = .ok (some t) ∧ t.name = some "é/~1%" ∧
        withFarKeys.resolvePointer "#/s" = .ok (some t') ∧ t'.name ≠ t.name := by
  have hr : (withFarKeys.referenceAt? "#/r").isSome := by rfl
  have hend : withFarKeys.EndsAt "#/r" ⟨["d"] ++ ["é/~1%"], .obj [("type", .str "string")]⟩ := by
    have halias : withFarKeys.Hops "#/r" "#/d/Alias" :=
      ⟨"#/d/Alias", "#/d/Alias", rfl, by decide +kernel, by decide +kernel⟩
    have hkey : withFarKeys.Hops "#/d/Alias" (Pointer.ofPath ["d", "é/~1%"]) :=
      ⟨"#/d/é~1~01%25", "#/d/é~1~01%25", by decide +kernel, by decide +kernel, by decide +kernel⟩
    exact ⟨.head halias (.single hkey), rfl, rfl⟩
  have hend' : withFarKeys.EndsAt "#/s" ⟨["d"] ++ ["%zz"], .obj [("type", .str "integer")]⟩ :=
    ⟨.single ⟨"#/d/%25zz", "#/d/%25zz", rfl, by decide +kernel, by decide +kernel⟩, rfl, rfl⟩
  have hne : "é/~1%" ≠ "" := by decide
  obtain ⟨t, ht, -, -, hname, happart⟩ := name_of_target withFarKeys hr hend hne
  obtain ⟨t', ht', hnames⟩ := happart (by decide +kernel) "#/s" "%zz" _ rfl hend' (by decide)
    (by decide +kernel)
  exact ⟨hr, hend, hne, t, t', ht, hname.mpr (by decide +kernel), ht', mt hnames.mp (by decide)⟩

/-- Two keys of which one holds an escape that means the other, and references to their nodes. -/
def withEscapedKey : Document where
  root := .obj [
    ("d", .obj [
      ("%41", .obj [("type", .str "string")]),
      ("A", .obj [("type", .str "integer")])]),
    ("r", .obj [("$ref", .str "#/d/%2541")]),
    ("s", .obj [("$ref", .str "#/d/A")])]

/-- The escape in the key is read once more, so both nodes have one name. -/
theorem name_withEscapedKey :
    withEscapedKey.EndsAt "#/r" ⟨["d"] ++ ["%41"], .obj [("type", .str "string")]⟩ ∧
      withEscapedKey.EndsAt "#/s" ⟨["d"] ++ ["A"], .obj [("type", .str "integer")]⟩ ∧
      ∃ t t', withEscapedKey.resolvePointer "#/r" = .ok (some t) ∧ t.name ≠ some "%41" ∧
        withEscapedKey.resolvePointer "#/s" = .ok (some t') ∧ t'.name = t.name := by
  have hend : withEscapedKey.EndsAt "#/r" ⟨["d"] ++ ["%41"], .obj [("type", .str "string")]⟩ :=
    ⟨.single ⟨"#/d/%2541", "#/d/%2541", rfl, by decide +kernel, by decide +kernel⟩, rfl, rfl⟩
  have hend' : withEscapedKey.EndsAt "#/s" ⟨["d"] ++ ["A"], .obj [("type", .str "integer")]⟩ :=
    ⟨.single ⟨"#/d/A", "#/d/A", rfl, by decide +kernel, by decide +kernel⟩, rfl, rfl⟩
  obtain ⟨t, ht, -, hname⟩ := named_of_endsAt (by rfl) hend rfl (by decide)
  obtain ⟨t', ht', -, hname'⟩ := named_of_endsAt (by rfl) hend' rfl (by decide)
  have hescape : Percent.decode "%41" = "A" := by decide +kernel
  have hplain : Percent.decode "A" = "A" := by decide +kernel
  refine ⟨hend, hend', t, t', ht, ?_, ht', ?_⟩
  · rw [hname, hescape]
    decide
  · rw [hname, hname', hescape, hplain]

end ApiModel.Document
