import ApiModel.Proofs.Steps

/-!
# Classifying nodes in any order

`doc.classified calls` is the progress after nodes were classified one after the other, under any names
and whatever came of each. Between two calls nothing is in progress, so a node that is done depends on
nodes that are done only; a node is therefore classified exactly if it reaches no invalid one, and its
schema depicts it by the ids of nodes that are done.
-/

namespace ApiModel.Document

open Classify (classify)

def classified (doc : Document) (calls : List (String × doc.Node)) : Progress :=
  calls.foldl (fun p call => Classify.after (classify doc call.1 call.2.toFragment) p) {}

/-- The calls are steps, and classifying changes nothing in a draft but its progress. -/
theorem classified_eq_after (doc : Document) (calls : List (String × doc.Node)) :
    doc.classified calls =
      (doc.after (calls.map fun call => .classify call.1 call.2)).progress := by
  have run : ∀ d : Draft,
      calls.foldl (fun p call => Classify.after (classify doc call.1 call.2.toFragment) p) d.progress =
        (calls.foldl (fun d call => (Step.classify call.1 call.2).run d) d).progress :=
    fun d => List.foldl_hom Draft.progress fun _ _ => rfl
  rw [Document.after, List.foldl_map]
  exact run {}

theorem coherent_classified (doc : Document) (calls : List (String × doc.Node)) :
    (doc.classified calls).Coherent doc [] := by
  rw [classified_eq_after]
  exact (doc.sound_after _).coherent

/-- After any calls, the call on a node succeeds exactly if the node reaches no invalid one. -/
theorem classify_succeeds_iff (doc : Document) (calls : List (String × doc.Node)) (name : String)
    (f : doc.Node) :
    (∃ id p, classify doc name f.toFragment (doc.classified calls) = .ok id p) ↔
      ¬ doc.ReachesInvalid f.toFragment := by
  have hx := Classify.classifies_classify doc _ name f.toFragment (doc.coherent_classified calls)
    f.holds
  unfold Classify.Ensures at hx
  constructor
  · rintro ⟨id, p, hrun⟩
    rw [hrun] at hx
    have hd := hx.1.coherent.idOf?_eq_some_iff_done.mp hx.2
    exact hx.1.coherent.not_reachesInvalid_of_done f.holds hd
  · intro hr
    cases hrun : classify doc name f.toFragment (doc.classified calls) with
    | ok id p => exact ⟨id, p, rfl⟩
    | error r p =>
      rw [hrun] at hx
      exact absurd hx.2 hr

/-- After any calls, the schema of a node that is done says what the document says of the node, by the
ids of nodes that are done. -/
theorem depicts_of_done (doc : Document) (calls : List (String × doc.Node)) (path : Path)
    (id : SchemaId) (h : (doc.classified calls).memo.get? path = some (.done id)) :
    ∃ v s, doc.at? path = some v ∧ (doc.classified calls).catalog.get? id = some s ∧
      (doc.classified calls).finished.Depicts doc ⟨path, v⟩ s := by
  have hc := doc.coherent_classified calls
  obtain ⟨v, hv⟩ := Option.isSome_iff_exists.mp (hc.nodes path (by simp [h]))
  obtain ⟨s, hs, hdep⟩ := hc.depicts ⟨path, v⟩ id hv h
  exact ⟨v, s, hv, hs, hdep.mono hc.le_finished⟩

/-- A list of lists of its own kind. -/
def ofLists : Document where
  root := .obj [("List", .obj [("type", .str "array"), ("items", .obj [("$ref", .str "#/List")])])]

def ofLists.list : ofLists.Node where
  path := ["List"]
  value := .obj [("type", .str "array"), ("items", .obj [("$ref", .str "#/List")])]
  holds := rfl

theorem depicts_of_done_ofLists :
    (ofLists.classified [("List", ofLists.list)]).memo.get? ["List"] = some (.done ⟨0⟩) ∧
      ∃ v s, ofLists.at? ["List"] = some v ∧
        (ofLists.classified [("List", ofLists.list)]).catalog.get? ⟨0⟩ = some s ∧
        (ofLists.classified [("List", ofLists.list)]).finished.Depicts ofLists ⟨["List"], v⟩ s := by
  have hd : (ofLists.classified [("List", ofLists.list)]).memo.get? ["List"] =
      some (.done ⟨0⟩) := by decide +kernel
  exact ⟨hd, depicts_of_done ofLists [("List", ofLists.list)] ["List"] ⟨0⟩ hd⟩

end ApiModel.Document
