import ApiModel.Proofs.Termination

/-!
# What is said of schemas

A node is built once, and while it is built at most one thing is put right in it, and after that at most
one more is said of it. So at the end of a run there is at most one remark of each code on a node, and at
most one error (`remarks_modest`), wherever the node was reached from.

`Told begun p` carries this through a run: of nodes that the memory does not know nothing was said, and
of those that are being built exactly what stands beside them in `begun`.
-/

namespace ApiModel

namespace Diagnostic

variable {ds : List Diagnostic} {d : Diagnostic} {source : String}

/-- What is said of the schema at a place. -/
def remarksOn (source : String) (ds : List Diagnostic) : List Diagnostic :=
  ds.filter fun d => d.code.isOfSchema && d.source = source

/-- Of each code there is at most one, and at most one is an error. -/
structure Modest (ds : List Diagnostic) : Prop where
  codes : (ds.map (·.code)).Nodup
  errors : errorCount ds ≤ 1

theorem Modest.nil : Modest [] := ⟨.nil, Nat.zero_le 1⟩

theorem Modest.singleton (d : Diagnostic) : Modest [d] :=
  ⟨List.nodup_singleton _, List.countP_le_length⟩

/-- What is said after something was put right is of another code. -/
theorem modest_correction {c? : Option Correction} (name source : String)
    (h : ∀ c ∈ c?, c.code ≠ d.code) :
    Modest (c?.toList.map (·.diagnostic name source) ++ [d]) := by
  cases c? with
  | none => exact .singleton d
  | some c =>
    refine ⟨by simpa [Correction.diagnostic] using h c rfl, ?_⟩
    have hwarning : (c.diagnostic name source).isError = false := rfl
    rw [Option.toList_some, List.map_singleton, errorCount, List.singleton_append,
      List.countP_cons_of_neg (by simp [hwarning])]
    exact List.countP_le_length

theorem remarksOn_append_of_other (h : d.code.isOfSchema = false ∨ d.source ≠ source) :
    remarksOn source (ds ++ [d]) = remarksOn source ds := by
  rcases h with h | h <;> simp [remarksOn, h]

theorem remarksOn_append_of_eq (hc : d.code.isOfSchema) (hs : d.source = source) :
    remarksOn source (ds ++ [d]) = remarksOn source ds ++ [d] := by
  simp [remarksOn, hc, hs]

end Diagnostic

namespace Progress

open Diagnostic (Modest remarksOn)

variable {p q : Progress} {path : Path} {begun : List (Path × List Diagnostic)} {d : Diagnostic}
  {ds : List Diagnostic}

/-- What was said of the schema at a path. -/
def remarks (p : Progress) (path : Path) : List Diagnostic :=
  remarksOn (Pointer.ofPath path) p.diagnostics.toList

/-- The nodes of `begun` are being built, and of each was said what stands beside it. -/
structure Told (begun : List (Path × List Diagnostic)) (p : Progress) : Prop where
  distinct : (begun.map (·.1)).Nodup
  knows : p.Knows (begun.map (·.1))
  said : ∀ n ∈ begun, p.remarks n.1 = n.2
  unknown : ∀ path, p.memo.get? path = none → p.remarks path = []
  modest : ∀ source, Modest (remarksOn source p.diagnostics.toList)

namespace Told

theorem initial : Told [] {} where
  distinct := .nil
  knows := knows_nil
  said n hn := by cases hn
  unknown _ _ := rfl
  modest _ := .nil

theorem of_eq (h : Told begun p) (hd : q.diagnostics = p.diagnostics) (hm : p.RememberedBy q) :
    Told begun q where
  distinct := h.distinct
  knows := hm.knows h.knows
  said n hn := by rw [remarks, hd]; exact h.said n hn
  unknown path hn := by
    rw [remarks, hd]
    refine h.unknown path (Option.not_isSome_iff_eq_none.mp fun hs => ?_)
    have hq := hm.known path hs
    rw [hn] at hq
    cases hq
  modest source := hd ▸ h.modest source

theorem of_memo_eq (h : Told begun p) (hd : q.diagnostics = p.diagnostics) (hm : q.memo = p.memo)
    (hr : q.reserved = p.reserved) : Told begun q :=
  h.of_eq hd ((RememberedBy.refl p).of_eq hm hr)

theorem begin (h : Told begun p) (hn : p.memo.get? path = none) :
    Told ((path, []) :: begun) (p.begin path) := by
  have hnew : path ∉ begun.map (·.1) := fun hm => by
    have hs := h.knows path hm
    rw [hn] at hs
    cases hs
  have hbegun := h.of_eq (q := p.begin path) rfl (.begin p path)
  refine ⟨List.nodup_cons.mpr ⟨hnew, h.distinct⟩, h.knows.begin path, ?_, hbegun.unknown,
    hbegun.modest⟩
  exact List.forall_mem_cons.mpr ⟨h.unknown path hn, hbegun.said⟩

/-- A node that is built no longer is one of which there may be remarks. -/
theorem finish {n : Path × List Diagnostic} (h : Told (n :: begun) p) : Told begun p where
  distinct := (List.nodup_cons.mp h.distinct).2
  knows path hm := h.knows path (List.mem_cons_of_mem _ hm)
  said m hm := h.said m (List.mem_cons_of_mem _ hm)
  unknown := h.unknown
  modest := h.modest

theorem report (h : Told begun p) (hd : d.code.isOfSchema = false) : Told begun (p.report d) := by
  have hsame : ∀ source, remarksOn source (p.report d).diagnostics.toList =
      remarksOn source p.diagnostics.toList := fun source => by
    rw [Progress.report, Array.toList_push]
    exact Diagnostic.remarksOn_append_of_other (.inl hd)
  exact ⟨h.distinct, h.knows, fun n hn => (hsame _).trans (h.said n hn),
    fun path hn => (hsame _).trans (h.unknown path hn), fun source => hsame source ▸ h.modest source⟩

/-- What is said of a node that is being built is added to what stands beside it. -/
theorem remark (h : Told ((path, ds) :: begun) p) (hs : d.source = Pointer.ofPath path)
    (hc : d.code.isOfSchema) (hm : Modest (ds ++ [d])) :
    Told ((path, ds ++ [d]) :: begun) (p.report d) := by
  have hself : (p.report d).remarks path = ds ++ [d] := by
    rw [remarks, Progress.report, Array.toList_push, Diagnostic.remarksOn_append_of_eq hc hs]
    exact congrArg (· ++ [d]) (h.said (path, ds) (List.mem_cons_self ..))
  have hother : ∀ source, source ≠ Pointer.ofPath path →
      remarksOn source (p.report d).diagnostics.toList = remarksOn source p.diagnostics.toList := by
    intro source hne
    rw [Progress.report, Array.toList_push]
    exact Diagnostic.remarksOn_append_of_other (.inr fun he => hne (he.symm.trans hs))
  have hpath : ∀ path', path' ≠ path → (p.report d).remarks path' = p.remarks path' :=
    fun path' hne => hother _ fun he => hne (Pointer.ofPath_injective he)
  obtain ⟨hnew, -⟩ := List.nodup_cons.mp h.distinct
  refine ⟨h.distinct, h.knows, List.forall_mem_cons.mpr ⟨hself, fun n hn => ?_⟩, fun path' hn => ?_,
    fun source => ?_⟩
  · rw [hpath n.1 fun he => hnew (List.mem_map.mpr ⟨n, hn, he⟩)]
    exact h.said n (List.mem_cons_of_mem _ hn)
  · have hne : path' ≠ path := by
      rintro rfl
      have hk := h.knows path' (List.mem_cons_self ..)
      have hsame : (p.report d).memo = p.memo := rfl
      rw [← hsame, hn] at hk
      cases hk
    rw [hpath path' hne]
    exact h.unknown path' hn
  · by_cases he : source = Pointer.ofPath path
    · rw [he]
      have hmodest : Modest ((p.report d).remarks path) := hself ▸ hm
      exact hmodest
    · rw [hother source he]
      exact h.modest source

end Told

end Progress

/-! ### Building a node -/

namespace Classify

open Progress (Told)

variable {doc : Document} {visit : Classifier} {f : Fragment} {α β : Type} {x : Classify α}
  {I J : Progress → Prop} {begun : List (Path × List Diagnostic)}

/-- From where `I` holds the step leads to where `J` holds. -/
def Turns (I J : Progress → Prop) (x : Classify α) : Prop := ∀ p, I p → J (after x p)

theorem Preserves.turns (hx : Preserves I x) (hIJ : ∀ p, I p → J p) : Turns I J x :=
  fun p hp => hIJ _ (hx p hp)

theorem Turns.bind {g : α → Classify β} (hx : Preserves I x) (hIJ : ∀ p, I p → J p)
    (hg : ∀ a, Turns I J (g a)) : Turns I J (x >>= g) := by
  intro p hp
  have hp' := hx p hp
  cases hrun : x p with
  | ok a p' =>
    rw [after_of_ok hrun] at hp'
    rw [after_bind_ok hrun]
    exact hg a p' hp'
  | error r p' =>
    rw [after_of_error hrun] at hp'
    rw [after_bind_error hrun]
    exact hIJ p' hp'

/-- What is said of a node once it was put right is said at its end, and only there. -/
def SaysLast (f : Fragment) (I J : Progress → Prop) : Prop :=
  ∀ p d, d.source = f.pointer → d.code.isOfSchema → (∀ c ∈ f.value.correction?, c.code ≠ d.code) →
    I p → J (p.report d)

section

variable (hI : AdmitsSchemas I) (hIJ : ∀ p, I p → J p) (hsay : SaysLast f I J)

include hsay in
theorem turns_reject {r : Rejection} {code : Code} (hr : r.code? = some code) (hd : code.isOfSchema)
    (hc : ∀ c ∈ f.value.correction?, c.code ≠ code) :
    Turns I J (reject r f.pointer : Classify α) := by
  intro p h
  have hone : after (reject r f.pointer : Classify α) p =
      p.report ⟨.error, code, r.message, f.pointer⟩ := by
    unfold after reject Rejection.diagnostics
    rw [hr]
    rfl
  rw [hone]
  exact hsay p _ rfl hd hc h

include hI hIJ hsay

theorem turns_assemble (name : String) (parents : List SchemaId)
    (parts : List (Section × Schema.Kind)) : Turns I J (assemble name f parents parts) := by
  unfold assemble
  split
  · have hfault : Code.emptyObject ≠ .missingType ∧ Code.emptyObject ≠ .fileType := by decide
    intro p h
    exact hsay p ⟨.warning, .emptyObject, s!"The schema '{name}' declares no properties and no members",
      f.pointer⟩ rfl rfl (fun _ _ => Correction.code_ne_of_ne hfault) h
  · exact (Preserves.pure _).turns hIJ
  · exact ((hI.addParts name parts).bind fun _ => .pure _).turns hIJ

theorem turns_buildForm (hv : Agreeing doc I visit visit) (name : String) :
    Turns I J (buildForm doc visit name f) := by
  have hfault : ∀ {code : Code}, code ≠ .missingType ∧ code ≠ .fileType →
      ∀ c ∈ f.value.correction?, c.code ≠ code := fun h _ _ => Correction.code_ne_of_ne h
  unfold buildForm
  cases hf : f.value.form with
  | choice => exact (hI.buildChoice name f.value).turns hIJ
  | plain kind => exact (Preserves.pure _).turns hIJ
  | array =>
    dsimp only
    unfold buildArray
    refine .bind (agree_visitSlot hv _ _).preserves hIJ fun element? => ?_
    cases element? with
    | none => exact turns_reject hsay rfl rfl (hfault (by decide))
    | some element => exact (Preserves.pure _).turns hIJ
  | object =>
    dsimp only
    unfold buildObject
    split
    · exact turns_reject hsay rfl rfl (hfault (by decide))
    · refine .bind (agree_visitMembers hv name _).preserves hIJ fun parents => ?_
      refine .bind (agree_visitSections hv name _).preserves hIJ fun parts => ?_
      exact turns_assemble hI hIJ hsay name parents parts
  | untyped =>
    refine turns_reject hsay rfl rfl fun c hc => ?_
    rw [Json.correction?_of_untyped hf] at hc
    cases hc
  | unknownType type => exact turns_reject hsay rfl rfl (hfault (by decide))
  | unknownFormat type format => exact turns_reject hsay rfl rfl (hfault (by decide))

end

theorem ignoresSchemas_told : IgnoresSchemas (Told begun) :=
  fun _ _ hm hr hd h => h.of_memo_eq hd hm hr

theorem agreeing_told (hv : ∀ name g, doc.Holds g → Preserves (Told begun) (visit name g)) :
    Agreeing doc (Told begun) visit visit where
  report p d hd h := h.report (by rw [hd]; rfl)
  any := ignoresSchemas_told.admits.anySchema
  visit name g hg := (hv name g hg).agree

/-- The node is being built, and of it was said what is put right in it. -/
abbrev Corrected (f : Fragment) (name : String) (begun : List (Path × List Diagnostic)) :
    Progress → Prop :=
  Told ((f.path, f.value.correction?.toList.map (·.diagnostic name f.pointer)) :: begun)

theorem saysLast_told (f : Fragment) (name : String) (begun : List (Path × List Diagnostic)) :
    SaysLast f (Corrected f name begun) (Told begun) :=
  fun _ _ hs hd hc h => (h.remark hs hd (Diagnostic.modest_correction name f.pointer hc)).finish

section

variable (hv : ∀ begun name g, doc.Holds g → Preserves (Told begun) (visit name g))

include hv

theorem turns_build (name : String) :
    Turns (Told ((f.path, []) :: begun)) (Told begun) (build doc visit name f) := by
  intro p h
  have hform : Turns (Corrected f name begun) (Told begun) (buildForm doc visit name f) :=
    turns_buildForm ignoresSchemas_told.admits (fun _ h => h.finish) (saysLast_told f name begun)
      (agreeing_told (hv _)) name
  rw [build_eq]
  unfold Corrected at hform
  cases hc : f.value.correction? with
  | none =>
    rw [hc] at hform
    exact hform p h
  | some c =>
    rw [hc] at hform
    refine hform (p.report (c.diagnostic name f.pointer)) ?_
    have hcode : c.code.isOfSchema := by cases c <;> rfl
    exact h.remark rfl hcode (.singleton _)

end

theorem told_classifyWithin (doc : Document) (stack : List Path)
    (begun : List (Path × List Diagnostic)) (name : String) (hf : doc.Holds f) :
    Preserves (Told begun) (classifyWithin doc stack name f) := by
  refine preserves_classifyWithin_of_build (I := Told) (fun visit name f _ hv begun p h hn => ?_) stack
    begun name hf
  have hbuilt : Told begun (after (build doc visit name f) (p.begin f.path)) :=
    turns_build hv name _ (h.begin hn)
  exact after_inSlot hbuilt (fun q id s h => h.of_eq rfl (.complete q _ id s))
    fun q id h => h.of_eq rfl (.abandon q _ id)

end Classify

theorem Progress.preserving_told (doc : Document) : PreservingRun doc (Progress.Told []) where
  toPreservingSlots := Classify.ignoresSchemas_told.preservingSlots
    (fun _ _ hd h => h.report (Code.isOfSchema_of_isOfOperation hd)) fun slot fallback =>
      (Classify.agree_visitSlot (Classify.agreeing_told fun name _ hg =>
        Classify.told_classifyWithin doc [] [] name hg) slot fallback).preserves
  duplicate _ _ hd h := h.report (by rw [hd]; rfl)

namespace Document

/-- Over a whole run at most one remark of each code is made on a schema, and at most one error. -/
theorem remarks_modest (doc : Document) (options : Options) (source : String) :
    Diagnostic.Modest (Diagnostic.remarksOn source (doc.model options).diagnostics) := by
  cases hfailure : doc.failure? with
  | some failure =>
    have hnone : (doc.model options).diagnostics = [] := by
      unfold model
      rw [hfailure]
    rw [hnone]
    exact .nil
  | none =>
    rw [diagnostics_of_failure?_eq_none hfailure]
    exact ((Progress.preserving_told doc).run .initial options).modest source

end Document

end ApiModel
