import BytecodeLint.Guideline.Basic
import BytecodeLint.Proofs.Bytecode.Coded

/-!
# Findings in order

A guideline goes over the methods of a class, or over the instructions of its methods, and reports
some of them. `Verdicts R items results` says what is reported without going over anything: the
results are those that the relation `R` asks for, in the order of the items, one for each item that
has a result and none for the others.

* `verdicts_filterMap`: a function that goes over the items reports the verdicts.
* `ClassDecl.findings_eq`, `CodedClass.findings_eq`: the findings on the methods of a class as one
  pass over its instructions.
-/
namespace BytecodeLint

/-- The results on a list of items, in order. -/
inductive Verdicts {α β : Type} (R : α → β → Prop) : List α → List β → Prop where
  | nil : Verdicts R [] []
  | found {item : α} {result : β} {items : List α} {results : List β} : R item result →
      Verdicts R items results → Verdicts R (item :: items) (result :: results)
  | passed {item : α} {items : List α} {results : List β} : (∀ result, ¬ R item result) →
      Verdicts R items results → Verdicts R (item :: items) results

theorem verdicts_filterMap {α β : Type} {R : α → β → Prop} {f : α → Option β} {items : List α}
    (h : ∀ item ∈ items, ∀ result, f item = some result ↔ R item result) :
    Verdicts R items (items.filterMap f) := by
  induction items with
  | nil => exact .nil
  | cons item items ih =>
    obtain ⟨hitem, hitems⟩ := List.forall_mem_cons.1 h
    rw [List.filterMap_cons]
    cases hf : f item with
    | none => exact .passed (fun result hresult => by simp [hf, ← hitem] at hresult) (ih hitems)
    | some result => exact .found ((hitem result).1 hf) (ih hitems)

namespace Verdicts

variable {α β : Type} {R : α → β → Prop} {item : α} {items : List α} {results : List β}

theorem of_found (h : Verdicts R (item :: items) results) (hitem : ∃ result, R item result) :
    ∃ result later, results = result :: later ∧ R item result ∧ Verdicts R items later := by
  cases h with
  | found hresult hlater => exact ⟨_, _, rfl, hresult, hlater⟩
  | passed hnone _ =>
    obtain ⟨result, hresult⟩ := hitem
    exact absurd hresult (hnone result)

theorem of_passed (h : Verdicts R (item :: items) results) (hitem : ∀ result, ¬ R item result) :
    Verdicts R items results := by
  cases h with
  | found hresult _ => exact absurd hresult (hitem _)
  | passed _ hlater => exact hlater

theorem exists_of_mem (h : Verdicts R items results) {result : β} (hresult : result ∈ results) :
    ∃ item ∈ items, R item result := by
  induction h with
  | nil => cases hresult
  | found hitem _ ih =>
    rcases List.mem_cons.1 hresult with rfl | hlater
    · exact ⟨_, List.mem_cons_self, hitem⟩
    · obtain ⟨item, hmem, hR⟩ := ih hlater
      exact ⟨item, List.mem_cons_of_mem _ hmem, hR⟩
  | passed _ _ ih =>
    obtain ⟨item, hmem, hR⟩ := ih hresult
    exact ⟨item, List.mem_cons_of_mem _ hmem, hR⟩

end Verdicts

namespace ClassDecl

/-- The instructions of a class, each with its method, in the order of the methods. -/
def sites (c : ClassDecl) : List (MethodDecl × Instruction) :=
  c.methods.flatMap fun m => m.instructions.map fun i => (m, i)

theorem findings_eq (c : ClassDecl) (message? : MethodDecl → Instruction → Option String) :
    c.findings message? = c.sites.filterMap fun site =>
      (message? site.1 site.2).map fun text => ⟨site.1, site.2, text⟩ := by
  rw [findings, sites, List.filterMap_flatMap]
  simp only [List.filterMap_map]
  rfl

end ClassDecl

namespace CodedClass

/-- The instructions of a class, each with its method, in the order of the methods. -/
def sites (c : CodedClass) : List (CodedMethod c.pool × Instruction) :=
  c.coded.flatMap fun m => m.decl.instructions.map fun i => (m, i)

theorem mem_sites {c : CodedClass} {site : CodedMethod c.pool × Instruction} :
    site ∈ c.sites ↔ site.1 ∈ c.coded ∧ site.2 ∈ site.1.decl.instructions := by
  simp only [sites, List.mem_flatMap, List.mem_map]
  constructor
  · rintro ⟨m, hm, i, hi, rfl⟩
    exact ⟨hm, hi⟩
  · rintro ⟨hm, hi⟩
    exact ⟨site.1, hm, site.2, hi, rfl⟩

theorem findings_eq (c : CodedClass) (message? : MethodDecl → Instruction → Option String) :
    c.toClassDecl.findings message? = c.sites.filterMap fun site =>
      (message? site.1.decl site.2).map fun text => ⟨site.1.decl, site.2, text⟩ := by
  rw [ClassDecl.findings, c.methods_eq, List.flatMap_map, sites, List.filterMap_flatMap]
  simp only [List.filterMap_map]
  rfl

end CodedClass

end BytecodeLint
