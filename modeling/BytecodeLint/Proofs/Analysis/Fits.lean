import BytecodeLint.Proofs.Analysis.Report
import BytecodeLint.Proofs.ClassFile.Bounds
import BytecodeLint.Proofs.Crawl.Delivery
import BytecodeLint.Proofs.Marker.Store

/-!
# Every marker can be kept

A marker store takes offsets and lines of 32 bits. The findings of the registry point at
instructions that the class has, and classes come from class files. So whatever a crawl delivers,
the markers found in it can be written to a store and read again.

* `Guideline.pointsInto_registry`: a finding points into the class it is about.
* `Crawl.run_measured`: delivered classes have bounded numbers.
* `Analysis.fits_found`: the markers of such classes fit.
-/

namespace BytecodeLint

/-! ## Findings -/

/-- The finding points at an instruction of a method of the class. -/
structure Finding.PointsInto (f : Finding) (c : ClassDecl) : Prop where
  method : f.method ∈ c.methods
  instruction : f.instruction ∈ f.method.instructions

theorem MethodDecl.pointsInto_findings {c : ClassDecl} {m : MethodDecl} (hm : m ∈ c.methods)
    {message? : Instruction → Option String} {f : Finding} (h : f ∈ m.findings message?) :
    f.PointsInto c := by
  obtain ⟨i, hi, hf⟩ := List.mem_filterMap.1 h
  obtain ⟨text, -, rfl⟩ := Option.map_eq_some_iff.1 hf
  exact ⟨hm, hi⟩

theorem ClassDecl.pointsInto_findings {c : ClassDecl}
    {message? : MethodDecl → Instruction → Option String} {f : Finding}
    (h : f ∈ c.findings message?) : f.PointsInto c := by
  obtain ⟨m, hm, hf⟩ := List.mem_flatMap.1 h
  exact m.pointsInto_findings hm hf

namespace Guideline

theorem ConstantFinal.pointsInto_findings {c : ClassDecl} {f : Finding} (h : f ∈ findings c) :
    f.PointsInto c := by
  unfold findings at h
  split at h
  · cases h
  · split at h
    · rename_i m hm
      exact m.pointsInto_findings (List.mem_of_find?_eq_some hm) h
    · cases h

theorem PreferStatic.pointsInto_findings {index : ClassIndex} {c : ClassDecl} {f : Finding}
    (h : f ∈ findings index c) : f.PointsInto c := by
  unfold findings at h
  split at h
  · cases h
  · obtain ⟨m, hm, hf⟩ := List.mem_filterMap.1 h
    unfold methodFinding? at hf
    split at hf
    · split at hf
      · rename_i first later hbody
        split at hf
        · cases hf
        · cases hf
          exact ⟨hm, by rw [hbody]; exact List.mem_cons_self⟩
      · cases hf
    · cases hf

/-- No guideline of the registry reports anything outside the class it looks at. -/
theorem pointsInto_registry {g : Guideline} (hg : g ∈ registry) {index : ClassIndex}
    {c : ClassDecl} {findings : List Finding} (h : g.check index c = .ok findings) :
    ∀ f ∈ findings, f.PointsInto c := by
  simp only [registry, List.mem_cons, List.not_mem_nil, or_false] at hg
  rcases hg with rfl | rfl | rfl | rfl | rfl | rfl | rfl | rfl
  · cases h
    intro f hf
    simp only [AvoidEnums.findings] at hf
    split at hf
    · cases hf
    · exact c.pointsInto_findings hf
  case inr.inr.inr.inl =>
    cases h
    exact fun f => ConstantFinal.pointsInto_findings
  case inr.inr.inr.inr.inr.inr.inl =>
    cases h
    exact fun f => PreferStatic.pointsInto_findings
  all_goals
    cases h
    exact fun f => c.pointsInto_findings

end Guideline

theorem Finding.PointsInto.fits_toMarker {f : Finding} {c : ClassDecl} (hf : f.PointsInto c)
    (hc : ∀ m ∈ c.methods, m.Measured) (g : Guideline) (resource : Resource) :
    (f.toMarker g c resource).Fits := by
  have hm := hc f.method hf.method
  refine ⟨hm.offset _ hf.instruction, fun n hn => ?_⟩
  obtain ⟨entry, hentry, rfl⟩ := Option.map_eq_some_iff.1 hn
  have hmem : entry ∈ f.method.lines :=
    (List.takeWhile_sublist _).mem (List.mem_of_getLast? hentry)
  have := hm.line entry hmem
  omega

/-! ## Classes -/

namespace Crawl

theorem Origin.exists_parse {t : FileTree} {origin : Origin} {c : ClassDecl}
    (h : origin.class? t = some c) : ∃ bytes, ClassFile.parse bytes = .ok c := by
  obtain ⟨content, -, h⟩ := Option.bind_eq_some_iff.1 h
  exact ⟨_, eq_ok_of_toOption h⟩

/-- The classes that a crawl delivers have been parsed. -/
theorem run_measured {t : FileTree} {input : Path} {classpath : List Path} {r : CrawlResult}
    (h : run t input classpath = .ok r) : ∀ c ∈ r.classes, ∀ m ∈ c.methods, m.Measured := by
  obtain ⟨own, others, -, hr⟩ := delivers_run h
  obtain ⟨named, expanded, -, -, hothers⟩ := hr.othersRead
  intro c hc
  rw [hr.classes, ← firsts_eq_newcomers] at hc
  have hread : ∃ origin : Origin, origin.class? t = some c := by
    rcases List.mem_append.1 ((firsts_sublist ..).mem hc) with hown | hother
    · have hmem := List.mem_map_of_mem (f := some) hown
      rw [hr.ownRead] at hmem
      obtain ⟨origin, -, horigin⟩ := List.mem_map.1 hmem
      exact ⟨origin, horigin⟩
    · have hmem := List.mem_map_of_mem (f := some) hother
      rw [hothers] at hmem
      obtain ⟨origin, -, horigin⟩ := List.mem_map.1 hmem
      exact ⟨origin, horigin⟩
  obtain ⟨origin, horigin⟩ := hread
  obtain ⟨bytes, hparse⟩ := Origin.exists_parse horigin
  exact ClassFile.parse_measured hparse

end Crawl

/-! ## Markers -/

namespace Analysis

variable {σ ε : Type}

theorem standard_perm : standard.guidelines.Perm Guideline.registry := List.mergeSort_perm ..

/-- A marker that is found comes from a finding of a guideline on one of the classes. -/
theorem exists_of_mem_found {a : Analysis} {p : Project σ ε} {classes : List ClassDecl} {s : σ}
    {m : Marker} (h : m ∈ a.found p classes s) :
    ∃ c ∈ classes, ∃ g ∈ a.guidelines, ∃ findings, g.check ⟨classes⟩ c = .ok findings ∧
      ∃ f ∈ findings, ∃ resource, m = f.toMarker g c resource := by
  rw [found, allMarkers_outcomes] at h
  obtain ⟨⟨c, resource⟩, htarget, h⟩ := List.mem_flatMap.1 h
  obtain ⟨g, hg, h⟩ := List.mem_flatMap.1 h
  have hc : c ∈ classes := by
    obtain ⟨c', hc', hsource⟩ := List.mem_filterMap.1 htarget
    obtain ⟨_, -, heq⟩ := Option.map_eq_some_iff.1 hsource
    cases heq
    exact hc'
  unfold guidelineMarkers at h
  split at h
  · rename_i findings hcheck
    obtain ⟨f, hf, rfl⟩ := List.mem_map.1 h
    exact ⟨c, hc, g, hg, findings, hcheck, f, hf, resource, rfl⟩
  · cases h

/-- **The markers found in parsed classes fit into a store.** -/
theorem fits_found {p : Project σ ε} {classes : List ClassDecl} {s : σ}
    (hclasses : ∀ c ∈ classes, ∀ m ∈ c.methods, m.Measured) :
    ∀ m ∈ standard.found p classes s, m.Fits := by
  intro m hm
  obtain ⟨c, hc, g, hg, findings, hcheck, f, hf, resource, rfl⟩ := exists_of_mem_found hm
  have hinto := Guideline.pointsInto_registry (standard_perm.mem_iff.1 hg) hcheck f hf
  exact hinto.fits_toMarker (hclasses c hc) g resource

end Analysis

end BytecodeLint
