import BytecodeLint.Guideline.Registry
import BytecodeLint.Proofs.Bytecode.Coded
import BytecodeLint.Proofs.Class.Index
import Mathlib.Data.List.Nodup

/-!
# Where findings stand

A finding carries its method and its instruction, but not where they are. A `Sighting` adds the
place: the position of the method in the class and that of the instruction in the method. Findings
can be placed (`Placeable`) when there are sightings of them in ascending order of places; then each
of them stands at an instruction of the class and no two at the same one.

The guidelines go over a class in three ways: over all instructions, over the instructions of one
method, and over the first instructions of methods. All three are put together from findings in one
method and from findings in neighbouring methods (`placeable_findings`, `Placeable.append`).

* `Guideline.exists_placeable`: every guideline of the registry finishes, and what it finds can be
  placed.
* `Sighting.key_ne`: in decoded bodies offsets grow with positions, so a place can be told from the
  method and the offset alone.
-/
namespace BytecodeLint

/-- A finding with its place: the position of its method in the class and that of its instruction in
the method. -/
structure Sighting where
  methodAt : Nat
  instructionAt : Nat
  finding : Finding
  deriving DecidableEq, Repr

namespace Sighting

/-- The place comes earlier, in the order of methods and then of instructions. -/
def Before (a b : Sighting) : Prop :=
  a.methodAt < b.methodAt ∨ a.methodAt = b.methodAt ∧ a.instructionAt < b.instructionAt

/-- Method and instruction of the finding are those that the methods have at its place. -/
structure Within (methods : List MethodDecl) (s : Sighting) : Prop where
  method : methods[s.methodAt]? = some s.finding.method
  instruction : s.finding.method.instructions[s.instructionAt]? = some s.finding.instruction

/-- The sighting when other methods stand in front. -/
def behind (n : Nat) (s : Sighting) : Sighting := { s with methodAt := s.methodAt + n }

theorem Within.append_right {methods : List MethodDecl} {s : Sighting} (h : s.Within methods)
    (later : List MethodDecl) : s.Within (methods ++ later) where
  method := by
    obtain ⟨hlt, -⟩ := List.getElem?_eq_some_iff.1 h.method
    rw [List.getElem?_append_left hlt, h.method]
  instruction := h.instruction

theorem Within.append_left {methods : List MethodDecl} {s : Sighting} (h : s.Within methods)
    (front : List MethodDecl) : (s.behind front.length).Within (front ++ methods) where
  method := by
    rw [behind, List.getElem?_append_right (Nat.le_add_left ..), Nat.add_sub_cancel, h.method]
  instruction := h.instruction

end Sighting

/-- Findings on methods that stand at ascending places. -/
def Placeable (methods : List MethodDecl) (fs : List Finding) : Prop :=
  ∃ ss : List Sighting, ss.map Sighting.finding = fs ∧ (∀ s ∈ ss, s.Within methods) ∧
    ss.Pairwise Sighting.Before

namespace Placeable

theorem nil (methods : List MethodDecl) : Placeable methods [] :=
  ⟨[], rfl, fun _ hs => absurd hs List.not_mem_nil, .nil⟩

/-- Findings on neighbouring methods follow each other. -/
theorem append {methods methods' : List MethodDecl} {fs fs' : List Finding}
    (h : Placeable methods fs) (h' : Placeable methods' fs') :
    Placeable (methods ++ methods') (fs ++ fs') := by
  obtain ⟨ss, rfl, hwithin, hbefore⟩ := h
  obtain ⟨ss', rfl, hwithin', hbefore'⟩ := h'
  refine ⟨ss ++ ss'.map (Sighting.behind methods.length), ?_, fun s hs => ?_, ?_⟩
  · rw [List.map_append, List.map_map]
    rfl
  · rcases List.mem_append.1 hs with hs | hs
    · exact (hwithin s hs).append_right methods'
    · obtain ⟨t, ht, rfl⟩ := List.mem_map.1 hs
      exact (hwithin' t ht).append_left methods
  · refine List.pairwise_append.2 ⟨hbefore, ?_, fun s hs t ht => .inl ?_⟩
    · refine hbefore'.map _ fun a b hab => ?_
      unfold Sighting.Before at hab ⊢
      simp only [Sighting.behind]
      omega
    · obtain ⟨t, -, rfl⟩ := List.mem_map.1 ht
      obtain ⟨hlt, -⟩ := List.getElem?_eq_some_iff.1 (hwithin s hs).method
      exact Nat.lt_of_lt_of_le hlt (Nat.le_add_left ..)

/-- Findings are gone through method by method. -/
theorem flatMap {f : MethodDecl → List Finding} (h : ∀ m, Placeable [m] (f m))
    (methods : List MethodDecl) : Placeable methods (methods.flatMap f) := by
  induction methods with
  | nil => exact .nil []
  | cons m methods ih => exact (h m).append ih

/-- Findings on one of the methods are findings on all of them. -/
theorem of_mem {m : MethodDecl} {fs : List Finding} (h : Placeable [m] fs)
    {methods : List MethodDecl} (hm : m ∈ methods) : Placeable methods fs := by
  obtain ⟨front, later, rfl⟩ := List.append_of_mem hm
  have hall := (nil front).append (h.append (nil later))
  rwa [List.nil_append, List.append_nil] at hall

end Placeable

theorem pairwise_zipIdx {α : Type} (xs : List α) : xs.zipIdx.Pairwise fun a b => a.2 < b.2 := by
  have hrange : (xs.zipIdx.map Prod.snd).Pairwise (· < ·) := by
    rw [List.zipIdx_map_snd]
    exact List.pairwise_lt_range'
  exact List.pairwise_map.1 hrange

/-- The findings in a method stand at the instructions that they were found at. -/
theorem placeable_findings (m : MethodDecl) (message? : Instruction → Option String) :
    Placeable [m] (m.findings message?) := by
  refine ⟨m.instructions.zipIdx.filterMap fun e =>
    (message? e.1).map fun text => ⟨0, e.2, m, e.1, text⟩, ?_, fun s hs => ?_, ?_⟩
  · rw [List.map_filterMap, MethodDecl.findings]
    conv_rhs => rw [← m.instructions.zipIdx_map_fst 0, List.filterMap_map]
    simp only [Option.map_map]
    rfl
  · obtain ⟨e, he, hs⟩ := List.mem_filterMap.1 hs
    obtain ⟨text, -, rfl⟩ := Option.map_eq_some_iff.1 hs
    exact ⟨rfl, List.mem_zipIdx_iff_getElem?.1 he⟩
  · refine List.pairwise_filterMap.2 ((pairwise_zipIdx m.instructions).imp fun hlt a ha b hb => ?_)
    obtain ⟨_, -, rfl⟩ := Option.map_eq_some_iff.1 ha
    obtain ⟨_, -, rfl⟩ := Option.map_eq_some_iff.1 hb
    exact .inr ⟨rfl, hlt⟩

/-- A finding at the first instruction of a method. -/
theorem placeable_first {m : MethodDecl} {first : Instruction} {rest : List Instruction}
    (h : m.instructions = first :: rest) (text : String) : Placeable [m] [⟨m, first, text⟩] :=
  ⟨[⟨0, 0, m, first, text⟩], rfl, fun s hs => by
    cases List.mem_singleton.1 hs
    exact ⟨rfl, by simp [h]⟩, List.pairwise_singleton _ _⟩

theorem ClassDecl.placeable_findings (c : ClassDecl)
    (message? : MethodDecl → Instruction → Option String) :
    Placeable c.methods (c.findings message?) :=
  .flatMap (fun m => BytecodeLint.placeable_findings m (message? m)) c.methods

/-! ## The guidelines -/

namespace Guideline

theorem ConstantFinal.placeable_findings (c : ClassDecl) :
    Placeable c.methods (ConstantFinal.findings c) := by
  unfold ConstantFinal.findings
  split
  · exact .nil _
  · split
    · rename_i m hfirst
      exact (BytecodeLint.placeable_findings m _).of_mem (List.mem_of_find?_eq_some hfirst)
    · exact .nil _

theorem PreferStatic.placeable_findings (index : ClassIndex) (c : ClassDecl) :
    Placeable c.methods (PreferStatic.findings index c) := by
  unfold PreferStatic.findings
  split
  · exact .nil _
  · rw [List.filterMap_eq_flatMap_toList]
    refine .flatMap (fun m => ?_) c.methods
    unfold PreferStatic.methodFinding?
    split
    · split
      · rename_i first rest hfirst
        split
        · exact .nil _
        · exact placeable_first hfirst _
      · exact .nil _
    · exact .nil _

theorem AvoidEnums.placeable_findings (index : ClassIndex) (c : ClassDecl) :
    Placeable c.methods (AvoidEnums.findings index c) := by
  unfold AvoidEnums.findings
  split
  · exact .nil _
  · exact c.placeable_findings _

/-- Every guideline finishes its check of a class, and its findings can be placed. -/
theorem exists_placeable {g : Guideline} (hg : g ∈ registry) (index : ClassIndex) (c : ClassDecl) :
    ∃ fs, g.check index c = .ok fs ∧ Placeable c.methods fs := by
  simp only [registry, List.mem_cons, List.not_mem_nil, or_false] at hg
  rcases hg with rfl | rfl | rfl | rfl | rfl | rfl | rfl | rfl
  · exact ⟨_, rfl, AvoidEnums.placeable_findings index c⟩
  · exact ⟨_, rfl, c.placeable_findings _⟩
  · exact ⟨_, rfl, c.placeable_findings _⟩
  · exact ⟨_, rfl, ConstantFinal.placeable_findings c⟩
  · exact ⟨_, rfl, c.placeable_findings _⟩
  · exact ⟨_, rfl, c.placeable_findings _⟩
  · exact ⟨_, rfl, PreferStatic.placeable_findings index c⟩
  · exact ⟨_, rfl, c.placeable_findings _⟩

end Guideline

/-! ## Offsets as places -/

/-- The bodies of all methods have been decoded, each from some code. -/
def ClassDecl.Decoded (c : ClassDecl) : Prop :=
  ∀ m ∈ c.methods, ∃ pool code, Bytecode.decode pool code = .ok m.instructions

theorem Bytecode.offset_lt_of_lt {pool : ConstantPool} {code : Bytes} {is : List Instruction}
    (h : decode pool code = .ok is) {k l : Nat} (hlt : k < l) {i j : Instruction}
    (hi : is[k]? = some i) (hj : is[l]? = some j) : i.offset < j.offset := by
  have hoffsets : is.Pairwise fun a b => a.offset < b.offset :=
    List.pairwise_map.1 (tiling_of_decodeFrom (Nat.zero_le _) h).1.pairwise_lt.2
  obtain ⟨hk, rfl⟩ := List.getElem?_eq_some_iff.1 hi
  obtain ⟨hl, rfl⟩ := List.getElem?_eq_some_iff.1 hj
  exact List.pairwise_iff_getElem.1 hoffsets k l hk hl hlt

namespace Sighting

/-- What a marker of the sighting tells about its place. -/
def key (c : ClassDecl) (s : Sighting) : String × Nat × Nat :=
  (c.name, s.methodAt, s.finding.offset)

theorem key_ne {c : ClassDecl} (hdecoded : c.Decoded) {s t : Sighting} (hs : s.Within c.methods)
    (ht : t.Within c.methods) (h : s.Before t) : s.key c ≠ t.key c := by
  intro heq
  obtain ⟨hmethod, hoffset⟩ : s.methodAt = t.methodAt ∧ s.finding.offset = t.finding.offset := by
    simpa [key] using heq
  rcases h with hlt | ⟨-, hlt⟩
  · omega
  · have hsame : s.finding.method = t.finding.method := by
      have hfound := hs.method
      rw [hmethod, ht.method] at hfound
      exact (Option.some.inj hfound).symm
    obtain ⟨pool, code, hcode⟩ := hdecoded _ (List.mem_of_getElem? hs.method)
    have hless := Bytecode.offset_lt_of_lt hcode hlt hs.instruction (hsame ▸ ht.instruction)
    exact Nat.ne_of_lt hless hoffset

end Sighting

/-- Where names are distinct and bodies decoded, the sightings on all classes have distinct keys. -/
theorem nodup_keys {classes : List ClassDecl} (hdistinct : (classes.map ClassDecl.name).Nodup)
    (hdecoded : ∀ c ∈ classes, c.Decoded) {sightings : ClassDecl → List Sighting}
    (hwithin : ∀ c ∈ classes, ∀ s ∈ sightings c, s.Within c.methods)
    (hbefore : ∀ c ∈ classes, (sightings c).Pairwise Sighting.Before) :
    (classes.flatMap fun c => (sightings c).map (Sighting.key c)).Nodup := by
  refine List.nodup_flatMap.2 ⟨fun c hc => ?_, ?_⟩
  · refine List.pairwise_map.2 ((hbefore c hc).imp_of_mem fun hs ht h => ?_)
    exact Sighting.key_ne (hdecoded c hc) (hwithin c hc _ hs) (hwithin c hc _ ht) h
  · refine (List.pairwise_map.1 hdistinct).imp fun hname => ?_
    intro key hkey hkey'
    obtain ⟨s, -, rfl⟩ := List.mem_map.1 hkey
    obtain ⟨t, -, hkeys⟩ := List.mem_map.1 hkey'
    exact hname (congrArg Prod.fst hkeys).symm

/-- **Findings are located, ordered and unique.** Classes with distinct names are indexed, and every
guideline of the registry finishes its check of each of them. What it finds on a class stands at
ascending places of that class, in the order of methods and then of instructions. The marker made of
a finding tells the offset of the instruction at its place, the source line of this offset in the
method at its place, and the names of class and method with the descriptor. Where the bodies have
been decoded, no two findings of a guideline agree on class, position of the method and offset. -/
theorem findings_located {classes : List ClassDecl}
    (hdistinct : (classes.map ClassDecl.name).Nodup) :
    ∃ index, ClassIndex.build classes = .ok index ∧ ∀ g ∈ Guideline.registry,
      ∃ sightings : ClassDecl → List Sighting,
        (∀ c ∈ classes,
          g.check index c = .ok ((sightings c).map Sighting.finding) ∧
          (sightings c).Pairwise Sighting.Before ∧
          ∀ s ∈ sightings c, s.Within c.methods ∧
            ∃ m i, c.methods[s.methodAt]? = some m ∧ m.instructions[s.instructionAt]? = some i ∧
              ∀ resource, (s.finding.toMarker g c resource).offset = i.offset ∧
                (s.finding.toMarker g c resource).line = m.line? i.offset ∧
                (s.finding.toMarker g c resource).location =
                  c.name ++ "." ++ (m.name ++ m.descriptor)) ∧
        ((∀ c ∈ classes, c.Decoded) →
          (classes.flatMap fun c => (sightings c).map (Sighting.key c)).Nodup) := by
  refine ⟨_, ClassIndex.build_eq_ok hdistinct, fun g hg => ?_⟩
  choose findings hcheck sightings hfindings hwithin hbefore using
    fun c => Guideline.exists_placeable hg ⟨classes⟩ c
  refine ⟨sightings, fun c _ => ⟨?_, hbefore c, fun s hs => ⟨hwithin c s hs, ?_⟩⟩,
    fun hdecoded => nodup_keys hdistinct hdecoded (fun c _ => hwithin c) fun c _ => hbefore c⟩
  · rw [hcheck, hfindings]
  · exact ⟨_, _, (hwithin c s hs).method, (hwithin c s hs).instruction,
      fun resource => ⟨rfl, rfl, rfl⟩⟩

/-! ### Three sums in two methods -/

/-- Adds floats, then doubles. -/
def twoSums : MethodDecl where
  name := "two"
  descriptor := "()V"
  instructions := [⟨0, 0x62, .other⟩, ⟨1, 0x63, .other⟩, ⟨2, 0xb1, .other⟩]
  lines := [⟨0, 7⟩, ⟨1, 8⟩]

/-- Adds floats. -/
def oneSum : MethodDecl where
  name := "one"
  descriptor := "()V"
  instructions := [⟨0, 0x62, .other⟩, ⟨1, 0xb1, .other⟩]

def sums : ClassDecl where
  name := "p/Sums"
  methods := [twoSums, oneSum]

theorem decoded_sums : sums.Decoded := by
  intro m hm
  simp only [sums, List.mem_cons, List.not_mem_nil, or_false] at hm
  rcases hm with rfl | rfl
  · exact ⟨⟨#[]⟩, [0x62, 0x63, 0xb1], by decide +kernel⟩
  · exact ⟨⟨#[]⟩, [0x62, 0xb1], by decide +kernel⟩

/-- Both methods have a sum at offset zero. Their keys differ all the same. -/
theorem sums_located :
    ([sums].map ClassDecl.name).Nodup ∧ ∃ index, ClassIndex.build [sums] = .ok index ∧
      ∃ ss : List Sighting, Guideline.AvoidFloat.guideline.check index sums =
          .ok (ss.map Sighting.finding) ∧
        ss.map (fun s => s.finding.offset) = [0, 1, 0] ∧ (ss.map (Sighting.key sums)).Nodup := by
  have hdistinct : ([sums].map ClassDecl.name).Nodup := by decide
  obtain ⟨index, hindex, hall⟩ := findings_located hdistinct
  obtain ⟨sightings, hsightings, hkeys⟩ :=
    hall Guideline.AvoidFloat.guideline (by simp [Guideline.registry])
  obtain ⟨hcheck, -, -⟩ := hsightings sums List.mem_cons_self
  refine ⟨hdistinct, index, hindex, sightings sums, hcheck, ?_, ?_⟩
  · have hfound : (Guideline.AvoidFloat.findings sums).map Finding.offset = [0, 1, 0] := by decide
    rw [← hfound, Except.ok.inj hcheck, List.map_map]
    rfl
  · have hnodup := hkeys fun c hc => (List.mem_singleton.1 hc) ▸ decoded_sums
    rwa [List.flatMap_cons, List.flatMap_nil, List.append_nil] at hnodup

end BytecodeLint
