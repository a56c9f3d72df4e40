import BytecodeLint.Project.Directory
import BytecodeLint.Proofs.FileTree
import BytecodeLint.Proofs.Json.ShapeExtent

/-!
# What of a store is read

The text of a store is read from the front, up to the end of the document. A text that was cut off
inside the document is refused. What follows the document is not looked at, so a store is not
refused for it, be it the end of a longer store or a second one.

* `IsDocument`: one complete JSON value.
* `takes_document`: a document is over with its last character.
* `exists_document`, `read_append`, `read_cut`: texts that are read, with more behind and cut off.
* `store_read_to_document`: the same of the store of a project.
* `scrap_accepted`: a store that is read though it is no JSON text.
-/

namespace BytecodeLint

namespace MarkerStore

open Json (Takes takes_field takes_text takes_word takes_optional takes_array)

/-- A text that is one complete JSON value: whoever passes over it is done with its last character,
whatever follows. -/
def IsDocument (doc : String) : Prop := ∀ tail, Json.Skim.value (doc.toList ++ tail) = .ok tail

theorem takes_resource : Takes true resourceRecord.shape := by
  refine Json.Record.takes_shape (fun f hf d => ?_) (by simp [resourceRecord])
  simp only [resourceRecord, List.mem_cons, List.not_mem_nil, or_false] at hf
  subst hf
  exact takes_field takes_text.weaken d

theorem takes_marker : Takes true markerRecord.shape := by
  refine Json.Record.takes_shape (fun f hf d => ?_) (by simp [markerRecord])
  simp only [markerRecord, List.mem_cons, List.not_mem_nil, or_false] at hf
  rcases hf with rfl | rfl | rfl | rfl | rfl | rfl | rfl | rfl
  · exact takes_field takes_text.weaken d
  · exact takes_field takes_text.weaken d
  · exact takes_field takes_text.weaken d
  · exact takes_field takes_text.weaken d
  · exact takes_field takes_resource.weaken d
  · exact takes_field takes_text.weaken d
  · exact takes_field takes_word d
  · exact takes_field (takes_optional takes_word) d

theorem takes_document : Takes true documentRecord.shape := by
  refine Json.Record.takes_shape (fun f hf d => ?_) (by simp [documentRecord])
  simp only [documentRecord, List.mem_cons, List.not_mem_nil, or_false] at hf
  rcases hf with rfl | rfl
  · exact takes_field takes_word d
  · exact takes_field (takes_array takes_marker.weaken).weaken d

/-- Whatever has the shape of a document starts with one, and is read so before any other text. -/
theorem document_of_shape {cs rest : List Char} {v : Nat × List Marker}
    (h : documentRecord.shape [] cs = .ok (v, rest)) :
    ∃ doc : String, cs = doc.toList ++ rest ∧ IsDocument doc ∧
      ∀ tail, documentRecord.shape [] (doc.toList ++ tail) = .ok (v, tail) := by
  obtain ⟨front, rfl, hfront⟩ := takes_document h
  refine ⟨String.ofList front, by simp, fun tail => ?_, fun tail => ?_⟩
  · rw [String.toList_ofList]
    exact (hfront tail nofun).2 []
  · rw [String.toList_ofList]
    exact (hfront tail nofun).1

theorem read_eq_ok_iff {text : String} {ms : List Marker} :
    read text = .ok ms ↔
      ∃ rest, documentRecord.shape [] text.toList = .ok ((version, ms), rest) := by
  unfold read
  split
  · rename_i hshape
    simp [hshape]
  · rename_i found ms' rest hshape
    by_cases hfound : found = version <;> simp [hshape, hfound]

/-- **Texts that are read** start with a document, and whatever follows it can be exchanged. -/
theorem exists_document {text : String} {ms : List Marker} (h : read text = .ok ms) :
    ∃ doc rest, text = doc ++ rest ∧ IsDocument doc ∧ ∀ tail, read (doc ++ tail) = .ok ms := by
  obtain ⟨rest, hshape⟩ := read_eq_ok_iff.1 h
  obtain ⟨doc, hcs, hdoc, hany⟩ := document_of_shape hshape
  refine ⟨doc, String.ofList rest, ?_, hdoc, fun tail => ?_⟩
  · rw [← String.toList_inj, String.toList_append, String.toList_ofList, hcs]
  · refine read_eq_ok_iff.2 ⟨tail.toList, ?_⟩
    rw [String.toList_append, hany]

theorem read_append {text : String} {ms : List Marker} (h : read text = .ok ms) (tail : String) :
    read (text ++ tail) = .ok ms := by
  obtain ⟨doc, rest, rfl, -, hany⟩ := exists_document h
  rw [String.append_assoc, hany]

/-- **Texts that are cut off** inside a document are no JSON. Were one read, then passing over the
document would end inside it. -/
theorem read_cut {cut more : String} (hdoc : IsDocument (cut ++ more)) (hmore : more ≠ "") :
    ∃ fault, read cut = .error (.json fault) := by
  cases hshape : documentRecord.shape [] cut.toList with
  | error fault => exact ⟨fault, by simp only [read, hshape]⟩
  | ok found =>
    obtain ⟨v, rest⟩ := found
    obtain ⟨doc, hcut, hfirst, -⟩ := document_of_shape hshape
    have hwhole := hdoc []
    rw [List.append_nil, String.toList_append, hcut, List.append_assoc, hfirst] at hwhole
    have hnil : rest ++ more.toList = [] := Except.ok.inj hwhole
    exact absurd (String.toList_eq_nil_iff.1 (List.append_eq_nil_iff.1 hnil).2) hmore

end MarkerStore

namespace DirectoryProject

open MarkerStore (IsDocument)

section
variable {t : FileTree} {store : Path} {text : String}

theorem hasEntry_of_readText (htext : t.readText store = .ok text) : t.hasEntry store = true := by
  unfold FileTree.readText FileTree.read at htext
  cases hlookup : t.lookup store with
  | ok entry => simp [FileTree.hasEntry, hlookup]
  | error fault => simp [hlookup] at htext

theorem load_eq_ok_iff (htext : t.readText store = .ok text) {ms : List Marker} :
    load t store = .ok ms ↔ MarkerStore.read text = .ok ms := by
  simp only [load, hasEntry_of_readText htext, htext, ↓reduceIte]
  split <;> simp [*]

theorem load_of_fault (htext : t.readText store = .ok text) {fault : JsonFault}
    (h : MarkerStore.read text = .error (.json fault)) :
    load t store = .error (.corrupt store fault) := by
  simp only [load, hasEntry_of_readText htext, htext, h, ↓reduceIte]

/-- **A store is read up to the end of its document.** The stores that are accepted are those whose
text starts with a complete document of the right shape. Whatever stands behind an accepted text
changes nothing, and a text that was cut off inside a document is reported as corrupt. -/
theorem store_read_to_document (htext : t.readText store = .ok text) :
    (∀ ms, load t store = .ok ms ↔
      ∃ doc rest, text = doc ++ rest ∧ IsDocument doc ∧ MarkerStore.read doc = .ok ms) ∧
    (∀ accepted suffix ms, text = accepted ++ suffix → MarkerStore.read accepted = .ok ms →
      load t store = .ok ms) ∧
    (∀ more, more ≠ "" → IsDocument (text ++ more) →
      ∃ fault, load t store = .error (.corrupt store fault)) := by
  refine ⟨fun ms => ⟨fun h => ?_, ?_⟩, ?_, fun more hmore hdoc => ?_⟩
  · obtain ⟨doc, rest, htext', hdoc, hany⟩ :=
      MarkerStore.exists_document ((load_eq_ok_iff htext).1 h)
    refine ⟨doc, rest, htext', hdoc, ?_⟩
    simpa using hany ""
  · rintro ⟨doc, rest, rfl, -, hread⟩
    exact (load_eq_ok_iff htext).2 (MarkerStore.read_append hread rest)
  · rintro accepted suffix ms rfl hread
    exact (load_eq_ok_iff htext).2 (MarkerStore.read_append hread suffix)
  · obtain ⟨fault, hfault⟩ := MarkerStore.read_cut hdoc hmore
    exact ⟨fault, load_of_fault htext hfault⟩

end

/-! ## Scraps behind a store -/

/-- The text of a store without markers. -/
def emptyStore : String := "\x7b\"version\":1,\"markers\":[]\x7d"

/-- A directory with a store of the given text. -/
def withStore (text : String) : FileTree where
  entries := [(["w"], .directory), (["w", "m.json"], .file text.toUTF8)]
  workingDirectory := ["w"]
  distinct := by simp

theorem readText_withStore (text : String) :
    (withStore text).readText ⟨"m.json"⟩ = .ok text := by
  have hread : (withStore text).read ⟨"m.json"⟩ = .ok text.toUTF8 := rfl
  simp only [FileTree.readText, hread, FileTree.fromUTF8?_toUTF8]

theorem read_emptyStore : MarkerStore.read emptyStore = .ok [] := by
  have hread : (MarkerStore.read emptyStore).toOption = some [] := by decide +kernel
  exact eq_ok_of_toOption hread

theorem isDocument_emptyStore : IsDocument emptyStore := fun _ => rfl

/-- Two stores, one behind the other, are read as the first; half a store is not read. -/
theorem doubled_store_read :
    (withStore (emptyStore ++ emptyStore)).readText ⟨"m.json"⟩ = .ok (emptyStore ++ emptyStore) ∧
      load (withStore (emptyStore ++ emptyStore)) ⟨"m.json"⟩ = .ok [] ∧
      ∃ fault, load (withStore "\x7b\"version\":1") ⟨"m.json"⟩ =
        .error (.corrupt ⟨"m.json"⟩ fault) := by
  have htext := readText_withStore (emptyStore ++ emptyStore)
  have hcut := readText_withStore "\x7b\"version\":1"
  refine ⟨htext, ?_, ?_⟩
  · exact (store_read_to_document htext).2.1 emptyStore emptyStore [] rfl read_emptyStore
  · exact (store_read_to_document hcut).2.2 ",\"markers\":[]\x7d" (by decide) isDocument_emptyStore

/-- A store is not refused for a letter behind it. -/
theorem scrap_accepted :
    load (withStore emptyStore) ⟨"m.json"⟩ = .ok [] ∧ Json.isSpace 'x' = false ∧
      load (withStore (emptyStore ++ "x")) ⟨"m.json"⟩ = .ok [] :=
  ⟨(load_eq_ok_iff (readText_withStore _)).2 read_emptyStore, rfl,
    (load_eq_ok_iff (readText_withStore _)).2 (MarkerStore.read_append read_emptyStore "x")⟩

end DirectoryProject

end BytecodeLint
