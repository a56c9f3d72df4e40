import BytecodeLint.Marker.Store
import BytecodeLint.Proofs.Json.Record

/-!
# The marker store keeps markers

Markers are written as one document and read from it again. Texts may hold any characters; offsets
and lines are numbers of 32 bits (`Marker.Fits`).

* `MarkerStore.read_write`: what is read from a written document is what was written.
* `MarkerStore.fits_of_read`: whatever the text, the markers read from it can be written again.
-/

namespace BytecodeLint

/-- The offset, and the line if there is one, are numbers of 32 bits. -/
structure Marker.Fits (m : Marker) : Prop where
  offset : m.offset < 4294967296
  line : ∀ n ∈ m.line, n < 4294967296

namespace MarkerStore

open Json

/-! ## Reading a written document -/

theorem reads_resource (r : Resource) (level : Nat) :
    Reads resourceRecord.shape r (render level (resourceJson r)) := by
  have hfills : Fills resourceRecord.fields (level + 1) {} [("path", .text r.path)]
      { path := some r.path } :=
    .cons rfl rfl (reads_field (reads_text _ _)) (.nil _)
  exact Record.reads_shape hfills rfl

/-- A marker as far as it is read before its line. -/
def draftOf (m : Marker) : MarkerDraft where
  guidelineId := some m.guidelineId
  title := some m.title
  description := some m.description
  message := some m.message
  resource := some m.resource
  location := some m.location
  offset := some m.offset

theorem fills_line {m : Marker} (h : m.Fits) (level : Nat) :
    ∃ d, Fills markerRecord.fields level (draftOf m) (lineJson m.line) d ∧
      markerRecord.finish d = some m := by
  rcases m with ⟨guidelineId, title, description, message, resource, location, offset, _ | line⟩
  · exact ⟨_, .nil _, rfl⟩
  · have hline : line < 4294967296 := h.line line rfl
    exact ⟨_, .cons rfl rfl (reads_field (reads_optional (reads_word hline level))) (.nil _), rfl⟩

theorem reads_marker {m : Marker} (h : m.Fits) (level : Nat) :
    Reads markerRecord.shape m (render level (markerJson m)) := by
  obtain ⟨d, hline, hfinish⟩ := fills_line h (level + 1)
  refine Record.reads_shape ?_ hfinish
  refine .cons rfl rfl (reads_field (reads_text _ _)) ?_
  refine .cons rfl rfl (reads_field (reads_text _ _)) ?_
  refine .cons rfl rfl (reads_field (reads_text _ _)) ?_
  refine .cons rfl rfl (reads_field (reads_text _ _)) ?_
  refine .cons rfl rfl (reads_field (reads_resource _ _)) ?_
  refine .cons rfl rfl (reads_field (reads_text _ _)) ?_
  refine .cons rfl rfl (reads_field (reads_word h.offset _)) ?_
  exact hline

theorem reads_markers {ms : List Marker} (h : ∀ m ∈ ms, m.Fits) (level : Nat) :
    Reads (arrayShape markerRecord.shape) ms (render level (.array (ms.map markerJson))) := by
  have hitems : ∀ x ∈ ms.map (fun m => (m, markerJson m)),
      Reads markerRecord.shape x.1 (render (level + 1) x.2) := by
    intro x hx
    obtain ⟨m, hm, rfl⟩ := List.mem_map.1 hx
    exact reads_marker (h m hm) (level + 1)
  simpa [Function.comp_def] using reads_array (ms.map fun m => (m, markerJson m)) hitems

/-- **Reading undoes writing**, for any texts, any number of markers, and any offsets and lines of 32
bits. -/
theorem read_write {ms : List Marker} (h : ∀ m ∈ ms, m.Fits) : read (write ms) = .ok ms := by
  have hversion : version < 4294967296 := by decide
  have hfills : Fills documentRecord.fields 1 {}
      [("version", .number version), ("markers", .array (ms.map markerJson))]
      { version := some version, markers := some ms } :=
    .cons rfl rfl (reads_field (reads_word hversion 1))
      (.cons rfl rfl (reads_field (reads_markers h 1)) (.nil _))
  have hdocument : Reads documentRecord.shape (version, ms) (render 0 (toJson ms)) :=
    Record.reads_shape hfills rfl
  have hread := hdocument [] (render 0 (toJson ms) ++ ['\n']) ['\n'] (skipSpace_render ..)
    ⟨[], .inr rfl⟩
  simp [read, write, document, hread]

/-! ## What a store can hold -/

/-- The numbers read so far have 32 bits. -/
structure MarkerDraft.Fits (d : MarkerDraft) : Prop where
  offset : ∀ n ∈ d.offset, n < 4294967296
  line : ∀ line ∈ d.line, ∀ n ∈ line, n < 4294967296

theorem yields_any {α : Type} (shape : Shape α) : Yields shape fun _ => True :=
  fun _ _ _ _ _ => trivial

/-- A field whose shape says nothing of its value, and which leaves the numbers alone. -/
theorem yields_other {α : Type} {name : String} {shape : Shape α} {get : MarkerDraft → Option α}
    {set : MarkerDraft → α → MarkerDraft} {d : MarkerDraft} (h : ∀ v, (set d v).Fits) :
    Yields ((Field.of name shape get set).read d) MarkerDraft.Fits :=
  yields_field (yields_any shape) fun v _ => h v

theorem yields_marker : Yields markerRecord.shape Marker.Fits := by
  have hfields : ∀ f ∈ markerRecord.fields, ∀ d : MarkerDraft, d.Fits →
      Yields (f.read d) MarkerDraft.Fits := by
    intro f hf d hd
    simp only [markerRecord, List.mem_cons, List.not_mem_nil, or_false] at hf
    rcases hf with rfl | rfl | rfl | rfl | rfl | rfl | rfl | rfl
    -- the offset and the line; the other fields leave both alone
    case inr.inr.inr.inr.inr.inr.inl =>
      exact yields_field yields_word fun n hn => ⟨by simpa using hn, hd.line⟩
    case inr.inr.inr.inr.inr.inr.inr =>
      exact yields_field (yields_optional yields_word) fun n hn => ⟨hd.offset, by simpa using hn⟩
    all_goals exact yields_other fun v => ⟨hd.offset, hd.line⟩
  refine Record.yields_shape hfields ⟨by simp [markerRecord], by simp [markerRecord]⟩ ?_
  intro d m hd hfinish
  simp only [markerRecord, MarkerDraft.finish, Option.bind_eq_bind, Option.bind_eq_some_iff,
    Option.some.injEq] at hfinish
  obtain ⟨_, -, _, -, _, -, _, -, _, -, _, -, offset, hoffset, rfl⟩ := hfinish
  refine ⟨hd.offset offset hoffset, ?_⟩
  cases hline : d.line with
  | none => simp
  | some line => exact hd.line line hline

/-- The markers read so far have numbers of 32 bits. -/
structure DocumentDraft.Fits (d : DocumentDraft) : Prop where
  markers : ∀ ms ∈ d.markers, ∀ m ∈ ms, Marker.Fits m

theorem yields_document :
    Yields documentRecord.shape fun v => ∀ m ∈ v.2, Marker.Fits m := by
  have hfields : ∀ f ∈ documentRecord.fields, ∀ d : DocumentDraft, d.Fits →
      Yields (f.read d) DocumentDraft.Fits := by
    intro f hf d hd
    simp only [documentRecord, List.mem_cons, List.not_mem_nil, or_false] at hf
    rcases hf with rfl | rfl
    · exact yields_field (yields_any wordShape) fun _ _ => ⟨hd.markers⟩
    · exact yields_field (yields_array yields_marker) fun ms hms =>
        ⟨by simpa using hms⟩
  refine Record.yields_shape hfields ⟨by simp [documentRecord]⟩ ?_
  intro d v hd hfinish
  simp only [documentRecord, DocumentDraft.finish, Option.bind_eq_bind, Option.bind_eq_some_iff,
    Option.some.injEq] at hfinish
  obtain ⟨_, -, ms, hms, rfl⟩ := hfinish
  exact hd.markers ms hms

/-- Whatever the text, the markers read from it have numbers of 32 bits. -/
theorem fits_of_read {text : String} {ms : List Marker} (h : read text = .ok ms) :
    ∀ m ∈ ms, m.Fits := by
  unfold read at h
  split at h
  · cases h
  · rename_i found markers rest hread
    split at h
    · cases h
      exact yields_document _ _ _ _ hread
    · cases h

end MarkerStore

end BytecodeLint
