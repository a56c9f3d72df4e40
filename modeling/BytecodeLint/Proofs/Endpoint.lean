import BytecodeLint.Endpoint
import BytecodeLint.Proofs.Url.LongForm

/-!
# The trace endpoint is settled

Traces go to a path that is chosen by the text of the path, but kept in segments. Both views agree
(`exists_tracesPath`), so the path that is chosen is neither the root nor one for logs, and
choosing again changes nothing. With what is known of reading URLs, an endpoint that has been found
is found again, unless its host holds a form that is too long to be read.
-/
namespace BytecodeLint.Endpoint

open Url (IsNormalPath IsNormalSegment segmentsText)

/-! ## Paths as texts and in segments -/

/-- The path to which traces go, by the text of a path. -/
def tracesFor (path : List Char) : List Char :=
  if path = ['/'] then "/v1/traces".toList else tracesText path.reverse

/-- The segments of a path for logs. -/
def logs : List (List Char) := ["v1".toList, "logs".toList]

/-- The segments of a path for traces. -/
def traces : List (List Char) := ["v1".toList, "traces".toList]

section
variable {items : List (List Char)}

/-- The text of a path has its segments between slashes. -/
theorem splitWhere_segmentsText (h : IsNormalPath items) :
    Text.splitWhere (fun c => c == '/') (segmentsText items) = [] :: items := by
  rw [Url.segmentsText_eq h.ne, Text.splitWhere_cons_sep rfl, Text.splitWhere_joinWith rfl h.ne]
  intro s hs c hc
  have hslash := ((h.segment s hs).kept c hc).2
  rw [Url.isAnySlash, Bool.or_eq_false_iff] at hslash
  exact hslash.1

theorem segmentsText_eq_root_iff (h : IsNormalPath items) :
    segmentsText items = ['/'] ↔ items = [[]] := by
  constructor
  · intro htext
    have hsplit := splitWhere_segmentsText h
    rw [htext] at hsplit
    cases hsplit
    rfl
  · rintro rfl
    rfl

/-- A path ends in the path for logs as a text if it does so in segments. -/
theorem logs_suffix_iff (h : IsNormalPath items) :
    "/v1/logs".toList <:+ segmentsText items ↔ logs <:+ items := by
  constructor
  · rintro ⟨front, hfront⟩
    have hsplit := splitWhere_segmentsText h
    rw [← hfront, show front ++ "/v1/logs".toList = front ++ '/' :: ("v1".toList ++ '/' ::
      "logs".toList) from rfl, Text.splitWhere_append_sep rfl, Text.splitWhere_append_sep rfl]
      at hsplit
    obtain ⟨first, rest, hcons⟩ := List.exists_cons_of_ne_nil
      (Text.splitWhere_ne_nil (p := fun c => c == '/') front)
    rw [hcons, List.cons_append, List.cons.injEq] at hsplit
    exact ⟨rest, hsplit.2⟩
  · rintro ⟨before, rfl⟩
    exact ⟨segmentsText before, by simp [segmentsText, logs]⟩

theorem tracesText_logs (front : List Char) :
    tracesText (front ++ "/v1/logs".toList).reverse = front ++ "/v1/traces".toList := by
  have hprefix : "/v1/logs".toList.reverse.isPrefixOf (front ++ "/v1/logs".toList).reverse =
      true := by
    rw [List.isPrefixOf_iff_prefix, List.reverse_prefix]
    exact List.suffix_append ..
  rw [tracesText, if_pos hprefix, List.reverse_append, ← List.length_reverse, List.drop_left,
    List.reverse_reverse]

theorem tracesText_of_not {path : List Char} (h : ¬"/v1/logs".toList <:+ path) :
    tracesText path.reverse = path := by
  have hprefix : ¬"/v1/logs".toList.reverse.isPrefixOf path.reverse = true := by
    rwa [List.isPrefixOf_iff_prefix, List.reverse_prefix]
  rw [tracesText, if_neg hprefix, List.reverse_reverse]

theorem tracesSegments?_logs (before : List (List Char)) :
    tracesSegments? (before ++ logs).reverse = some (before ++ traces) := by
  simp [tracesSegments?, logs, traces]

theorem tracesSegments?_of_not (h : ¬logs <:+ items) : tracesSegments? items.reverse = none := by
  rw [tracesSegments?.eq_def]
  split
  · rename_i last v1 before hreverse
    rw [if_neg]
    rintro ⟨rfl, rfl⟩
    rw [List.reverse_eq_iff] at hreverse
    exact h ⟨before.reverse, by simp [hreverse, logs]⟩
  · rfl

theorem tracesPath_of_not (hroot : items ≠ [[]]) (h : ¬logs <:+ items) :
    tracesPath .special (.segments items) = .segments items := by
  rw [tracesPath, tracesSegments?_of_not h]
  rintro rfl
  exact hroot rfl

theorem isNormalPath_traces (before : List (List Char)) (h : ∀ s ∈ before, IsNormalSegment s) :
    IsNormalPath (before ++ traces) := by
  have htraces : ∀ s ∈ traces, IsNormalSegment s := by
    have hkept : ∀ s ∈ traces, s.all (fun c => Url.isKept Url.inPathSet c &&
        !(Url.isAnySlash c)) = true := by decide
    have hdots : ∀ s ∈ traces, Url.isSingleDot s = false ∧ Url.isDoubleDot s = false := by decide
    refine fun s hs => ⟨fun c hc => ?_, (hdots s hs).1, (hdots s hs).2⟩
    have hc := List.all_eq_true.1 (hkept s hs) c hc
    rwa [Bool.and_eq_true, Bool.not_eq_true'] at hc
  exact ⟨by simp [traces], fun s hs => (List.mem_append.1 hs).elim (h s) (htraces s)⟩

theorem traces_ne (before : List (List Char)) :
    before ++ traces ≠ [[]] ∧ ¬logs <:+ before ++ traces := by
  have hlast : (before ++ traces).getLast? = some "traces".toList := by
    rw [List.getLast?_append]
    rfl
  constructor
  · intro heq
    rw [heq] at hlast
    exact absurd hlast (by decide)
  · rintro ⟨front, hfront⟩
    have hlogs : logs.getLast? = some "logs".toList := rfl
    rw [← hfront, List.getLast?_append, hlogs, Option.some_or, Option.some.injEq] at hlast
    exact absurd hlast (by decide)

/-- The path that is chosen is neither the root nor one for logs, and its text is chosen by the text
of the path. -/
theorem exists_tracesPath (h : IsNormalPath items) :
    ∃ chosen, tracesPath .special (.segments items) = .segments chosen ∧ IsNormalPath chosen ∧
      chosen ≠ [[]] ∧ ¬logs <:+ chosen ∧
      segmentsText chosen = tracesFor (segmentsText items) := by
  by_cases hroot : items = [[]]
  · subst hroot
    exact ⟨traces, rfl, isNormalPath_traces [] fun _ hs => absurd hs List.not_mem_nil,
      (traces_ne []).1, (traces_ne []).2, by decide⟩
  · have htext : segmentsText items ≠ ['/'] := fun htext =>
      hroot ((segmentsText_eq_root_iff h).1 htext)
    by_cases hlogs : logs <:+ items
    · obtain ⟨before, rfl⟩ := hlogs
      have hbefore : segmentsText (before ++ logs) = segmentsText before ++ "/v1/logs".toList := by
        simp [segmentsText, logs]
      refine ⟨before ++ traces, ?_, isNormalPath_traces before fun s hs => h.segment s
        (List.mem_append_left _ hs), (traces_ne before).1, (traces_ne before).2, ?_⟩
      · rw [tracesPath, tracesSegments?_logs]
        · rfl
        · intro heq
          exact hroot heq
      · rw [tracesFor, if_neg htext, hbefore, tracesText_logs]
        simp [segmentsText, traces]
    · exact ⟨items, tracesPath_of_not hroot hlogs, h, hroot, hlogs, by
        rw [tracesFor, if_neg htext, tracesText_of_not ((logs_suffix_iff h).not.2 hlogs)]⟩

end

/-! ## URLs -/

/-- An endpoint that has been found is found again, if its host can be read. -/
theorem normalize_text {u : Url} {a : Url.Authority} {items : List (List Char)}
    (h : u.IsNormal a items) (hroot : items ≠ [[]]) (hlogs : ¬logs <:+ items) :
    normalize (String.ofList u.text) = if Url.Domain.canReread a.host.text then
      .ok (String.ofList u.text) else .error .badDomain := by
  have hsame : ofUrl u = u := by
    rw [ofUrl, h.special, h.path, tracesPath_of_not hroot hlogs, ← h.path]
  rw [normalize, String.toList_ofList, Url.parse_text h]
  cases Url.Domain.canReread a.host.text with
  | false => rfl
  | true =>
    simp only [↓reduceIte]
    rw [hsame]

theorem exists_isNormal_ofUrl {u : Url} {a : Url.Authority} {items : List (List Char)}
    (h : u.IsNormal a items) :
    ∃ chosen, ofUrl u = { u with path := .segments chosen } ∧
      Url.IsNormal { u with path := .segments chosen } a chosen ∧ chosen ≠ [[]] ∧
      ¬logs <:+ chosen ∧ segmentsText chosen = tracesFor (segmentsText items) := by
  obtain ⟨chosen, hpath, hnormal, hroot, hlogs, htext⟩ := exists_tracesPath h.isNormalPath
  refine ⟨chosen, by rw [ofUrl, h.special, h.path, hpath], ?_, hroot, hlogs, htext⟩
  exact ⟨h.special, h.authority, rfl, h.isNormalAuthority, hnormal, h.query, h.fragment⟩

/-- **The endpoint of a special URL is settled.** It has the parts of the URL that was read, but for
the path, which is neither the root nor one for logs. It is found again if its host can be read, and
refused otherwise. -/
theorem endpoint_settled {text found : String} (h : normalize text = .ok found) :
    ∃ u, Url.parse text.toList = .ok u ∧ (Url.schemeKind u.scheme = .special →
      ∃ a items,
        let v : Url := { u with path := .segments items }
        u.authority = some a ∧ found = String.ofList v.text ∧
        v.path.text = tracesFor u.path.text ∧ v.path.text ≠ ['/'] ∧
        ¬"/v1/logs".toList <:+ v.path.text ∧
        (Url.Domain.canReread a.host.text = true →
          Url.parse found.toList = .ok v ∧ normalize found = .ok found) ∧
        (Url.Domain.canReread a.host.text = false → normalize found = .error .badDomain)) := by
  rw [normalize] at h
  split at h
  · rename_i u hparse
    refine ⟨u, hparse, fun hspecial => ?_⟩
    obtain ⟨a, items, hnormal⟩ := Url.isNormal_of_parse hparse hspecial
    obtain ⟨chosen, hchosen, hnormal', hroot, hlogs, htext⟩ := exists_isNormal_ofUrl hnormal
    have hfound : found = String.ofList (Url.text { u with path := .segments chosen }) := by
      rw [← hchosen]
      exact (Except.ok.inj h).symm
    have hagain := normalize_text hnormal' hroot hlogs
    have hread := Url.parse_text hnormal'
    refine ⟨a, chosen, hnormal.authority, hfound, ?_, ?_, ?_, fun hcan => ?_, fun hcannot => ?_⟩
    · rw [hnormal.path]
      exact htext
    · exact fun heq => hroot ((segmentsText_eq_root_iff hnormal'.isNormalPath).1 heq)
    · exact fun hsuffix => hlogs ((logs_suffix_iff hnormal'.isNormalPath).1 hsuffix)
    · rw [hcan, if_pos rfl] at hagain hread
      rw [hfound, String.toList_ofList]
      exact ⟨hread, hagain⟩
    · rw [hcannot, if_neg (by decide)] at hagain
      rw [hfound]
      exact hagain
  · cases h

/-- A host in brackets, a port that is left out and a path that is resolved first. -/
theorem loopback_settled :
    normalize "HTTP://user@[0:0::1]:80/a/../v1/logs?x" = .ok "http://user@[::1]/v1/traces?x" ∧
      normalize "http://user@[::1]/v1/traces?x" = .ok "http://user@[::1]/v1/traces?x" := by
  have hfound : normalize "HTTP://user@[0:0::1]:80/a/../v1/logs?x" =
      .ok "http://user@[::1]/v1/traces?x" := by decide +kernel
  refine ⟨hfound, ?_⟩
  have hknown : Url.parse "HTTP://user@[0:0::1]:80/a/../v1/logs?x".toList = .ok
      { scheme := "http".toList
        authority := some ⟨some ⟨"user".toList, []⟩, .ipv6 [0, 0, 0, 0, 0, 0, 0, 1], none⟩
        path := .segments logs
        query := some "x".toList
        fragment := none } := by decide +kernel
  obtain ⟨u, hparse, hsettled⟩ := endpoint_settled hfound
  rw [hknown] at hparse
  cases hparse
  obtain ⟨a, items, hauthority, -, -, -, -, hagain, -⟩ := hsettled (by decide)
  cases hauthority
  exact (hagain (by decide +kernel)).2

/-- An endpoint that is not found again: its host is one label of seven hundred ideographs, whose
form has more than two thousand characters. -/
theorem long_host_refused :
    ∃ found, normalize ("http://" ++ String.ofList Url.apart) = .ok found ∧
      normalize found = .error .badDomain := by
  have hparse := Url.parse_ideographs Url.isIdeographic_apart
  obtain ⟨a, items, hnormal⟩ := Url.isNormal_of_parse hparse (by decide)
  obtain ⟨chosen, hchosen, hnormal', hroot, hlogs, -⟩ := exists_isNormal_ofUrl hnormal
  have ha : a.host.text = Url.marked Url.apart := by
    have hauthority := hnormal.authority
    cases hauthority
    rfl
  have hagain := normalize_text hnormal' hroot hlogs
  rw [ha, Url.canReread_apart, if_neg (by decide)] at hagain
  have htext : ("http://" ++ String.ofList Url.apart).toList = "http://".toList ++ Url.apart := by
    rw [String.toList_append, String.toList_ofList (l := Url.apart)]
  refine ⟨_, ?_, hagain⟩
  rw [normalize, htext, hparse, ← hchosen]

end BytecodeLint.Endpoint
