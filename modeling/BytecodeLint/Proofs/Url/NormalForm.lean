import BytecodeLint.Proofs.Except
import BytecodeLint.Proofs.Url.Host
import BytecodeLint.Url.Basic
import Mathlib.Data.List.TakeWhile

/-!
# URLs are in normal form

A special URL that has been read is in normal form: each of its parts is as reading left it. Reading
its text finds the same parts, because no part holds a character at which the text is cut, and
leaves them as they are.

* `isNormal_of_parse`: what is read is in normal form.
* `parse_text`: what is in normal form is read back, unless its host holds a form that is too long
  to be read.
-/
namespace BytecodeLint.Url

/-! ## Name and password -/

/-- Name and password as they are read. -/
structure UserInfo.IsNormal (u : UserInfo) : Prop where
  user : ∀ c ∈ u.user, isKept inUserSet c = true
  password : ∀ c ∈ u.password, isKept inUserSet c = true
  ne : u.user ≠ [] ∨ u.password ≠ []

theorem isNormal_of_readUserInfo {cs : List Char} {u : UserInfo} (h : readUserInfo cs = some u) :
    u.IsNormal := by
  rw [readUserInfo] at h
  simp only at h
  split at h
  · cases h
  · rename_i hne
    cases h
    refine ⟨fun c hc => isKept_of_mem_percentEncode keepsEncoded_sets.2.2.1 hc,
      fun c hc => isKept_of_mem_percentEncode keepsEncoded_sets.2.2.1 hc, ?_⟩
    rw [← not_and_or]
    intro hnil
    exact hne (by simp [percentEncode_eq_nil hnil.1, percentEncode_eq_nil hnil.2])

/-- The text of name and password, without the sign behind it. -/
def UserInfo.front (u : UserInfo) : List Char :=
  u.user ++ if u.password.isEmpty then [] else ':' :: u.password

theorem readUserInfo_front {u : UserInfo} (h : u.IsNormal) : readUserInfo u.front = some u := by
  have hcolon : ':' ∉ u.user := fun hmem => absurd (h.user _ hmem) (by decide)
  have hcut : (Text.splitOnce ':' u.front).getD (u.front, []) = (u.user, u.password) := by
    rw [UserInfo.front]
    cases hpassword : u.password with
    | nil =>
      rw [List.isEmpty_nil, if_pos rfl, List.append_nil, Text.splitOnce_of_notMem hcolon]
      rfl
    | cons c cs =>
      rw [List.isEmpty_cons, if_neg (by decide), Text.splitOnce_append_sep hcolon]
      rfl
  have hne : (u.user.isEmpty && u.password.isEmpty) = false := by
    rw [Bool.and_eq_false_iff, List.isEmpty_eq_false_iff, List.isEmpty_eq_false_iff]
    exact h.ne
  rw [readUserInfo, hcut]
  simp only [hne, percentEncode_of_isKept h.user, percentEncode_of_isKept h.password]
  rfl

/-! ## Authority -/

/-- An authority as it is read. -/
structure Authority.IsNormal (scheme : List Char) (a : Authority) : Prop where
  userInfo : ∀ u, a.userInfo = some u → u.IsNormal
  host : a.host.IsSettled
  port : ∀ n, a.port = some n → n ≤ 65535 ∧ defaultPort? scheme ≠ some n

theorem of_readPort {scheme : List Char} {digits : Option (List Char)} {port : Option Nat}
    (h : readPort scheme digits = .ok port) :
    ∀ n, port = some n → n ≤ 65535 ∧ defaultPort? scheme ≠ some n := by
  rw [readPort.eq_def] at h
  split at h
  · cases h
    exact fun n hn => by cases hn
  · cases h
    exact fun n hn => by cases hn
  · split at h
    · simp only at h
      split at h
      · cases h
      · split at h
        · cases h
          exact fun n hn => by cases hn
        · cases h
          intro n hn
          cases hn
          exact ⟨by omega, by assumption⟩
    · cases h

theorem readHost_special {cs : List Char} (hne : cs ≠ []) (isAlone : Bool) :
    readHost .special cs isAlone = specialHost cs := by
  unfold readHost
  rw [List.isEmpty_eq_false_iff.2 hne]
  rfl

theorem specialHost_of_readHost {cs : List Char} {isAlone : Bool} {host : Host}
    (h : readHost .special cs isAlone = .ok host) : specialHost cs = .ok host := by
  cases cs with
  | nil => cases h
  | cons c cs => rwa [readHost_special (List.cons_ne_nil _ _)] at h

theorem isNormal_of_readAuthority {scheme cs spill : List Char} {isFollowed : Bool}
    {a : Authority} (h : readAuthority scheme .special isFollowed cs = .ok (a, spill)) :
    a.IsNormal scheme := by
  rw [readAuthority] at h
  simp only at h
  obtain ⟨host, hhost, h⟩ := bind_eq_ok h
  obtain ⟨port, hport, h⟩ := bind_eq_ok h
  cases h
  refine ⟨fun u hu => ?_, isSettled_of_specialHost (specialHost_of_readHost hhost),
    of_readPort hport⟩
  obtain ⟨user, -, huser⟩ := Option.bind_eq_some_iff.1 hu
  exact isNormal_of_readUserInfo huser

/-! ### Ports -/

theorem splitPort_cons {c : Char} {inside inside' : Bool} (hcolon : ¬(c = ':' ∧ inside = false))
    (hinside : (if c = '[' then true else if c = ']' then false else inside) = inside')
    (rest : List Char) : splitPort inside (c :: rest) =
      (c :: (splitPort inside' rest).1, (splitPort inside' rest).2) := by
  rw [splitPort, if_neg hcolon, hinside]

theorem splitPort_append {cs : List Char} (h : ∀ c ∈ cs, c ≠ ':' ∧ c ≠ '[') (rest : List Char) :
    splitPort false (cs ++ rest) = (cs ++ (splitPort false rest).1, (splitPort false rest).2) := by
  induction cs with
  | nil => rfl
  | cons c cs ih =>
    have hc := h c List.mem_cons_self
    rw [List.cons_append, splitPort_cons (fun hcolon => hc.1 hcolon.1)
      (by rw [if_neg hc.2, ite_self]), ih fun d hd => h d (List.mem_cons_of_mem _ hd)]
    rfl

theorem splitPort_inside {cs : List Char} (h : ']' ∉ cs) (rest : List Char) :
    splitPort true (cs ++ ']' :: rest) =
      (cs ++ ']' :: (splitPort false rest).1, (splitPort false rest).2) := by
  induction cs with
  | nil => rfl
  | cons c cs ih =>
    rw [List.mem_cons, not_or] at h
    rw [List.cons_append, splitPort_cons (by simp)
      (by rw [if_neg (Ne.symm h.1), ite_self]), ih h.2]
    rfl

/-- No part of a host is taken for a port. -/
theorem splitPort_text {host : Host} (h : host.IsSettled) (rest : List Char) :
    splitPort false (host.text ++ rest) =
      (host.text ++ (splitPort false rest).1, (splitPort false rest).2) := by
  cases host with
  | name text =>
    refine splitPort_append (fun c hc => ?_) rest
    have hallowed := List.any_eq_false.1 h.2.1 c hc
    constructor <;> rintro rfl <;> exact absurd hallowed (by decide)
  | ipv4 address =>
    refine splitPort_append (fun c hc => ?_) rest
    rcases mem_ipv4Text hc with rfl | hdigit
    · decide
    · constructor <;> rintro rfl <;> exact absurd hdigit (by decide)
  | ipv6 pieces =>
    have hbracket : ']' ∉ ipv6Text pieces := by
      intro hmem
      rcases mem_ipv6Text hmem with hc | ⟨d, hd, hc⟩
      · exact absurd hc (by decide)
      · exact digitChar_ne hd (by decide) hc.symm
    rw [Host.text, List.cons_append, List.cons_append, List.append_assoc, List.singleton_append,
      splitPort_cons (by decide) (if_pos rfl), splitPort_inside hbracket]
    simp

/-- The text of a port. -/
def portText (port : Option Nat) : List Char := (port.map fun n => ':' :: decimal n).getD []

theorem readPort_decimal {scheme : List Char} {n : Nat} (hn : n ≤ 65535)
    (hdefault : defaultPort? scheme ≠ some n) :
    readPort scheme (some (decimal n)) = .ok (some n) := by
  have hdigits : (decimal n).all Char.isDigit = true :=
    List.all_eq_true.2 fun c hc => isDigit_of_mem_decimal hc
  have hvalue : (decimal n).foldl (fun n c => 10 * n + (c.toNat - 48)) 0 = n := by
    have hvalue := @Nat.ofDigitChars_ten_toDigits n
    rwa [Nat.ofDigitChars_eq_foldl] at hvalue
  obtain ⟨c, cs, hcons⟩ := List.exists_cons_of_ne_nil (decimal_ne_nil n)
  rw [hcons] at hdigits hvalue ⊢
  rw [readPort, if_pos hdigits]
  simp only [hvalue]
  rw [if_neg (by omega), if_neg hdefault]
  exact fun h => absurd h (by simp)

/-! ### Reading an authority -/

section
variable {scheme : List Char} {a : Authority}

theorem Authority.text_eq (a : Authority) :
    a.text = (a.userInfo.map UserInfo.text).getD [] ++ (a.host.text ++ portText a.port) := by
  rw [Authority.text, List.append_assoc, portText]

theorem mem_portText {port : Option Nat} {c : Char} (h : c ∈ portText port) :
    c = ':' ∨ c.isDigit = true := by
  cases port with
  | none => cases h
  | some n => exact (List.mem_cons.1 h).imp_right isDigit_of_mem_decimal

/-- Host and port hold no character that ends the part in front of the path, or stands before a
host. -/
theorem isHostChar_of_mem_tail (h : a.IsNormal scheme) {c : Char}
    (hc : c ∈ a.host.text ++ portText a.port) : isHostChar c = true := by
  rcases List.mem_append.1 hc with hc | hc
  · exact isHostChar_of_mem_text h.host hc
  · rcases mem_portText hc with rfl | hdigit
    · decide
    · exact isHostChar_of_isForbidden (isSimple_of_isDigit hdigit).2

theorem splitUser_text (h : a.IsNormal scheme) :
    splitUser a.text = (a.userInfo.map UserInfo.front, a.host.text ++ portText a.port) := by
  have hsign : '@' ∉ a.host.text ++ portText a.port := fun hmem =>
    absurd (isHostChar_of_mem_tail h hmem) (by decide)
  rw [Authority.text_eq]
  cases a.userInfo with
  | none =>
    rw [Option.map_none, Option.getD_none, List.nil_append, splitUser,
      Text.splitLast_of_notMem hsign]
    rfl
  | some u =>
    have hfront : u.text = u.front ++ ['@'] := rfl
    rw [Option.map_some, Option.getD_some, hfront, List.append_assoc, List.singleton_append,
      splitUser, Text.splitLast_append_sep _ hsign]
    rfl

theorem splitPort_tail (h : a.IsNormal scheme) :
    splitPort false (a.host.text ++ portText a.port) = (a.host.text, a.port.map decimal) := by
  rw [splitPort_text h.host]
  cases a.port with
  | none => simp [portText, splitPort]
  | some n => simp [portText, splitPort]

theorem splitSpill_decimal (port : Option Nat) :
    splitSpill (port.map decimal) = (port.map decimal, []) := by
  cases port with
  | none => rfl
  | some n =>
    have hplain : ∀ c ∈ decimal n, (c != '\\') = true := fun c hc => by
      have hdigit := isDigit_of_mem_decimal hc
      exact bne_iff_ne.2 (by rintro rfl; exact absurd hdigit (by decide))
    rw [Option.map_some, splitSpill, List.takeWhile_eq_self_iff.2 hplain,
      List.dropWhile_eq_nil_iff.2 hplain]

theorem readPort_of_isNormal (h : a.IsNormal scheme) :
    readPort scheme (a.port.map decimal) = .ok a.port := by
  cases hport : a.port with
  | none => rfl
  | some n => exact readPort_decimal (h.port n hport).1 (h.port n hport).2

/-- An authority in normal form is read back. -/
theorem readAuthority_text (h : a.IsNormal scheme) (isFollowed : Bool) :
    readAuthority scheme .special isFollowed a.text =
      if Domain.canReread a.host.text then .ok (a, []) else .error .badDomain := by
  have huser : (a.userInfo.map UserInfo.front).bind readUserInfo = a.userInfo := by
    cases huser : a.userInfo with
    | none => rfl
    | some u => exact readUserInfo_front (h.userInfo u huser)
  rw [readAuthority, splitUser_text h]
  simp only [splitPort_tail h, splitSpill_decimal, huser]
  rw [readHost_special (text_ne_nil h.host), specialHost_text h.host]
  cases Domain.canReread a.host.text with
  | false => rfl
  | true =>
    rw [readPort_of_isNormal h]
    rfl

end

/-! ## Path -/

/-- A segment as it is read. -/
structure IsNormalSegment (segment : List Char) : Prop where
  kept : ∀ c ∈ segment, isKept inPathSet c = true ∧ isAnySlash c = false
  single : isSingleDot segment = false
  double : isDoubleDot segment = false

theorem isNormalSegment_nil : IsNormalSegment [] :=
  ⟨fun _ h => absurd h List.not_mem_nil, by decide, by decide⟩

theorem resolveDots_ne_nil (done : List (List Char)) {segments : List (List Char)}
    (h : segments ≠ []) : resolveDots done segments ≠ [] := by
  fun_induction resolveDots done segments with
  | case1 => exact absurd rfl h
  | case2 => simp
  | case3 => simp
  | case4 => simp
  | case5 done segment rest hne hdouble ih => exact ih hne
  | case6 done segment rest hne hdouble hsingle ih => exact ih hne
  | case7 done segment rest hne hdouble hsingle ih => exact ih hne

theorem mem_of_mem_above {done : List (List Char)} {s : List Char} (h : s ∈ above done) :
    s ∈ done := by
  rw [above.eq_def] at h
  split at h
  · exact h
  · split at h
    · exact h
    · exact List.mem_cons_of_mem _ h

/-- The segments that stay are empty or no dots. -/
theorem isNormalSegment_of_mem_resolveDots {done segments : List (List Char)}
    (hdone : ∀ s ∈ done, IsNormalSegment s)
    (hkept : ∀ s ∈ segments, ∀ c ∈ s, isKept inPathSet c = true ∧ isAnySlash c = false) :
    ∀ s ∈ resolveDots done segments, IsNormalSegment s := by
  have hpush : ∀ last done, IsNormalSegment last → (∀ s ∈ done, IsNormalSegment s) →
      ∀ s ∈ (last :: done).reverse, IsNormalSegment s := fun last done hlast hdone s hs =>
    List.forall_mem_cons.2 ⟨hlast, hdone⟩ s (List.mem_reverse.1 hs)
  fun_induction resolveDots done segments with
  | case1 done => exact fun s hs => hdone s (List.mem_reverse.1 hs)
  | case2 done last hdouble =>
    exact hpush _ _ isNormalSegment_nil fun s hs => hdone s (mem_of_mem_above hs)
  | case3 done last hdouble hsingle => exact hpush _ _ isNormalSegment_nil hdone
  | case4 done last hdouble hsingle =>
    exact hpush _ _ ⟨hkept last List.mem_cons_self, Bool.eq_false_iff.2 hsingle,
      Bool.eq_false_iff.2 hdouble⟩ hdone
  | case5 done segment rest hne hdouble ih =>
    exact ih (fun s hs => hdone s (mem_of_mem_above hs))
      fun s hs => hkept s (List.mem_cons_of_mem _ hs)
  | case6 done segment rest hne hdouble hsingle ih =>
    exact ih hdone fun s hs => hkept s (List.mem_cons_of_mem _ hs)
  | case7 done segment rest hne hdouble hsingle ih =>
    refine ih (List.forall_mem_cons.2 ⟨⟨hkept segment List.mem_cons_self,
      Bool.eq_false_iff.2 hsingle, Bool.eq_false_iff.2 hdouble⟩, hdone⟩)
      fun s hs => hkept s (List.mem_cons_of_mem _ hs)

theorem resolveDots_of_isNormalSegment {done segments : List (List Char)}
    (h : ∀ s ∈ segments, IsNormalSegment s) :
    resolveDots done segments = done.reverse ++ segments := by
  induction segments generalizing done with
  | nil => rw [resolveDots, List.append_nil]
  | cons segment rest ih =>
    have hsegment := h segment List.mem_cons_self
    cases rest with
    | nil => simp [resolveDots, hsegment.single, hsegment.double]
    | cons next rest =>
      rw [resolveDots, hsegment.double, hsegment.single, if_neg (by decide), if_neg (by decide),
        ih fun s hs => h s (List.mem_cons_of_mem _ hs)]
      · simp
      · simp

/-- Segments as they are read. -/
structure IsNormalPath (items : List (List Char)) : Prop where
  ne : items ≠ []
  segment : ∀ s ∈ items, IsNormalSegment s

theorem isNormalPath_segmentsOf (cs : List Char) : IsNormalPath (segmentsOf isAnySlash cs) := by
  refine ⟨resolveDots_ne_nil _ (by simp [Text.splitWhere_ne_nil]),
    isNormalSegment_of_mem_resolveDots (fun _ h => absurd h List.not_mem_nil) ?_⟩
  intro s hs c hc
  obtain ⟨piece, hpiece, rfl⟩ := List.mem_map.1 hs
  refine ⟨isKept_of_mem_percentEncode keepsEncoded_sets.2.1 hc, ?_⟩
  have hdigit : ∀ n < 16, isAnySlash (upperHex n) = false := by decide
  rcases mem_percentEncode hc with ⟨hc, -⟩ | rfl | ⟨n, hn, rfl⟩
  · exact Text.sep_of_mem_splitWhere hpiece c hc
  · decide
  · exact hdigit n hn

/-- A path in normal form is read back. -/
theorem segmentsOf_joinWith {items : List (List Char)} (h : IsNormalPath items) :
    segmentsOf isAnySlash (Text.joinWith ['/'] items) = items := by
  have hencode : items.map (percentEncode inPathSet) = items :=
    (List.map_congr_left (g := id) fun s hs =>
      percentEncode_of_isKept fun c hc => ((h.segment s hs).kept c hc).1).trans (List.map_id _)
  rw [segmentsOf, Text.splitWhere_joinWith (by decide) h.ne fun s hs c hc =>
    ((h.segment s hs).kept c hc).2, hencode, resolveDots_of_isNormalSegment h.segment]
  rfl

theorem segmentsText_eq {items : List (List Char)} (hne : items ≠ []) :
    segmentsText items = '/' :: Text.joinWith ['/'] items := by
  fun_induction Text.joinWith ['/'] items with
  | case1 => exact absurd rfl hne
  | case2 item => simp [segmentsText]
  | case3 item items hnil ih =>
    have hrest := ih fun h => hnil (by rw [h])
    rw [segmentsText, List.flatMap_cons, ← segmentsText, hrest]
    simp

/-! ## Texts without blanks -/

theorem clean_of_shown {cs : List Char} (h : ∀ c ∈ cs, 0x20 < c.toNat) : clean cs = cs := by
  have hedge : ∀ c ∈ cs, ¬decide (c.toNat ≤ 0x20) = true := fun c hc => by
    have hc := h c hc
    simpa using hc
  have hstart : cs.dropWhile (fun c => decide (c.toNat ≤ 0x20)) = cs := by
    rw [List.dropWhile_eq_self_iff]
    exact fun hl => hedge _ (List.getElem_mem hl)
  have hend : Text.dropEnd (fun c => decide (c.toNat ≤ 0x20)) cs = cs := by
    rw [Text.dropEnd, List.dropWhile_eq_self_iff.2, List.reverse_reverse]
    exact fun hl => hedge _ (List.mem_reverse.1 (List.getElem_mem hl))
  rw [clean]
  simp only [hstart, hend]
  rw [List.filter_eq_self]
  intro c hc
  have hc := h c hc
  simp only [Bool.and_eq_true, bne_iff_ne]
  refine ⟨⟨?_, ?_⟩, ?_⟩ <;> rintro rfl <;> exact absurd hc (by decide)

/-! ## Schemes -/

theorem mem_of_special {scheme : List Char} (h : schemeKind scheme = .special) :
    scheme ∈ ["http", "ws", "https", "wss", "ftp"].map String.toList := by
  by_contra hother
  simp only [List.map_cons, List.map_nil, List.mem_cons, List.not_mem_nil, or_false, not_or]
    at hother
  obtain ⟨hhttp, hws, hhttps, hwss, hftp⟩ := hother
  have hport : defaultPort? scheme = none := by
    rw [defaultPort?, if_neg (not_or.2 ⟨hhttp, hws⟩), if_neg (not_or.2 ⟨hhttps, hwss⟩),
      if_neg hftp]
  rw [schemeKind, hport, Option.isSome_none, if_neg (by decide)] at h
  split at h <;> cases h

theorem splitScheme_special {scheme : List Char} (h : schemeKind scheme = .special)
    (rest : List Char) : splitScheme (scheme ++ ':' :: rest) = some (scheme, rest) := by
  have hall : ∀ scheme ∈ ["http", "ws", "https", "wss", "ftp"].map String.toList,
      ':' ∉ scheme ∧ scheme.head?.any Char.isAlpha = true ∧ scheme.all isSchemeChar = true ∧
        scheme.map Char.toLower = scheme := by decide
  obtain ⟨hcolon, hhead, hchars, hlower⟩ := hall scheme (mem_of_special h)
  rw [splitScheme, Text.splitOnce_append_sep hcolon]
  cases scheme with
  | nil => cases hhead
  | cons c cs =>
    have hc : c.isAlpha = true := hhead
    simp only [hc, hchars, hlower]
    rfl

/-! ## Reading and printing -/

theorem cutAt_behind {sep : Char} {before : List Char} (h : sep ∉ before)
    (after : Option (List Char)) : cutAt sep (before ++ behind sep after) = (before, after) := by
  cases after with
  | none => rw [behind, List.append_nil, cutAt, Text.splitOnce_of_notMem h]
  | some after => rw [behind, cutAt, Text.splitOnce_append_sep h]

/-- A special URL as it is read. -/
structure IsNormal (u : Url) (a : Authority) (items : List (List Char)) : Prop where
  special : schemeKind u.scheme = .special
  authority : u.authority = some a
  path : u.path = .segments items
  isNormalAuthority : a.IsNormal u.scheme
  isNormalPath : IsNormalPath items
  query : ∀ query, u.query = some query → ∀ c ∈ query, isKept inSpecialQuerySet c = true
  fragment : ∀ fragment, u.fragment = some fragment → ∀ c ∈ fragment, isKept inFragmentSet c = true

theorem of_specialParts {scheme cs : List Char} {parts : Option Authority × Route}
    (h : specialParts scheme cs = .ok parts) :
    ∃ a items, parts = (some a, .segments items) ∧ a.IsNormal scheme ∧ IsNormalPath items := by
  rw [specialParts] at h
  obtain ⟨⟨a, spill⟩, ha, h⟩ := bind_eq_ok h
  cases h
  exact ⟨a, _, rfl, isNormal_of_readAuthority ha, isNormalPath_segmentsOf _⟩

/-- A URL of which authority and path are known. -/
def assemble (scheme rest : List Char) (parts : Option Authority × Route) : Url :=
  { scheme
    authority := parts.1
    path := parts.2
    query := (cutAt '?' (cutAt '#' rest).1).2.map (percentEncode inSpecialQuerySet)
    fragment := (cutAt '#' rest).2.map (percentEncode inFragmentSet) }

theorem parse_special {text scheme rest : List Char}
    (hscheme : splitScheme (clean text) = some (scheme, rest))
    (hspecial : schemeKind scheme = .special) :
    parse text = (specialParts scheme (cutAt '?' (cutAt '#' rest).1).1).map
      (assemble scheme rest) := by
  rw [parse, hscheme]
  simp only [hspecial]
  rfl

theorem scheme_of_parse {text : List Char} {u : Url} (h : parse text = .ok u) :
    ∃ rest, splitScheme (clean text) = some (u.scheme, rest) := by
  rw [parse] at h
  split at h
  · cases h
  · rename_i scheme rest hscheme
    simp only at h
    split at h
    all_goals
      obtain ⟨parts, -, h⟩ := bind_eq_ok h
      cases h
      exact ⟨rest, hscheme⟩

/-- What is read is in normal form. -/
theorem isNormal_of_parse {text : List Char} {u : Url} (h : parse text = .ok u)
    (hspecial : schemeKind u.scheme = .special) : ∃ a items, u.IsNormal a items := by
  obtain ⟨rest, hscheme⟩ := scheme_of_parse h
  rw [parse_special hscheme hspecial] at h
  cases hparts : specialParts u.scheme (cutAt '?' (cutAt '#' rest).1).1 with
  | error fault =>
    rw [hparts] at h
    cases h
  | ok parts =>
    obtain ⟨a, items, rfl, ha, hitems⟩ := of_specialParts hparts
    rw [hparts] at h
    have hu : assemble u.scheme rest (some a, .segments items) = u := Except.ok.inj h
    refine ⟨a, items, ⟨hspecial, by rw [← hu]; rfl, by rw [← hu]; rfl, ha, hitems, ?_, ?_⟩⟩
    · intro query hquery c hc
      rw [← hu] at hquery
      obtain ⟨text, -, rfl⟩ := Option.map_eq_some_iff.1 hquery
      exact isKept_of_mem_percentEncode keepsEncoded_sets.2.2.2 hc
    · intro fragment hfragment c hc
      rw [← hu] at hfragment
      obtain ⟨text, -, rfl⟩ := Option.map_eq_some_iff.1 hfragment
      exact isKept_of_mem_percentEncode keepsEncoded_sets.1 hc

/-! ## Reading a text back -/

theorem forall_isKept {inSet : Char → Bool} {P : Char → Prop}
    (hall : ∀ n < 128, inSet (Char.ofNat n) = false → P (Char.ofNat n)) {c : Char}
    (h : isKept inSet c = true) : P c := by
  rw [isKept, Bool.and_eq_true, isAscii, decide_eq_true_eq, Bool.not_eq_true'] at h
  have hc := hall c.toNat h.1
  rw [Char.ofNat_toNat] at hc
  exact hc h.2

theorem isFrontChar_of_mem_text {scheme : List Char} {a : Authority} (h : a.IsNormal scheme)
    {c : Char} (hc : c ∈ a.text) : isFrontChar c = true := by
  have hkept : ∀ c, isKept inUserSet c = true → isFrontChar c = true := fun c hc =>
    forall_isKept (P := fun c => isFrontChar c = true) (by decide) hc
  rw [Authority.text_eq, List.mem_append] at hc
  rcases hc with hc | hc
  · cases huser : a.userInfo with
    | none =>
      rw [huser] at hc
      cases hc
    | some u =>
      have hu := h.userInfo u huser
      rw [huser, Option.map_some, Option.getD_some, UserInfo.text, List.mem_append,
        List.mem_append, List.mem_singleton] at hc
      rcases hc with (hc | hc) | rfl
      · exact hkept c (hu.user c hc)
      · split at hc
        · cases hc
        · rcases List.mem_cons.1 hc with rfl | hc
          · decide
          · exact hkept c (hu.password c hc)
      · decide
  · have hc := isHostChar_of_mem_tail h hc
    rw [isHostChar, Bool.and_eq_true] at hc
    exact hc.1

theorem of_isFrontChar {c : Char} (h : isFrontChar c = true) :
    isAnySlash c = false ∧ c ≠ '?' ∧ c ≠ '#' ∧ 0x20 < c.toNat := by
  rw [isFrontChar_iff] at h
  simp only [List.mem_cons, List.not_mem_nil, or_false, not_or] at h
  exact ⟨by simp [isAnySlash, h.2.1, h.2.2.1], h.2.2.2.1, h.2.2.2.2, h.1⟩

/-- Authority and path are found behind the slashes. -/
theorem specialParts_slashes (scheme : List Char) {front : List Char} (rest : List Char)
    (hne : front ≠ [])
    (hfront : ∀ c ∈ front, isAnySlash c = false)
    (hrest : ∀ c, rest.head? = some c → isAnySlash c = true) :
    specialParts scheme ('/' :: '/' :: (front ++ rest)) =
      (readAuthority scheme .special false front).map fun parts =>
        (some parts.1, .segments (segmentsOf isAnySlash (rest.drop 1))) := by
  obtain ⟨c, cs, rfl⟩ := List.exists_cons_of_ne_nil hne
  have hslashes : ('/' :: '/' :: (c :: cs ++ rest)).dropWhile isAnySlash = c :: cs ++ rest := by
    rw [List.dropWhile_cons_of_pos (by decide), List.dropWhile_cons_of_pos (by decide),
      List.cons_append, List.dropWhile_cons_of_neg (by simp [hfront c List.mem_cons_self])]
  have htake : (c :: cs ++ rest).takeWhile (fun c => !isAnySlash c) = c :: cs := by
    rw [List.takeWhile_append_of_pos fun d hd => by simp [hfront d hd]]
    cases rest with
    | nil => simp
    | cons d rest => simp [hrest d rfl]
  have hdrop : (c :: cs ++ rest).dropWhile (fun c => !isAnySlash c) = rest := by
    rw [List.dropWhile_append_of_pos fun d hd => by simp [hfront d hd]]
    cases rest with
    | nil => simp
    | cons d rest => simp [hrest d rfl]
  rw [specialParts, hslashes, htake, hdrop]
  rfl

section
variable {u : Url} {a : Authority} {items : List (List Char)}

/-- What stands between the scheme and the query. -/
def route (a : Authority) (items : List (List Char)) : List Char :=
  '/' :: '/' :: (a.text ++ segmentsText items)

theorem IsNormal.text_eq (h : u.IsNormal a items) :
    u.text = u.scheme ++ ':' :: (route a items ++ behind '?' u.query ++ behind '#' u.fragment) := by
  rw [text, h.authority, h.path, lead, Route.text, route]
  simp

theorem mem_segmentsText {c : Char} (h : c ∈ segmentsText items) :
    c = '/' ∨ ∃ s ∈ items, c ∈ s := by
  obtain ⟨s, hs, hc⟩ := List.mem_flatMap.1 h
  exact (List.mem_cons.1 hc).imp_right fun hc => ⟨s, hs, hc⟩

theorem IsNormal.mem_route (h : u.IsNormal a items) {c : Char} (hc : c ∈ route a items) :
    c ≠ '?' ∧ c ≠ '#' ∧ 0x20 < c.toNat := by
  rw [route, List.mem_cons, List.mem_cons, List.mem_append] at hc
  rcases hc with rfl | rfl | hc | hc
  · decide
  · decide
  · exact (of_isFrontChar (isFrontChar_of_mem_text h.isNormalAuthority hc)).2
  · rcases mem_segmentsText hc with rfl | ⟨s, hs, hc⟩
    · decide
    · exact forall_isKept (P := fun c => c ≠ '?' ∧ c ≠ '#' ∧ 0x20 < c.toNat) (by decide)
        ((h.isNormalPath.segment s hs).kept c hc).1

theorem mem_behind {sep c : Char} {part : Option (List Char)} (h : c ∈ behind sep part) :
    c = sep ∨ ∃ text, part = some text ∧ c ∈ text := by
  cases part with
  | none => cases h
  | some text => exact (List.mem_cons.1 h).imp_right fun hc => ⟨text, rfl, hc⟩

theorem IsNormal.mem_query (h : u.IsNormal a items) {c : Char} (hc : c ∈ behind '?' u.query) :
    c ≠ '#' ∧ 0x20 < c.toNat := by
  rcases mem_behind hc with rfl | ⟨query, hquery, hc⟩
  · decide
  · exact forall_isKept (P := fun c => c ≠ '#' ∧ 0x20 < c.toNat) (by decide)
      (h.query query hquery c hc)

theorem IsNormal.mem_text (h : u.IsNormal a items) : ∀ c ∈ u.text, 0x20 < c.toNat := by
  have hscheme : ∀ scheme ∈ ["http", "ws", "https", "wss", "ftp"].map String.toList,
      scheme.all (fun c => 0x20 < c.toNat) = true := by decide
  intro c hc
  rw [h.text_eq, List.mem_append, List.mem_cons, List.mem_append, List.mem_append] at hc
  rcases hc with hc | rfl | (hc | hc) | hc
  · exact of_decide_eq_true
      (List.all_eq_true.1 (hscheme u.scheme (mem_of_special h.special)) c hc)
  · decide
  · exact (h.mem_route hc).2.2
  · exact (h.mem_query hc).2
  · rcases mem_behind hc with rfl | ⟨fragment, hfragment, hc⟩
    · decide
    · exact forall_isKept (P := fun c => 0x20 < c.toNat) (by decide)
        (h.fragment fragment hfragment c hc)

theorem specialParts_route (h : u.IsNormal a items) :
    specialParts u.scheme (route a items) = if Domain.canReread a.host.text then
      .ok (some a, .segments items) else .error .badDomain := by
  have hne : a.text ≠ [] := by
    rw [Authority.text_eq]
    simp [text_ne_nil h.isNormalAuthority.host]
  have hparts := specialParts_slashes u.scheme (segmentsText items) hne
    (fun c hc => (of_isFrontChar (isFrontChar_of_mem_text h.isNormalAuthority hc)).1)
    (by
      rw [segmentsText_eq h.isNormalPath.ne]
      intro c hc
      cases hc
      decide)
  rw [route, hparts, readAuthority_text h.isNormalAuthority, segmentsText_eq h.isNormalPath.ne,
    List.drop_succ_cons, List.drop_zero, segmentsOf_joinWith h.isNormalPath]
  split <;> rfl

theorem map_percentEncode {inSet : Char → Bool} {part : Option (List Char)}
    (h : ∀ text, part = some text → ∀ c ∈ text, isKept inSet c = true) :
    part.map (percentEncode inSet) = part := by
  cases part with
  | none => rfl
  | some text => rw [Option.map_some, percentEncode_of_isKept (h text rfl)]

/-- What is in normal form is read back, if its host can be read. -/
theorem parse_text (h : u.IsNormal a items) :
    parse u.text = if Domain.canReread a.host.text then .ok u else .error .badDomain := by
  have hclean : clean u.text =
      u.scheme ++ ':' :: (route a items ++ behind '?' u.query ++ behind '#' u.fragment) := by
    rw [clean_of_shown h.mem_text, h.text_eq]
  -- the fragment goes first and the query second, so a question mark may stand in either
  have hfragment : cutAt '#' (route a items ++ behind '?' u.query ++ behind '#' u.fragment) =
      (route a items ++ behind '?' u.query, u.fragment) :=
    cutAt_behind (fun hmem => (List.mem_append.1 hmem).elim (fun hc => (h.mem_route hc).2.1 rfl)
      fun hc => (h.mem_query hc).1 rfl) u.fragment
  have hquery : cutAt '?' (route a items ++ behind '?' u.query) = (route a items, u.query) :=
    cutAt_behind (fun hmem => (h.mem_route hmem).1 rfl) u.query
  have hscheme := splitScheme_special h.special
    (route a items ++ behind '?' u.query ++ behind '#' u.fragment)
  rw [← hclean] at hscheme
  have hassemble : assemble u.scheme
      (route a items ++ behind '?' u.query ++ behind '#' u.fragment) (some a, .segments items) =
        u := by
    simp only [assemble, hfragment, hquery, map_percentEncode h.query,
      map_percentEncode h.fragment, ← h.authority, ← h.path]
  rw [parse_special hscheme h.special, hfragment, hquery, specialParts_route h]
  cases Domain.canReread a.host.text with
  | false => rfl
  | true => exact congrArg Except.ok hassemble

end

end BytecodeLint.Url
