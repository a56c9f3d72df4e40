import BytecodeLint.Json.Record
import BytecodeLint.Proofs.Except
import BytecodeLint.Proofs.Json.Token

/-!
# Values of a known shape read back

`Reads` says that a shape reads a value from a text, wherever in a document the text stands. It
goes from the items of an array to the array and from the members of an object to the record, and
so follows the way in which the writer puts a document together.

* `reads_text`, `reads_word`, `reads_optional`, `reads_array`: the shapes without fields.
* `Fills`, `Record.reads_shape`: an object whose members fill a draft one after the other.
* `Yields`, `yields_array`, `Record.yields_shape`: what holds of all that is read, from any text.
-/

namespace BytecodeLint.Json

variable {α δ : Type}

/-! ## Spaces -/

theorem skipSpace_skipSpace (cs : List Char) : skipSpace (skipSpace cs) = skipSpace cs := by
  induction cs with
  | nil => rfl
  | cons c cs ih =>
    by_cases hc : isSpace c = true
    · simpa [skipSpace, List.dropWhile_cons, hc] using ih
    · simp [skipSpace, hc]

theorem skipSpace_newLine (level : Nat) (cs : List Char) :
    skipSpace (newLine level ++ cs) = skipSpace cs := by
  apply List.dropWhile_append_of_pos
  intro c hc
  obtain rfl | hblank := List.mem_cons.1 hc
  · rfl
  · rw [(List.mem_replicate.1 hblank).2]
    rfl

theorem delimited_newLine (level : Nat) (cs : List Char) : Delimited (newLine level ++ cs) :=
  ⟨_, .inr rfl⟩

/-- What a written value starts with: neither a space nor the end of an array, and not as `null`. -/
structure Opens (c : Char) : Prop where
  not_space : isSpace c = false
  not_end : c ≠ ']'
  not_null : c ≠ 'n'

theorem skipSpace_of_opens {c : Char} (h : Opens c) (cs : List Char) :
    skipSpace (c :: cs) = c :: cs := by
  simp [skipSpace, h.not_space]

theorem opens_of_isDigit {c : Char} (h : c.isDigit = true) : Opens c := by
  refine ⟨?_, ?_, ?_⟩
  · by_cases hs : isSpace c = true
    · simp only [isSpace, Bool.or_eq_true, beq_iff_eq] at hs
      rcases hs with ((rfl | rfl) | rfl) | rfl <;> exact absurd h (by decide)
    · simpa using hs
  · rintro rfl
    exact absurd h (by decide)
  · rintro rfl
    exact absurd h (by decide)

theorem render_opens (level : Nat) (v : Json) :
    ∃ c cs, render level v = c :: cs ∧ Opens c := by
  cases v with
  | bool b => cases b <;> exact ⟨_, _, by rw [render]; rfl, by constructor <;> decide⟩
  | number n =>
    obtain ⟨d, ds, hcons, hd⟩ := digits_cons n
    exact ⟨d, ds, by rw [render, hcons], opens_of_isDigit hd⟩
  | text s => exact ⟨_, _, by rw [render, quote]; rfl, by constructor <;> decide⟩
  | array items =>
    cases items with
    | nil => exact ⟨'[', _, by rw [render], by constructor <;> decide⟩
    | cons item items => exact ⟨'[', _, by rw [render]; rfl, by constructor <;> decide⟩
  | object members =>
    cases members with
    | nil => exact ⟨'\x7b', _, by rw [render], by constructor <;> decide⟩
    | cons entry members => exact ⟨'\x7b', _, by rw [render]; rfl, by constructor <;> decide⟩

theorem skipSpace_render (level : Nat) (v : Json) (rest : List Char) :
    skipSpace (render level v ++ rest) = render level v ++ rest := by
  obtain ⟨c, cs, hcons, hopens⟩ := render_opens level v
  rw [hcons, List.cons_append, skipSpace_of_opens hopens]

/-! ## Values -/

/-- The shape reads the value from the text: behind spaces, and in front of what follows a value in
a document. -/
def Reads (shape : Shape α) (v : α) (text : List Char) : Prop :=
  ∀ place cs rest, skipSpace cs = text ++ rest → Delimited rest → shape place cs = .ok (v, rest)

theorem reads_text (s : String) (level : Nat) : Reads textShape s (render level (.text s)) := by
  intro place cs rest hcs _
  rw [render, quote, List.append_assoc] at hcs
  have htext := takeText_escaped s.toList rest
  simp only [textShape, hcs, List.cons_append, List.nil_append, htext, bind, Except.bind,
    String.ofList_toList]

theorem reads_word {n : Nat} (hn : n < 4294967296) (level : Nat) :
    Reads wordShape n (render level (.number n)) := by
  intro place cs rest hcs hrest
  obtain ⟨d, ds, hcons, hd⟩ := digits_cons n
  have hnumeral := takeNumeral_digits hn hrest
  rw [render] at hcs
  rw [hcons, List.cons_append] at hcs hnumeral
  simp [wordShape, hcs, hd, hnumeral, ← hcons, toWord?_digits hn, bind, Except.bind]

theorem reads_optional {shape : Shape α} {v : α} {level : Nat} {value : Json}
    (h : Reads shape v (render level value)) :
    Reads (optionalShape shape) (some v) (render level value) := by
  intro place cs rest hcs hrest
  have hread := h place (skipSpace cs) rest (by rw [skipSpace_skipSpace, hcs]) hrest
  obtain ⟨c, more, hcons, hopens⟩ := render_opens level value
  unfold optionalShape
  split
  · rename_i hnull
    rw [hcs, hcons] at hnull
    exact absurd (List.cons.inj hnull).1 hopens.not_null
  · simp [hread, bind, Except.bind]

/-! ## Arrays -/

theorem nextItem_first (level : Nat) (v : Json) (rest : List Char) :
    nextItem true (newLine level ++ (render level v ++ rest)) =
      .ok (true, render level v ++ rest) := by
  obtain ⟨c, cs, hcons, hopens⟩ := render_opens level v
  have hskip : skipSpace (newLine level ++ c :: (cs ++ rest)) = c :: (cs ++ rest) := by
    rw [skipSpace_newLine, skipSpace_of_opens hopens]
  simp [nextItem, hskip, hopens.not_end, hcons]

theorem nextItem_comma (level : Nat) (v : Json) (rest : List Char) :
    nextItem false (',' :: (newLine level ++ (render level v ++ rest))) =
      .ok (true, render level v ++ rest) := by
  obtain ⟨c, cs, hcons, hopens⟩ := render_opens level v
  have hcomma (more : List Char) : skipSpace (',' :: more) = ',' :: more := rfl
  have hskip : skipSpace (newLine level ++ c :: (cs ++ rest)) = c :: (cs ++ rest) := by
    rw [skipSpace_newLine, skipSpace_of_opens hopens]
  simp [nextItem, hcomma, hskip, hopens.not_end, hcons]

theorem nextItem_end (isFirst : Bool) {rest cs : List Char} (hcs : skipSpace cs = ']' :: rest) :
    nextItem isFirst cs = .ok (false, ']' :: rest) := by
  simp [nextItem, hcs]

theorem delimited_renderItems (level below : Nat) (items : List Json) (rest : List Char) :
    Delimited (renderItems level items ++ (newLine below ++ rest)) := by
  cases items with
  | nil => exact delimited_newLine below rest
  | cons item items =>
    rw [renderItems]
    exact ⟨_, .inl rfl⟩

theorem length_renderItems (level : Nat) (items : List Json) :
    items.length ≤ (renderItems level items).length := by
  induction items with
  | nil => simp
  | cons item items ih =>
    simp only [renderItems, List.length_cons, List.length_append]
    omega

/-- One item is read, wherever its text was reached. -/
theorem itemsFrom_item {shape : Shape α} {level n fuel : Nat} {v : α} {value : Json} {place : Place}
    {cs rest : List Char} (hread : Reads shape v (render level value)) (hrest : Delimited rest)
    (hnext : nextItem (n == 0) cs = .ok (true, render level value ++ rest)) :
    itemsFrom shape place (fuel + 1) n cs =
      (itemsFrom shape place fuel (n + 1) rest).map fun (items, last) => (v :: items, last) := by
  have hitem := hread (.index n :: place) _ rest (skipSpace_render level value rest) hrest
  rw [itemsFrom]
  simp only [hnext, hitem, bind, Except.bind, ↓reduceIte]
  rcases itemsFrom shape place fuel (n + 1) rest with fault | ⟨items, last⟩ <;> rfl

/-- The items after the first are read up to the end of the array. -/
theorem itemsFrom_renderItems {shape : Shape α} {level : Nat} (below : Nat) (place : Place)
    (rest : List Char) (items : List (α × Json))
    (h : ∀ x ∈ items, Reads shape x.1 (render level x.2)) {n fuel : Nat}
    (hfuel : items.length < fuel) :
    itemsFrom shape place fuel (n + 1)
      (renderItems level (items.map Prod.snd) ++ (newLine below ++ ']' :: rest)) =
        .ok (items.map Prod.fst, rest) := by
  induction items generalizing n fuel with
  | nil =>
    obtain _ | fuel := fuel
    · exact absurd hfuel (Nat.not_lt_zero _)
    have hend : skipSpace (newLine below ++ ']' :: rest) = ']' :: rest := skipSpace_newLine ..
    simp [renderItems, itemsFrom, nextItem_end _ hend, bind, Except.bind]
  | cons x items ih =>
    obtain _ | fuel := fuel
    · exact absurd hfuel (Nat.not_lt_zero _)
    obtain ⟨hx, hitems⟩ := List.forall_mem_cons.1 h
    have hdelimited := delimited_renderItems level below (items.map Prod.snd) (']' :: rest)
    simp only [List.map_cons, renderItems, List.cons_append, List.append_assoc]
    rw [itemsFrom_item (n := n + 1) hx hdelimited (nextItem_comma ..),
      ih hitems (by simpa using hfuel)]
    rfl

/-- **An array is read back when its items are.** -/
theorem reads_array {shape : Shape α} {level : Nat} (items : List (α × Json))
    (h : ∀ x ∈ items, Reads shape x.1 (render (level + 1) x.2)) :
    Reads (arrayShape shape) (items.map Prod.fst) (render level (.array (items.map Prod.snd))) := by
  intro place cs rest hcs _
  cases items with
  | nil =>
    rw [List.map_nil, render] at hcs
    have hend : nextItem true (']' :: rest) = .ok (false, ']' :: rest) := nextItem_end true rfl
    simp [arrayShape, hcs, itemsFrom, hend, bind, Except.bind]
  | cons x items =>
    obtain ⟨hx, hitems⟩ := List.forall_mem_cons.1 h
    have hdelimited := delimited_renderItems (level + 1) level (items.map Prod.snd) (']' :: rest)
    simp only [List.map_cons, render, List.cons_append, List.append_assoc, List.nil_append] at hcs
    simp only [arrayShape, hcs]
    rw [itemsFrom_item (n := 0) hx hdelimited (nextItem_first ..),
      itemsFrom_renderItems level place rest items hitems]
    · rfl
    · have := length_renderItems (level + 1) (items.map Prod.snd)
      simp only [List.length_append, List.length_cons, List.length_map] at this ⊢
      omega

/-! ## Records -/

/-- The members of an object fill a draft: one after the other, each belongs to a field that is not
set yet and is read from its text. -/
inductive Fills (fields : List (Field δ)) (level : Nat) : δ → List (String × Json) → δ → Prop where
  | nil (d : δ) : Fills fields level d [] d
  | cons {d d' d'' : δ} {key : String} {value : Json} {members : List (String × Json)} {f : Field δ}
      (find : (fields.find? fun f => f.name == key) = some f) (unset : f.isSet d = false)
      (read : Reads (f.read d) d' (render level value)) (others : Fills fields level d' members d'') :
      Fills fields level d ((key, value) :: members) d''

theorem reads_field {shape : Shape α} {v : α} {text : List Char} (h : Reads shape v text)
    {name : String} {get : δ → Option α} {set : δ → α → δ} {d : δ} :
    Reads ((Field.of name shape get set).read d) (set d v) text := by
  intro place cs rest hcs hrest
  simp [Field.of, h place cs rest hcs hrest, bind, Except.bind]

theorem nextKey_first (level : Nat) (cs : List Char) :
    nextKey true (newLine level ++ '"' :: cs) = .ok (true, cs) := by
  have hquote : skipSpace (newLine level ++ '"' :: cs) = '"' :: cs := skipSpace_newLine ..
  simp [nextKey, hquote]

theorem nextKey_comma (level : Nat) (cs : List Char) :
    nextKey false (',' :: (newLine level ++ '"' :: cs)) = .ok (true, cs) := by
  have hcomma : skipSpace (',' :: (newLine level ++ '"' :: cs)) =
      ',' :: (newLine level ++ '"' :: cs) := rfl
  have hquote : skipSpace (newLine level ++ '"' :: cs) = '"' :: cs := skipSpace_newLine ..
  simp [nextKey, hcomma, hquote]

theorem nextKey_end (isFirst : Bool) {cs rest : List Char} (hcs : skipSpace cs = '\x7d' :: rest) :
    nextKey isFirst cs = .ok (false, rest) := by
  simp [nextKey, hcs]

theorem delimited_renderMembers (level below : Nat) (members : List (String × Json))
    (rest : List Char) : Delimited (renderMembers level members ++ (newLine below ++ rest)) := by
  cases members with
  | nil => exact delimited_newLine below rest
  | cons entry members =>
    rw [renderMembers]
    exact ⟨_, .inl rfl⟩

theorem length_renderMembers (level : Nat) (members : List (String × Json)) :
    members.length ≤ (renderMembers level members).length := by
  induction members with
  | nil => simp
  | cons entry members ih =>
    simp only [renderMembers, List.length_cons, List.length_append]
    omega

namespace Record

variable {r : Record δ α}

/-- One member is taken up, wherever its key was reached. -/
theorem membersFrom_next {fuel : Nat} {isFirst : Bool} {d : δ} {key : String} {place : Place}
    {cs tail : List Char}
    (hnext : nextKey isFirst cs = .ok (true, key.toList.flatMap escapeChar ++ '"' :: tail)) :
    r.membersFrom place (fuel + 1) isFirst d cs =
      (r.member place d key tail).bind fun found =>
        r.membersFrom place fuel false found.1 found.2 := by
  have hkey := takeText_escaped key.toList tail
  rw [membersFrom]
  simp [hnext, hkey, String.ofList_toList, bind, Except.bind]

/-- One member is read into the draft. -/
theorem membersFrom_member {level fuel : Nat} {isFirst : Bool} {d d' : δ} {key : String}
    {value : Json} {f : Field δ} {place : Place} {cs rest : List Char}
    (hfind : (r.fields.find? fun f => f.name == key) = some f) (hunset : f.isSet d = false)
    (hread : Reads (f.read d) d' (render level value)) (hrest : Delimited rest)
    (hnext : nextKey isFirst cs =
      .ok (true, key.toList.flatMap escapeChar ++ '"' :: (colon ++ (render level value ++ rest)))) :
    r.membersFrom place (fuel + 1) isFirst d cs = r.membersFrom place fuel false d' rest := by
  have hcolon : takeColon (colon ++ (render level value ++ rest)) =
      .ok (' ' :: (render level value ++ rest)) := rfl
  have hspace : skipSpace (' ' :: (render level value ++ rest)) = render level value ++ rest :=
    skipSpace_render level value rest
  have hmember : r.member place d key (colon ++ (render level value ++ rest)) = .ok (d', rest) := by
    simp [member, hfind, hunset, hcolon, hread _ _ rest hspace hrest, bind, Except.bind]
  rw [membersFrom_next hnext, hmember]
  rfl

/-- The members after the first are read up to the end of the object. -/
theorem membersFrom_renderMembers {level : Nat} (below : Nat) (place : Place) (rest : List Char)
    {d d' : δ} {members : List (String × Json)} (h : Fills r.fields level d members d') {fuel : Nat}
    (hfuel : members.length < fuel) :
    r.membersFrom place fuel false d
      (renderMembers level members ++ (newLine below ++ '\x7d' :: rest)) = .ok (d', rest) := by
  induction h generalizing fuel with
  | nil d =>
    obtain _ | fuel := fuel
    · exact absurd hfuel (Nat.not_lt_zero _)
    have hend : skipSpace (newLine below ++ '\x7d' :: rest) = '\x7d' :: rest := skipSpace_newLine ..
    simp [renderMembers, membersFrom, nextKey_end _ hend, bind, Except.bind]
  | @cons d d' d'' key value members f hfind hunset hread _ ih =>
    obtain _ | fuel := fuel
    · exact absurd hfuel (Nat.not_lt_zero _)
    have hrest := delimited_renderMembers level below members ('\x7d' :: rest)
    rw [membersFrom_member hfind hunset hread hrest, ih (by simpa using hfuel)]
    simp only [renderMembers, quote, List.cons_append, List.append_assoc, List.nil_append]
    exact nextKey_comma ..

/-- **A record is read back when its members fill the draft it is made from.** -/
theorem reads_shape {level : Nat} {members : List (String × Json)} {d : δ} {v : α}
    (h : Fills r.fields (level + 1) r.draft members d) (hfinish : r.finish d = some v) :
    Reads r.shape v (render level (.object members)) := by
  intro place cs rest hcs _
  have hmembers : ∃ body, skipSpace cs = '\x7b' :: body ∧
      r.membersFrom place (body.length + 1) true r.draft body = .ok (d, rest) := by
    cases h with
    | nil =>
      rw [render] at hcs
      refine ⟨'\x7d' :: rest, hcs, ?_⟩
      have hend : nextKey true ('\x7d' :: rest) = .ok (false, rest) := nextKey_end true rfl
      simp [membersFrom, hend, bind, Except.bind]
    | @cons _ d' _ key value members f hfind hunset hread hothers =>
      have hrest := delimited_renderMembers (level + 1) level members ('\x7d' :: rest)
      simp only [render, quote, List.cons_append, List.append_assoc, List.nil_append] at hcs
      refine ⟨_, hcs, ?_⟩
      rw [membersFrom_member hfind hunset hread hrest (nextKey_first ..)]
      refine membersFrom_renderMembers level place rest hothers ?_
      have := length_renderMembers (level + 1) members
      simp only [List.length_append, List.length_cons]
      omega
  obtain ⟨body, hbody, hread⟩ := hmembers
  simp [shape, hbody, hread, close, hfinish, bind, Except.bind]

end Record

/-! ## What is read from any text -/

/-- Whatever text the shape reads, the value has the property. -/
def Yields (shape : Shape α) (P : α → Prop) : Prop :=
  ∀ place cs v rest, shape place cs = .ok (v, rest) → P v

theorem yields_word : Yields wordShape fun n => n < 4294967296 := by
  intro place cs v rest h
  unfold wordShape at h
  split at h
  · cases h
  split at h
  · obtain ⟨⟨n, last⟩, -, h⟩ := bind_eq_ok h
    dsimp only at h
    split at h
    · rename_i value hword
      cases h
      exact toWord?_lt hword
    · cases h
  · cases h

theorem yields_optional {shape : Shape α} {P : α → Prop} (hshape : Yields shape P) :
    Yields (optionalShape shape) fun v => ∀ x ∈ v, P x := by
  intro place cs v rest h
  unfold optionalShape at h
  split at h
  · obtain ⟨⟨⟨⟩, last⟩, -, h⟩ := bind_eq_ok h
    cases h
    simp
  · obtain ⟨⟨x, last⟩, hx, h⟩ := bind_eq_ok h
    cases h
    simpa using hshape _ _ _ _ hx

theorem itemsFrom_yields {shape : Shape α} {P : α → Prop} (hshape : Yields shape P)
    {place : Place} {fuel n : Nat} {cs rest : List Char} {items : List α}
    (h : itemsFrom shape place fuel n cs = .ok (items, rest)) : ∀ x ∈ items, P x := by
  induction fuel generalizing n cs items with
  | zero => cases h
  | succ fuel ih =>
    rw [itemsFrom] at h
    obtain ⟨⟨more, cs₁⟩, -, h⟩ := bind_eq_ok h
    dsimp only at h
    split at h
    · obtain ⟨⟨x, after⟩, hx, h⟩ := bind_eq_ok h
      obtain ⟨⟨xs, last⟩, hxs, h⟩ := bind_eq_ok h
      cases h
      exact List.forall_mem_cons.2 ⟨hshape _ _ _ _ hx, ih hxs⟩
    · cases h
      simp

theorem yields_array {shape : Shape α} {P : α → Prop} (hshape : Yields shape P) :
    Yields (arrayShape shape) fun items => ∀ x ∈ items, P x := by
  intro place cs v rest h
  unfold arrayShape at h
  split at h
  · exact itemsFrom_yields hshape h
  · cases h

theorem yields_field {shape : Shape α} {P : α → Prop} {I : δ → Prop} (hshape : Yields shape P)
    {name : String} {get : δ → Option α} {set : δ → α → δ} {d : δ}
    (hset : ∀ v, P v → I (set d v)) : Yields ((Field.of name shape get set).read d) I := by
  intro place cs v rest h
  obtain ⟨⟨value, last⟩, hvalue, h⟩ := bind_eq_ok h
  cases h
  exact hset value (hshape _ _ _ _ hvalue)

namespace Record

variable {r : Record δ α} {I : δ → Prop}

theorem membersFrom_yields (hfields : ∀ f ∈ r.fields, ∀ d, I d → Yields (f.read d) I)
    {place : Place} {fuel : Nat} {isFirst : Bool} {d d' : δ} {cs rest : List Char} (hd : I d)
    (h : r.membersFrom place fuel isFirst d cs = .ok (d', rest)) : I d' := by
  induction fuel generalizing isFirst d cs with
  | zero => cases h
  | succ fuel ih =>
    rw [membersFrom] at h
    obtain ⟨⟨more, cs₁⟩, -, h⟩ := bind_eq_ok h
    dsimp only at h
    split at h
    · obtain ⟨⟨key, cs₂⟩, -, h⟩ := bind_eq_ok h
      obtain ⟨⟨next, cs₃⟩, hmember, h⟩ := bind_eq_ok h
      refine ih ?_ h
      unfold member at hmember
      split at hmember
      · obtain ⟨cs₄, -, hmember⟩ := bind_eq_ok hmember
        obtain ⟨cs₅, -, hmember⟩ := bind_eq_ok hmember
        cases hmember
        exact hd
      · rename_i f hfind
        split at hmember
        · cases hmember
        · obtain ⟨cs₄, -, hmember⟩ := bind_eq_ok hmember
          exact hfields f (List.mem_of_find?_eq_some hfind) d hd _ _ _ _ hmember
    · cases h
      exact hd

theorem fieldsFrom_yields {fields : List (Field δ)}
    (hfields : ∀ f ∈ fields, ∀ d, I d → Yields (f.read d) I) {place : Place} {n : Nat} {d d' : δ}
    {cs rest : List Char} (hd : I d) (h : fieldsFrom place fields n d cs = .ok (d', rest)) :
    I d' := by
  induction fields generalizing n d cs with
  | nil =>
    cases h
    exact hd
  | cons f fields ih =>
    obtain ⟨hf, hfields⟩ := List.forall_mem_cons.1 hfields
    rw [fieldsFrom] at h
    obtain ⟨⟨more, cs₁⟩, -, h⟩ := bind_eq_ok h
    dsimp only at h
    split at h
    · obtain ⟨⟨next, cs₂⟩, hread, h⟩ := bind_eq_ok h
      exact ih hfields (hf d hd _ _ _ _ hread) h
    · cases h
      exact hd

/-- What holds of the empty draft and is kept by every field holds of the record. -/
theorem yields_shape {P : α → Prop} (hfields : ∀ f ∈ r.fields, ∀ d, I d → Yields (f.read d) I)
    (hdraft : I r.draft) (hfinish : ∀ d v, I d → r.finish d = some v → P v) :
    Yields r.shape P := by
  have hclose {place d cs v rest} (hd : I d) (h : r.close place d cs = .ok (v, rest)) : P v := by
    unfold close at h
    split at h
    · rename_i value hvalue
      cases h
      exact hfinish d _ hd hvalue
    · cases h
  intro place cs v rest h
  unfold shape at h
  split at h
  · obtain ⟨⟨d, after⟩, hread, h⟩ := bind_eq_ok h
    exact hclose (membersFrom_yields hfields hdraft hread) h
  · obtain ⟨⟨d, after⟩, hread, h⟩ := bind_eq_ok h
    obtain ⟨⟨value, last⟩, hvalue, h⟩ := bind_eq_ok h
    obtain ⟨last', -, h⟩ := bind_eq_ok h
    cases h
    exact hclose (fieldsFrom_yields hfields hdraft hread) hvalue
  · cases h

end Record

end BytecodeLint.Json
