import BytecodeLint.Descriptor

/-!
# The grammar of descriptors

The readers of descriptors accept a text exactly when it begins with a descriptor, and they find
which one. A descriptor says itself where it ends, so a text begins with one descriptor at most and
what stands behind it does not matter.

* `Ty.Proper`, `MethodTy.Proper`: the types that have a descriptor; `text` is the descriptor.
* `readToken_ty_iff`, `readToken_closing_iff`, `readMethod_iff`: a reader leaves a rest exactly when
  the text is a descriptor with that rest behind it.
* `Ty.Begins.unique`, `MethodTy.Begins.unique`: two descriptors never begin one text.
* `descriptors_exact`: the answers that are given about a text.
-/
namespace BytecodeLint.Descriptor

/-! ## Types that can be written -/

/-- The name of an object type ends at the first semicolon, so it has none. -/
def Element.Proper : Element → Prop
  | .object name => ';' ∉ name
  | _ => True

/-- An array has at most 255 dimensions. -/
def Ty.Proper : Ty → Prop
  | .element e => e.Proper
  | .array dimensions e => dimensions + 1 ≤ 255 ∧ e.Proper

structure MethodTy.Proper (m : MethodTy) : Prop where
  parameters : ∀ type ∈ m.parameters, type.Proper
  result : m.result.Proper

/-- The descriptor of a method. -/
def MethodTy.text (m : MethodTy) : List Char :=
  '(' :: (m.parameters.flatMap Ty.text ++ ')' :: m.result.text)

/-- The text begins with the descriptor of the type. -/
def Ty.Begins (type : Ty) (text : String) : Prop := type.Proper ∧ type.text <+: text.toList

/-- The text begins with the descriptor of the method. -/
def MethodTy.Begins (m : MethodTy) (text : String) : Prop := m.Proper ∧ m.text <+: text.toList

/-! ## Reading a type -/

theorem ofLetter?_eq_some_iff {c : Char} {type : Primitive} :
    Primitive.ofLetter? c = some type ↔ c = type.letter := by
  constructor
  · intro h
    unfold Primitive.ofLetter? at h
    split at h <;> cases h <;> rfl
  · rintro rfl
    cases type <;> rfl

theorem readName_text {name : List Char} (hname : ';' ∉ name) (rest : List Char) :
    readName (name ++ ';' :: rest) = .ok (name, rest) := by
  induction name with
  | nil => rfl
  | cons c name ih =>
    have hc : c ≠ ';' := (List.ne_of_not_mem_cons hname).symm
    rw [List.cons_append, readName, if_neg hc, ih (List.not_mem_of_not_mem_cons hname)]
    rfl

theorem of_readName {cs name rest : List Char} (h : readName cs = .ok (name, rest)) :
    ';' ∉ name ∧ cs = name ++ ';' :: rest := by
  induction cs generalizing name with
  | nil => cases h
  | cons c cs ih =>
    rw [readName] at h
    split at h
    · rename_i hc
      cases h
      exact ⟨List.not_mem_nil, by rw [hc]; rfl⟩
    · rename_i hc
      cases hlater : readName cs with
      | error fault => simp [hlater, Except.map] at h
      | ok found =>
        simp only [hlater, Except.map, Except.ok.injEq, Prod.mk.injEq] at h
        obtain ⟨rfl, rfl⟩ := h
        obtain ⟨hfree, rfl⟩ := ih hlater
        exact ⟨List.not_mem_cons_of_ne_of_not_mem (Ne.symm hc) hfree, rfl⟩

theorem readElement_text {e : Element} (he : e.Proper) (rest : List Char) :
    readElement (e.text ++ rest) = .ok (some e, rest) := by
  cases e with
  | primitive type => cases type <;> rfl
  | void => rfl
  | object name =>
    have htext : (Element.object name).text ++ rest = 'L' :: (name ++ ';' :: rest) := by
      simp [Element.text]
    have hletter : Primitive.ofLetter? 'L' = none := rfl
    simp only [htext, readElement, hletter, readName_text he, Except.map]
    rfl

/-- What is read as an element is one, or the closing parenthesis. -/
theorem of_readElement {cs rest : List Char} {found : Option Element}
    (h : readElement cs = .ok (found, rest)) :
    (found = none ∧ cs = ')' :: rest) ∨
      ∃ e, found = some e ∧ e.Proper ∧ cs = e.text ++ rest := by
  cases cs with
  | nil => cases h
  | cons c cs =>
    rw [readElement] at h
    split at h
    · rename_i type htype
      cases h
      exact .inr ⟨_, rfl, trivial, by rw [ofLetter?_eq_some_iff.1 htype]; rfl⟩
    · split at h
      · rename_i hc
        cases h
        exact .inr ⟨.void, rfl, trivial, by rw [hc]; rfl⟩
      · split at h
        · rename_i hc
          cases h
          exact .inl ⟨rfl, by rw [hc]⟩
        · split at h
          · rename_i hc
            cases hname : readName cs with
            | error fault => simp [hname, Except.map] at h
            | ok named =>
              simp only [hname, Except.map, Except.ok.injEq, Prod.mk.injEq] at h
              obtain ⟨rfl, rfl⟩ := h
              obtain ⟨hfree, hcs⟩ := of_readName hname
              exact .inr ⟨.object named.1, rfl, hfree, by simp [hc, hcs, Element.text]⟩
          · cases h

/-- An element does not begin with a bracket. -/
theorem exists_cons_text (e : Element) : ∃ c cs, e.text = c :: cs ∧ c ≠ '[' := by
  cases e with
  | primitive type => cases type <;> exact ⟨_, _, rfl, by decide⟩
  | void => exact ⟨_, _, rfl, by decide⟩
  | object name => exact ⟨_, _, rfl, by decide⟩

/-- Behind the brackets that were read may come more of them, up to the limit. -/
theorem readArray_text {e : Element} (he : e.Proper) (rest : List Char) (count more : Nat)
    (h : count + more ≤ maxDimensions) :
    readArray count (List.replicate more '[' ++ (e.text ++ rest)) =
      .ok (.array (count + more - 1) e, rest) := by
  induction more generalizing count with
  | zero =>
    obtain ⟨c, cs, htext, hc⟩ := exists_cons_text e
    have hread := readElement_text he rest
    rw [htext, List.cons_append] at hread
    rw [htext, List.replicate_zero, List.nil_append, List.cons_append, readArray, if_neg hc, hread]
    rfl
  | succ more ih =>
    rw [List.replicate_succ, List.cons_append, readArray, if_pos rfl, if_pos (by omega),
      ih (count + 1) (by omega)]
    congr 3
    omega

theorem of_readArray {cs rest : List Char} {type : Ty} {count : Nat}
    (h : readArray count cs = .ok (type, rest)) (hcount : count ≤ maxDimensions) :
    ∃ more e, count + more ≤ maxDimensions ∧ e.Proper ∧ type = .array (count + more - 1) e ∧
      cs = List.replicate more '[' ++ (e.text ++ rest) := by
  induction cs generalizing count with
  | nil => cases h
  | cons c cs ih =>
    rw [readArray] at h
    split at h
    · rename_i hc
      split at h
      · rename_i hlt
        obtain ⟨more, e, hmore, he, rfl, rfl⟩ := ih h hlt
        refine ⟨more + 1, e, by omega, he, by congr 1; omega, ?_⟩
        rw [hc, List.replicate_succ, List.cons_append]
      · cases h
    · split at h
      · rename_i e after helement
        cases h
        rcases of_readElement helement with ⟨hnone, -⟩ | ⟨e, heq, he, hcs⟩
        · cases hnone
        · cases heq
          exact ⟨0, e, hcount, he, rfl, hcs⟩
      · cases h
      · cases h

/-! ## Reading a type or the end of the parameters -/

theorem readToken_text {type : Ty} (htype : type.Proper) (rest : List Char) :
    readToken (type.text ++ rest) = .ok (.ty type, rest) := by
  cases type with
  | element e =>
    obtain ⟨c, cs, htext, hc⟩ := exists_cons_text e
    have hread := readElement_text htype rest
    rw [htext, List.cons_append] at hread
    rw [Ty.text, htext, List.cons_append, readToken, if_neg hc, hread]
    rfl
  | array dimensions e =>
    have hdimensions : dimensions + 1 ≤ maxDimensions := htype.1
    have hread := readArray_text htype.2 rest 1 dimensions (by omega)
    rw [Ty.text, List.replicate_succ, List.append_assoc, List.cons_append, readToken, if_pos rfl,
      hread]
    simp [Except.map]

theorem of_readToken {cs rest : List Char} {token : Token}
    (h : readToken cs = .ok (token, rest)) :
    (token = .closing ∧ cs = ')' :: rest) ∨
      ∃ type, token = .ty type ∧ type.Proper ∧ cs = type.text ++ rest := by
  cases cs with
  | nil => cases h
  | cons c cs =>
    rw [readToken] at h
    split at h
    · rename_i hc
      cases harray : readArray 1 cs with
      | error fault => simp [harray, Except.map] at h
      | ok found =>
        simp only [harray, Except.map, Except.ok.injEq, Prod.mk.injEq] at h
        obtain ⟨rfl, rfl⟩ := h
        obtain ⟨more, e, hmore, he, hfound, hcs⟩ := of_readArray harray (by decide)
        have hdimensions : more + 1 ≤ maxDimensions := by omega
        refine .inr ⟨_, rfl, ?_⟩
        rw [hfound, hc, hcs]
        exact ⟨⟨by simpa [maxDimensions] using hdimensions, he⟩,
          by simp [Ty.text, List.replicate_succ]⟩
    · cases helement : readElement (c :: cs) with
      | error fault => simp [helement, Except.map] at h
      | ok found =>
        simp only [helement, Except.map, Except.ok.injEq, Prod.mk.injEq] at h
        obtain ⟨rfl, rfl⟩ := h
        rcases of_readElement helement with ⟨hnone, hcs⟩ | ⟨e, hsome, he, hcs⟩
        · exact .inl ⟨by rw [hnone]; rfl, hcs⟩
        · exact .inr ⟨.element e, by rw [hsome]; rfl, he, hcs⟩

/-- A type with a rest behind it is read as that type, and nothing else is. -/
theorem readToken_ty_iff {cs rest : List Char} {type : Ty} :
    readToken cs = .ok (.ty type, rest) ↔ type.Proper ∧ cs = type.text ++ rest := by
  constructor
  · intro h
    rcases of_readToken h with ⟨heq, -⟩ | ⟨type', heq, htype⟩
    · cases heq
    · cases heq
      exact htype
  · rintro ⟨htype, rfl⟩
    exact readToken_text htype rest

theorem readToken_closing_iff {cs rest : List Char} :
    readToken cs = .ok (.closing, rest) ↔ cs = ')' :: rest := by
  constructor
  · intro h
    rcases of_readToken h with ⟨-, hcs⟩ | ⟨type, heq, -⟩
    · exact hcs
    · cases heq
  · rintro rfl
    rfl

/-! ## Reading a method -/

theorem readParameters_text {types : List Ty} (htypes : ∀ type ∈ types, type.Proper)
    (rest : List Char) :
    readParameters (types.flatMap Ty.text ++ ')' :: rest) = .ok (types, rest) := by
  induction types with
  | nil =>
    rw [readParameters]
    rfl
  | cons type types ih =>
    obtain ⟨htype, htypes⟩ := List.forall_mem_cons.1 htypes
    have hread := readToken_text htype (types.flatMap Ty.text ++ ')' :: rest)
    rw [List.flatMap_cons, List.append_assoc, readParameters]
    split
    · rename_i herror
      cases hread.symm.trans herror
    · rename_i hclosing
      cases hread.symm.trans hclosing
    · rename_i type' after hty
      cases hread.symm.trans hty
      rw [ih htypes]
      rfl

theorem of_readParameters {cs rest : List Char} {types : List Ty}
    (h : readParameters cs = .ok (types, rest)) :
    (∀ type ∈ types, type.Proper) ∧ cs = types.flatMap Ty.text ++ ')' :: rest := by
  fun_induction readParameters cs generalizing types with
  | case1 => cases h
  | case2 cs after hclosing =>
    cases h
    exact ⟨by simp, readToken_closing_iff.1 hclosing⟩
  | case3 cs type after hread _ ih =>
    obtain ⟨htype, rfl⟩ := readToken_ty_iff.1 hread
    cases hlater : readParameters after with
    | error fault => simp [hlater, Except.map] at h
    | ok found =>
      simp only [hlater, Except.map, Except.ok.injEq, Prod.mk.injEq] at h
      obtain ⟨rfl, rfl⟩ := h
      obtain ⟨htypes, rfl⟩ := ih hlater
      exact ⟨List.forall_mem_cons.2 ⟨htype, htypes⟩, by simp⟩

/-- A method with a rest behind it is read as that method, and nothing else is. -/
theorem readMethod_iff {cs rest : List Char} {m : MethodTy} :
    readMethod cs = .ok (m, rest) ↔ m.Proper ∧ cs = m.text ++ rest := by
  constructor
  · intro h
    cases cs with
    | nil => cases h
    | cons c cs =>
      rw [readMethod] at h
      split at h
      · rename_i hc
        split at h
        · cases h
        · rename_i parameters after hparameters
          obtain ⟨htypes, rfl⟩ := of_readParameters hparameters
          split at h
          · cases h
          · cases h
          · rename_i result last hresult
            cases h
            obtain ⟨htype, rfl⟩ := readToken_ty_iff.1 hresult
            exact ⟨⟨htypes, htype⟩, by simp [MethodTy.text, hc]⟩
      · cases h
  · rintro ⟨⟨hparameters, hresult⟩, rfl⟩
    have htext : m.text ++ rest =
        '(' :: (m.parameters.flatMap Ty.text ++ ')' :: (m.result.text ++ rest)) := by
      simp [MethodTy.text]
    simp only [htext, readMethod, readParameters_text hparameters, readToken_text hresult]
    rfl

/-! ## Uniqueness -/

section
variable {text : String}

theorem Ty.begins_iff {type : Ty} :
    type.Begins text ↔ ∃ rest, readToken text.toList = .ok (.ty type, rest) := by
  simp only [readToken_ty_iff, exists_and_left, Ty.Begins, List.prefix_iff_exists_eq_append]

theorem MethodTy.begins_iff {m : MethodTy} :
    m.Begins text ↔ ∃ rest, readMethod text.toList = .ok (m, rest) := by
  simp only [readMethod_iff, exists_and_left, MethodTy.Begins, List.prefix_iff_exists_eq_append]

theorem Ty.Begins.unique {type type' : Ty} (h : type.Begins text) (h' : type'.Begins text) :
    type = type' := by
  obtain ⟨rest, hread⟩ := Ty.begins_iff.1 h
  obtain ⟨rest', hread'⟩ := Ty.begins_iff.1 h'
  cases hread.symm.trans hread'
  rfl

theorem MethodTy.Begins.unique {m m' : MethodTy} (h : m.Begins text) (h' : m'.Begins text) :
    m = m' := by
  obtain ⟨rest, hread⟩ := MethodTy.begins_iff.1 h
  obtain ⟨rest', hread'⟩ := MethodTy.begins_iff.1 h'
  cases hread.symm.trans hread'
  rfl

theorem toList_prefix_append (text more : String) : text.toList <+: (text ++ more).toList := by
  rw [String.toList_append]
  exact List.prefix_append ..

/-- A descriptor at the front of a text stays there when more text is put behind. -/
theorem Ty.Begins.append {type : Ty} (h : type.Begins text) (more : String) :
    type.Begins (text ++ more) :=
  ⟨h.1, h.2.trans (toList_prefix_append text more)⟩

theorem MethodTy.Begins.append {m : MethodTy} (h : m.Begins text) (more : String) :
    m.Begins (text ++ more) :=
  ⟨h.1, h.2.trans (toList_prefix_append text more)⟩

/-! ## Answers -/

/-- What a field of a type holds; there are no fields of type void. -/
inductive Ty.Holds : Ty → FieldKind → Prop where
  | primitive (type : Primitive) : Holds (.element (.primitive type)) .primitive
  | object (name : List Char) : Holds (.element (.object name)) (.object (internalName name))
  | array (dimensions : Nat) (e : Element) : Holds (.array dimensions e) .array

/-- What a method with a result of a type hands back. -/
inductive Ty.HandsBack : Ty → ReturnKind → Prop where
  | void : HandsBack (.element .void) .void
  | primitive (type : Primitive) : HandsBack (.element (.primitive type)) .primitive
  | object (name : List Char) : HandsBack (.element (.object name)) .reference
  | array (dimensions : Nat) (e : Element) : HandsBack (.array dimensions e) .reference

theorem fieldKind?_eq_some_iff {type : Ty} {kind : FieldKind} :
    type.fieldKind? = some kind ↔ type.Holds kind := by
  constructor
  · intro h
    unfold Ty.fieldKind? at h
    split at h <;> cases h <;> constructor
  · rintro (_ | _ | _) <;> rfl

theorem returnKind_eq_iff {type : Ty} {kind : ReturnKind} :
    type.returnKind = kind ↔ type.HandsBack kind := by
  constructor
  · rintro rfl
    unfold Ty.returnKind
    split <;> constructor
  · rintro (_ | _ | _ | _) <;> rfl

theorem exists_holds_iff {type : Ty} : (∃ kind, type.Holds kind) ↔ type ≠ .element .void := by
  constructor
  · rintro ⟨_, _ | _ | _⟩ <;> simp
  · intro h
    match type with
    | .element (.primitive _) => exact ⟨_, .primitive _⟩
    | .element .void => exact absurd rfl h
    | .element (.object _) => exact ⟨_, .object _⟩
    | .array _ _ => exact ⟨_, .array _ _⟩

/-- A field has a kind exactly when the text begins with a type that has it. -/
theorem fieldKind_eq_ok_iff {kind : FieldKind} :
    fieldKind text = .ok kind ↔ ∃ type : Ty, type.Begins text ∧ type.Holds kind := by
  simp only [Ty.begins_iff, ← fieldKind?_eq_some_iff]
  unfold fieldKind
  split
  · rename_i herror
    simp [herror]
  · rename_i hclosing
    simp [hclosing]
  · rename_i type rest hread
    simp only [hread, Except.ok.injEq, Prod.mk.injEq, Token.ty.injEq]
    split
    · rename_i kind' hkind
      constructor
      · intro h
        cases h
        exact ⟨type, ⟨rest, rfl, rfl⟩, hkind⟩
      · rintro ⟨_, ⟨_, rfl, -⟩, h⟩
        rw [hkind] at h
        exact congrArg Except.ok (Option.some.inj h)
    · rename_i hnone
      simp only [reduceCtorEq, false_iff]
      rintro ⟨_, ⟨_, rfl, -⟩, h⟩
      cases hnone.symm.trans h

theorem methodType_eq_ok_iff {m : MethodTy} : methodType text = .ok m ↔ m.Begins text := by
  rw [MethodTy.begins_iff, methodType]
  cases hread : readMethod text.toList with
  | error fault => simp [Except.map]
  | ok found =>
    obtain ⟨m', rest⟩ := found
    simp [Except.map]

theorem parameterCount_eq_ok_iff {n : Nat} :
    parameterCount text = .ok n ↔ ∃ m : MethodTy, m.Begins text ∧ m.parameters.length = n := by
  simp only [← methodType_eq_ok_iff, parameterCount]
  cases methodType text <;> simp [Except.map]

theorem returnKind_eq_ok_iff {kind : ReturnKind} :
    returnKind text = .ok kind ↔ ∃ m : MethodTy, m.Begins text ∧ m.result.HandsBack kind := by
  simp only [← methodType_eq_ok_iff, ← returnKind_eq_iff, returnKind]
  cases methodType text <;> simp [Except.map]

/-- An object's descriptor has at least two bytes, so the shorter texts need not be read. -/
theorem objectClass?_eq_some_iff {name : String} :
    objectClass? text = some name ↔ fieldKind text = .ok (.object name) := by
  unfold objectClass?
  split
  · rename_i hshort
    simp only [reduceCtorEq, false_iff]
    intro hkind
    obtain ⟨type, ⟨-, rest, htext⟩, hholds⟩ := fieldKind_eq_ok_iff.1 hkind
    cases hholds with
    | object letters =>
      have hwhole : text = "L" ++ String.ofList letters ++ ";" ++ String.ofList rest := by
        rw [← String.toList_inj, ← htext]
        simp [Ty.text, Element.text]
      have hfirst : "L".utf8ByteSize = 1 := rfl
      have hlast : ";".utf8ByteSize = 1 := rfl
      simp only [hwhole, String.utf8ByteSize_append] at hshort
      omega
  · cases hkind : fieldKind text with
    | error fault => simp
    | ok kind => cases kind <;> simp

end

/-- **Descriptors are read exactly.** A field has a kind exactly when the text begins with a type
other than void, and then it is the kind of that type; a class is named exactly when that kind is an
object. A method has a number of parameters and a kind of result exactly when the text begins with
the descriptor of a method, and then they are those of this method. No text begins with two types or
with two methods, and no answer is changed by what stands behind. -/
theorem descriptors_exact (text : String) :
    ((∃ kind, fieldKind text = .ok kind) ↔
      ∃ type : Ty, type.Begins text ∧ type ≠ .element .void) ∧
    (∀ type : Ty, type.Begins text → ∀ kind, fieldKind text = .ok kind ↔ type.Holds kind) ∧
    (∀ name, objectClass? text = some name ↔ fieldKind text = .ok (.object name)) ∧
    ((∃ n, parameterCount text = .ok n) ↔ ∃ m : MethodTy, m.Begins text) ∧
    ((∃ kind, returnKind text = .ok kind) ↔ ∃ m : MethodTy, m.Begins text) ∧
    (∀ m : MethodTy, m.Begins text → parameterCount text = .ok m.parameters.length ∧
      ∀ kind, returnKind text = .ok kind ↔ m.result.HandsBack kind) ∧
    (∀ type type' : Ty, type.Begins text → type'.Begins text → type = type') ∧
    (∀ m m' : MethodTy, m.Begins text → m'.Begins text → m = m') ∧
    ∀ more : String,
      (∀ kind, fieldKind text = .ok kind → fieldKind (text ++ more) = .ok kind) ∧
      (∀ name, objectClass? text = some name → objectClass? (text ++ more) = some name) ∧
      (∀ n, parameterCount text = .ok n → parameterCount (text ++ more) = .ok n) ∧
      ∀ kind, returnKind text = .ok kind → returnKind (text ++ more) = .ok kind := by
  have hfield (more : String) (kind : FieldKind) (h : fieldKind text = .ok kind) :
      fieldKind (text ++ more) = .ok kind := by
    obtain ⟨type, hbegins, hholds⟩ := fieldKind_eq_ok_iff.1 h
    exact fieldKind_eq_ok_iff.2 ⟨type, hbegins.append more, hholds⟩
  refine ⟨?_, fun type htype kind => ?_, fun name => objectClass?_eq_some_iff, ?_, ?_,
    fun m hm => ⟨parameterCount_eq_ok_iff.2 ⟨m, hm, rfl⟩, fun kind => ?_⟩,
    fun _ _ h h' => h.unique h', fun _ _ h h' => h.unique h',
    fun more => ⟨hfield more, fun name h => ?_, fun n h => ?_, fun kind h => ?_⟩⟩
  · simp only [fieldKind_eq_ok_iff, ← exists_holds_iff]
    exact ⟨fun ⟨kind, type, hbegins, hholds⟩ => ⟨type, hbegins, kind, hholds⟩,
      fun ⟨type, hbegins, kind, hholds⟩ => ⟨kind, type, hbegins, hholds⟩⟩
  · rw [fieldKind_eq_ok_iff]
    exact ⟨fun ⟨type', htype', hholds⟩ => htype'.unique htype ▸ hholds,
      fun hholds => ⟨type, htype, hholds⟩⟩
  · simp only [parameterCount_eq_ok_iff]
    exact ⟨fun ⟨_, m, hm, _⟩ => ⟨m, hm⟩, fun ⟨m, hm⟩ => ⟨_, m, hm, rfl⟩⟩
  · simp only [returnKind_eq_ok_iff]
    exact ⟨fun ⟨_, m, hm, _⟩ => ⟨m, hm⟩, fun ⟨m, hm⟩ => ⟨_, m, hm, returnKind_eq_iff.1 rfl⟩⟩
  · rw [returnKind_eq_ok_iff]
    exact ⟨fun ⟨m', hm', hback⟩ => hm'.unique hm ▸ hback, fun hback => ⟨m, hm, hback⟩⟩
  · exact objectClass?_eq_some_iff.2 (hfield more _ (objectClass?_eq_some_iff.1 h))
  · obtain ⟨m, hm, hn⟩ := parameterCount_eq_ok_iff.1 h
    exact parameterCount_eq_ok_iff.2 ⟨m, hm.append more, hn⟩
  · obtain ⟨m, hm, hback⟩ := returnKind_eq_ok_iff.1 h
    exact returnKind_eq_ok_iff.2 ⟨m, hm.append more, hback⟩

end BytecodeLint.Descriptor
