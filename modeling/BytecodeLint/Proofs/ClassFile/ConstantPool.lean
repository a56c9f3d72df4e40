import BytecodeLint.ClassFile.ConstantPool
import BytecodeLint.Proofs.Except

/-!
# What constants name

A look-up succeeds exactly when the entries it follows are of the right kinds, and then it gives the
texts at their ends. `Names` says this of member references without following anything.
-/
namespace BytecodeLint.ConstantPool

/-- The entry of a number names a member: entries lead from it to the three texts. -/
def Names (pool : ConstantPool) (index : Nat) (m : MemberRef) : Prop :=
  ∃ owner pair text name descriptor,
    pool.get? index = some (.member owner pair) ∧
    pool.get? owner = some (.classRef text) ∧ pool.get? text = some (.utf8 m.owner) ∧
    pool.get? pair = some (.nameAndType name descriptor) ∧
    pool.get? name = some (.utf8 m.name) ∧ pool.get? descriptor = some (.utf8 m.descriptor)

theorem utf8_eq_ok {pool : ConstantPool} {index : Nat} {text : String} :
    pool.utf8 index = .ok text ↔ pool.get? index = some (.utf8 text) := by
  unfold utf8
  split <;> simp_all

theorem className_eq_ok {pool : ConstantPool} {index : Nat} {name : String} :
    pool.className index = .ok name ↔
      ∃ text, pool.get? index = some (.classRef text) ∧ pool.get? text = some (.utf8 name) := by
  unfold className
  split <;> simp_all [utf8_eq_ok]

theorem nameAndType_eq_ok {pool : ConstantPool} {index : Nat} {pair : Nat × Nat} :
    pool.nameAndType index = .ok pair ↔
      pool.get? index = some (.nameAndType pair.1 pair.2) := by
  unfold nameAndType
  split <;> simp_all [Prod.ext_iff]

/-- A reference resolves to a member exactly when its entry names it. -/
theorem member_eq_ok_iff {pool : ConstantPool} {index : Nat} {m : MemberRef} :
    pool.member index = .ok m ↔ pool.Names index m := by
  unfold member Names
  split
  · simp_all
  · rename_i owner pair h
    simp only [bind, bind_mapError_eq_ok, className_eq_ok, nameAndType_eq_ok, utf8_eq_ok]
    constructor
    · rintro ⟨owner, ⟨text, hclass, htext⟩, ⟨name, descriptor⟩, hpair, _, hname, _, hdesc, hm⟩
      cases hm
      exact ⟨_, _, text, name, descriptor, h, hclass, htext, hpair, hname, hdesc⟩
    · rintro ⟨owner', pair', text, name, descriptor, h', hclass, htext, hpair, hname, hdesc⟩
      obtain ⟨rfl, rfl⟩ : owner = owner' ∧ pair = pair' := by simpa using h.symm.trans h'
      exact ⟨_, ⟨text, hclass, htext⟩, (name, descriptor), hpair, _, hname, _, hdesc, rfl⟩
  · simp_all

end BytecodeLint.ConstantPool
