import Mathlib.Algebra.GroupWithZero.Nat
import Mathlib.Data.List.Forall2
import ShallowTransfer.Wire.Stages

/-!
Bytes that spell a value: a reader takes exactly these bytes from the front of any others and gives
the value, and of every part of them that stops too early it reports that the bytes end (`Spells`).
Spellings of values behind one another make up the spelling of them all (`Spells.bind`). For a type
with a lawful form (`LawfulForm`), what is written of a value spells it, as long as the lengths of
its texts and lists fit into eight bytes.
-/

namespace ShallowTransfer

/-- A reader takes exactly the bytes from the front of others, for the value, and never does with
fewer. -/
structure Spells {α : Type} (r : WireReader α) (bs : Bytes) (a : α) : Prop where
  reads (rest : Bytes) : r (bs ++ rest) = .ok (a, rest)
  starves {front back : Bytes} : front ++ back = bs → back ≠ [] → r front = .error .unexpectedEnd

namespace Spells

/-! ### Steps of readers -/

theorem pure {α : Type} (a : α) : Spells (WireReader.pure a) [] a where
  reads _ := rfl
  starves h hback := absurd (List.append_eq_nil_iff.mp h).2 hback

theorem bind {α β : Type} {r : WireReader α} {f : α → WireReader β} {bs cs : Bytes} {a : α} {b : β}
    (hr : Spells r bs a) (hf : Spells (f a) cs b) : Spells (r.bind f) (bs ++ cs) b where
  reads rest := by
    rw [WireReader.bind, List.append_assoc, hr.reads]
    exact hf.reads rest
  starves {front back} h hback := by
    -- the front stops inside the first value, or behind it and inside the second one
    have hcut : (∃ more, front ++ more = bs ∧ more ≠ []) ∨
        ∃ start, front = bs ++ start ∧ start ++ back = cs := by
      rcases List.append_eq_append_iff.mp h with ⟨more, hbs, hmore⟩ | ⟨start, hfront, hcs⟩
      · by_cases hnil : more = []
        · rw [hnil, List.append_nil] at hbs
          rw [hnil, List.nil_append] at hmore
          exact Or.inr ⟨[], by rw [List.append_nil, hbs], hmore⟩
        · exact Or.inl ⟨more, hbs.symm, hnil⟩
      · exact Or.inr ⟨start, hfront, hcs.symm⟩
    rcases hcut with ⟨more, hbs, hmore⟩ | ⟨start, rfl, hcs⟩
    · rw [WireReader.bind, hr.starves hbs hmore]
    · rw [WireReader.bind, hr.reads]
      exact hf.starves hcs hback

/-- A step behind a value that takes no further bytes. -/
theorem finish {α β : Type} {r : WireReader α} {f : α → WireReader β} {bs : Bytes} {a : α} {b : β}
    (hr : Spells r bs a) (hf : Spells (f a) [] b) : Spells (r.bind f) bs b := by
  have hall := hr.bind hf
  rwa [List.append_nil] at hall

theorem map {α β : Type} {r : WireReader α} {bs : Bytes} {a : α} (f : α → β) (hr : Spells r bs a) :
    Spells (r.bind fun x => WireReader.pure (f x)) bs (f a) :=
  hr.finish (Spells.pure (f a))

theorem ofConfig {α : Type} {a : α} {check : Except ConfigError α} (h : check = .ok a) :
    Spells (WireReader.ofConfig check) [] a := by
  rw [h]
  exact Spells.pure a

/-! ### Numbers and texts -/

theorem byte (b : UInt8) : Spells WireReader.byte [b] b where
  reads _ := rfl
  starves {front back} h hback := by
    cases front with
    | nil => rfl
    | cons c front =>
      rw [List.cons_append, List.cons_eq_cons, List.append_eq_nil_iff] at h
      exact absurd h.2.2 hback

theorem bytes : ∀ bs : Bytes, Spells (WireReader.bytes bs.length) bs bs
  | [] => Spells.pure []
  | b :: bs => by
    have hbytes : WireReader.bytes (bs.length + 1) =
        WireReader.byte.bind fun c => (WireReader.bytes bs.length).bind fun cs =>
          WireReader.pure (c :: cs) := by
      funext input
      cases input with
      | nil => rfl
      | cons c rest =>
        simp only [WireReader.bytes, WireReader.bind, WireReader.byte]
        cases WireReader.bytes bs.length rest with
        | error e => rfl
        | ok result => rfl
    rw [List.length_cons, hbytes]
    exact (Spells.byte b).bind ((bytes bs).map fun cs => b :: cs)

/-- A number is read off as many bytes as it takes. -/
theorem number : ∀ (width : Nat) {n : Nat}, n < 256 ^ width →
    Spells (WireReader.number width) (Wire.number width n) n
  | 0, n, h => by
    rw [Nat.pow_zero, Nat.lt_one_iff] at h
    rw [h]
    exact Spells.pure 0
  | width + 1, n, h => by
    have hdiv : n / 256 < 256 ^ width := by
      rw [Nat.pow_succ] at h
      exact Nat.div_lt_of_lt_mul (by rwa [Nat.mul_comm] at h)
    have hlow : (UInt8.ofNat (n % 256)).toNat = n % 256 :=
      UInt8.toNat_ofNat_of_lt (Nat.mod_lt n (by decide))
    have hvalue : (UInt8.ofNat (n % 256)).toNat + 256 * (n / 256) = n := by
      rw [hlow, Nat.mod_add_div]
    have hhigh := (number width hdiv).map fun high => (UInt8.ofNat (n % 256)).toNat + 256 * high
    rw [hvalue] at hhigh
    exact Spells.bind (f := fun b => (WireReader.number width).bind fun high =>
      WireReader.pure (b.toNat + 256 * high)) (Spells.byte _) hhigh

theorem textOf (s : String) : Spells (WireReader.textOf (Wire.utf8 s)) [] s := by
  have hutf8 : String.fromUTF8? ⟨(Wire.utf8 s).toArray⟩ = some s := by
    unfold Wire.utf8
    rw [String.toUTF8_eq_toByteArray, Array.toArray_toList, String.fromUTF8?,
      dif_pos s.isValidUTF8]
    rfl
  unfold WireReader.textOf
  rw [hutf8]
  exact Spells.pure s

theorem text {s : String} (h : (Wire.utf8 s).length < 2 ^ 64) :
    Spells WireReader.text (Wire.text s) s := by
  exact Spells.bind (f := fun n => (WireReader.bytes n).bind WireReader.textOf)
    (Spells.number 8 h) ((bytes (Wire.utf8 s)).finish (textOf s))

theorem flag (b : Bool) : Spells WireReader.flag (Wire.flag b) b := by
  cases b with
  | false => exact (Spells.byte 0).bind (Spells.pure false)
  | true => exact (Spells.byte 1).bind (Spells.pure true)

/-! ### Lists and choices -/

theorem many {α β : Type} {r : WireReader β} {write : α → Bytes} {xs : List α} {ys : List β}
    (h : List.Forall₂ (fun x y => Spells r (write x) y) xs ys) :
    Spells (WireReader.many r xs.length) (xs.flatMap write) ys := by
  induction h with
  | nil => exact Spells.pure []
  | cons hxy _ ih => exact hxy.bind (ih.map fun more => _ :: more)

/-- The values that are read may be others than those that are written. -/
theorem list {α β : Type} {r : WireReader β} {write : α → Bytes} {xs : List α} {ys : List β}
    (hlen : xs.length < 2 ^ 64) (h : List.Forall₂ (fun x y => Spells r (write x) y) xs ys) :
    Spells (WireReader.list r) (Wire.list write xs) ys :=
  (Spells.number 8 hlen).bind (many h)

theorem choice {α : Type} {cases : List (WireReader α)} {r : WireReader α} {n : Nat} {bs : Bytes}
    {a : α} (hn : n < 2 ^ 32) (hcase : cases[n]? = some r) (h : Spells r bs a) :
    Spells (WireReader.choice cases) (Wire.case n ++ bs) a := by
  refine (Spells.number 4 hn).bind ?_
  rw [hcase]
  exact h

/-- A case without fields is its number. -/
theorem constant {α : Type} {cases : List (WireReader α)} {n : Nat} {a : α} (hn : n < 2 ^ 32)
    (hcase : cases[n]? = some (WireReader.pure a)) :
    Spells (WireReader.choice cases) (Wire.case n) a := by
  have hchoice := choice hn hcase (Spells.pure a)
  rwa [List.append_nil] at hchoice

/-- Bytes that begin with the spelling of a value are decoded as this value. -/
theorem decode {α : Type} [WireForm α] {bs : Bytes} {a : α} (h : Spells WireForm.read bs a)
    (rest : Bytes) : WireForm.decode (bs ++ rest) = .ok a := by
  rw [WireForm.decode, h.reads]

end Spells

/-! ### Lawful forms -/

/-- A form that is read as the value it was written of, if the lengths in the value fit into the
eight bytes that they are written in. -/
class LawfulForm (α : Type) [WireForm α] where
  Fits : α → Prop
  spells {a : α} : Fits a → Spells WireForm.read (WireForm.write a) a

namespace LawfulForm

instance : LawfulForm String where
  Fits s := (Wire.utf8 s).length < 2 ^ 64
  spells := Spells.text

instance : LawfulForm Bool where
  Fits _ := True
  spells _ := Spells.flag _

instance {α : Type} [WireForm α] [LawfulForm α] : LawfulForm (List α) where
  Fits xs := xs.length < 2 ^ 64 ∧ ∀ x ∈ xs, Fits x
  spells h := Spells.list h.1 (List.forall₂_same.mpr fun x hx => spells (h.2 x hx))

instance : LawfulForm ChunkKind where
  Fits _ := True
  spells {k} _ := Spells.constant (by cases k <;> decide) (by cases k <;> rfl)

instance : LawfulForm RuleLevel where
  Fits _ := True
  spells {l} _ := Spells.constant (by cases l <;> decide) (by cases l <;> rfl)

instance : LawfulForm RuleForm where
  Fits f := Fits f.name ∧ Fits f.pattern ∧ Fits f.output ∧ Fits f.within
  spells {f} h := by
    obtain ⟨hname, hpattern, houtput, hwithin⟩ := h
    have hbytes : WireForm.write f = WireForm.write f.name ++ (WireForm.write f.level ++
        (WireForm.write f.pattern ++ (WireForm.write f.output ++
          (WireForm.write f.within ++ WireForm.write f.singleChunk)))) := by
      simp only [← List.append_assoc]
      rfl
    rw [hbytes]
    refine (spells hname).bind ?_
    refine (spells (a := f.level) trivial).bind ?_
    refine (spells hpattern).bind ?_
    refine (spells houtput).bind ?_
    refine (spells hwithin).bind ?_
    exact (spells (a := f.singleChunk) trivial).map _

end LawfulForm

end ShallowTransfer
