import SqlMapper.Model.Entity
import SqlMapper.Proofs.Column.WholeNumber

/-!
# Generated keys read back

A key that the server generates is a number of 64 bits without a sign. A saved instance keeps it as a whole
number with a sign, or as text where it is too great for one. When the row is read, the key comes back as
digits, and is taken for a number or for text by another rule. Both rules agree on every key.

* `coerce_toString`: the digits of an unsigned number are read as `Value.ofUnsigned` has it.
* `coerce_literal_integer`: a signed number is read back from its literal.
* `save_eq`, `withKey_of_open`, `get?_withKey`: what a saved instance keeps.
* `savedKey_readsBack`: the key that was kept equals the key that is read.
-/

namespace SqlMapper

variable {code : UInt8} {z : ℤ}

/-! ## Whole numbers in a column -/

theorem trimmed_signed (z : ℤ) : Text.Trimmed (Number.signed z) := by
  have hdecimal : ∀ n, Text.Trimmed (Number.decimal n) := fun n =>
    Text.trimmed_digits (Number.decimal_ne_nil n) fun _ hc => Number.isDigit_of_mem_decimal hc
  cases z with
  | ofNat n => exact hdecimal n
  | negSucc n => exact (hdecimal (n + 1)).cons (by decide)

theorem coerce_signed (hcode : conversion? code = some .integer) (z : ℤ) :
    coerce (some (Bytes.encode (String.ofList (Number.signed z)))) code =
      readInteger (Number.signed z) :=
  coerce_of_trimmed hcode (trimmed_signed z)

theorem readInteger_signed_of_fits (h : -2 ^ 63 ≤ z ∧ z < 2 ^ 63) :
    readInteger (Number.signed z) = .ok (.integer (Int64.ofInt z)) := by
  rw [← Number.Numeral.truncated_ofInt z] at h
  obtain ⟨i, hread, hi⟩ := readInteger_text_of_fits _ h
  rw [Number.Numeral.text_ofInt] at hread
  rw [Number.Numeral.truncated_ofInt] at hi
  rw [hread, ← hi, Int64.ofInt_toInt]

theorem readInteger_signed_of_not_fits (h : ¬ (-2 ^ 63 ≤ z ∧ z < 2 ^ 63)) :
    readInteger (Number.signed z) = .ok (.text (String.ofList (Number.signed z))) := by
  rw [← Number.Numeral.truncated_ofInt z] at h
  have hread := readInteger_text_of_not_fits _ h
  rwa [Number.Numeral.text_ofInt, Number.Numeral.front_ofInt] at hread

/-- The digits of an unsigned number are read as the value that stands for it: a whole number or text, on
    the same side of the limit. -/
theorem coerce_toString (hcode : conversion? code = some .integer) (n : UInt64) :
    coerce (some (Bytes.encode (toString n))) code = .ok (.ofUnsigned n) := by
  have htext : toString n = String.ofList (Number.signed n.toNat) := Nat.toString_eq_ofList_toDigits
  rw [htext, coerce_signed hcode]
  unfold Value.ofUnsigned
  by_cases h : n.toNat < 9223372036854775808
  · have hfits : -2 ^ 63 ≤ (n.toNat : ℤ) ∧ (n.toNat : ℤ) < 2 ^ 63 := by omega
    rw [if_pos h, readInteger_signed_of_fits hfits]
    rfl
  · have hfits : ¬ (-2 ^ 63 ≤ (n.toNat : ℤ) ∧ (n.toNat : ℤ) < 2 ^ 63) := by omega
    rw [if_neg h, readInteger_signed_of_not_fits hfits]
    rfl

theorem coerce_literal_integer (hcode : conversion? code = some .integer) (n : Int64) :
    coerce (some (Bytes.encode (Dialect.mysql.literal (.integer n)))) code = .ok (.integer n) := by
  have hliteral : Dialect.mysql.literal (.integer n) = String.ofList (Number.signed n.toInt) := rfl
  rw [hliteral, coerce_signed hcode, readInteger_signed_of_fits ⟨n.le_toInt, n.toInt_lt⟩,
    Int64.ofInt_toInt]

/-! ## Saved instances -/

theorem Value.valueEq_ofUnsigned (n : UInt64) : (ofUnsigned n).valueEq (ofUnsigned n) = true := by
  unfold ofUnsigned
  split
  all_goals simp [valueEq]

namespace Instance

variable {m : Type → Type} [Monad m] [MonadExceptOf Stop m] {i : Instance} {key : KeyColumn}

/-- An instance that was not saved is inserted, and keeps the key of the answer. -/
theorem save_eq (x : Executor m) (h : i.persisted = false) :
    i.save x = x.execute (Adapter.dialect.insertSql i.entity.table i.values) >>= fun outcome =>
      pure ⟨i.entity, withKey i.entity i.values outcome.insertId?, true⟩ :=
  if_neg (by simp [h])

/-- A single key column that is absent or null takes the generated key. -/
theorem withKey_of_open (hkey : i.entity.primaryKey = [key])
    (hopen : ∀ v ∈ i.values.get? key.name, v = .null) (id : UInt64) :
    withKey i.entity i.values (some id) = i.values.insert key.name (.ofUnsigned id) := by
  have hnull : ((i.values.get? key.name).map Value.isNull).getD true = true := by
    cases hvalue : i.values.get? key.name with
    | none => rfl
    | some v =>
      rw [hopen v hvalue]
      rfl
  unfold withKey
  rw [hkey]
  exact if_pos hnull

theorem get?_withKey (hkey : i.entity.primaryKey = [key])
    (hopen : ∀ v ∈ i.values.get? key.name, v = .null) (id : UInt64) :
    (withKey i.entity i.values (some id)).get? key.name = some (.ofUnsigned id) := by
  rw [withKey_of_open hkey hopen, Record.get?_insert, if_pos rfl]

end Instance

/-- **Keys read back.** In a column of any whole-number type, every unsigned number of 64 bits is read from
    its digits as the value that stands for it, and every signed one from its literal. So whatever executor
    inserts an instance whose single key was open, the key that the server generates for it is kept on the
    saved instance as a value equal to the one that its column delivers later. -/
theorem savedKey_readsBack (hcode : conversion? code = some .integer) :
    (∀ n : UInt64, coerce (some (Bytes.encode (toString n))) code = .ok (.ofUnsigned n)) ∧
    (∀ n : Int64,
      coerce (some (Bytes.encode (Dialect.mysql.literal (.integer n)))) code = .ok (.integer n)) ∧
    ∀ {m : Type → Type} [Monad m] [MonadExceptOf Stop m] (x : Executor m) (i : Instance)
      (key : KeyColumn), i.persisted = false → i.entity.primaryKey = [key] →
      (∀ v ∈ i.values.get? key.name, v = .null) →
      ∃ saved : Outcome → Instance,
        i.save x = (x.execute (Adapter.dialect.insertSql i.entity.table i.values) >>= fun outcome =>
          pure (saved outcome)) ∧
        ∀ outcome id, outcome.insertId? = some id → ∃ kept delivered,
          (saved outcome).values.get? key.name = some kept ∧
          coerce (some (Bytes.encode (toString id))) code = .ok delivered ∧
          kept.valueEq delivered = true := by
  refine ⟨coerce_toString hcode, coerce_literal_integer hcode, ?_⟩
  intro m _ _ x i key hpersisted hkey hopen
  refine ⟨_, Instance.save_eq x hpersisted, ?_⟩
  intro outcome id hid
  refine ⟨.ofUnsigned id, .ofUnsigned id, ?_, coerce_toString hcode id, Value.valueEq_ofUnsigned id⟩
  rw [hid]
  exact Instance.get?_withKey hkey hopen id

/-- An executor that answers every insertion alike. -/
def Executor.answering (outcome : Outcome) : Executor (Except Stop) :=
  ⟨fun _ => .ok outcome, fun _ => .ok []⟩

/-- The greatest key, which is kept as text. -/
theorem savedKey_readsBack_greatest :
    ∃ (saved : Instance) (kept : Value),
      (Instance.fresh (.ofTable "Post" "posts") .empty).save
        (.answering ⟨1, some 18446744073709551615⟩) = .ok saved ∧
      saved.values.get? "id" = some kept ∧
      coerce (some (Bytes.encode "18446744073709551615")) FieldType.longLong.code =
        .ok (.text "18446744073709551615") ∧
      kept.valueEq (.text "18446744073709551615") = true := by
  have hopen : ∀ v ∈ Record.empty.get? "id", v = .null := by
    intro v hv
    cases hv
  have hcode : conversion? FieldType.longLong.code = some .integer := rfl
  obtain ⟨hread, -, hkept⟩ := savedKey_readsBack hcode
  obtain ⟨saved, hsave, hequal⟩ :=
    hkept (.answering ⟨1, some 18446744073709551615⟩) (.fresh (.ofTable "Post" "posts") .empty)
      ⟨"id", "integer"⟩ rfl rfl hopen
  obtain ⟨kept, delivered, hget, hdelivered, heq⟩ :=
    hequal ⟨1, some 18446744073709551615⟩ 18446744073709551615 rfl
  have htext : Value.ofUnsigned 18446744073709551615 = .text "18446744073709551615" := by decide
  rw [hread, htext] at hdelivered
  cases hdelivered
  exact ⟨saved _, kept, hsave, hget, (hread 18446744073709551615).trans (by rw [htext]), heq⟩

end SqlMapper
