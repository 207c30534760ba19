import SqlMapper.Proofs.Text.Split
import SqlMapper.Proofs.Url.Percent
import SqlMapper.Url.Form

/-!
# Query pairs read back

Pairs that are written as a query are read back as they were: with any characters in their names and
values, with empty names and values, in the same order.

* `readPart_writePart`: a name or a value.
* `read_write`: all pairs of a query.
* `free_write`: a written query needs no encoding any more.
-/

namespace SqlMapper.Form

open Percent (Free Spares)

/-! ## Characters -/

/-- What does not stand in a written name or value: what is encoded in a query, and what separates names
    and values. -/
def isSeparator (c : Char) : Bool := Percent.inQuery c || c == '&' || c == '='

theorem spares_isSeparator : Spares isSeparator := by decide

/-- A byte that stands for itself is the character with the same number, which means nothing else. -/
theorem plain_character : ∀ n < 0x80, isPlain (UInt8.ofNat n) = true →
    isSeparator (Char.ofNat n) = false ∧ Char.ofNat n ≠ '+' ∧ Char.ofNat n ≠ '%' ∧
      (Char.ofNat n).toNat = n := by
  decide

theorem lt_of_isPlain {b : UInt8} (h : isPlain b = true) : b.toNat < 0x80 := by
  simp only [isPlain, Bool.and_eq_true, decide_eq_true_eq] at h
  exact h.1

/-- What stands for a byte: itself, a plus sign, or its digits. -/
theorem writeByte_cases (b : UInt8) :
    (∃ c : Char, writeByte b = [c] ∧ isSeparator c = false ∧ c ≠ '+' ∧ c ≠ '%' ∧ c.toNat < 0x80 ∧
        UInt8.ofNat c.toNat = b) ∨
      (writeByte b = ['+'] ∧ b = 0x20) ∨ writeByte b = Percent.encodeByte b := by
  by_cases hplain : isPlain b = true
  · have hlt := lt_of_isPlain hplain
    obtain ⟨hsep, hplus, hpercent, htoNat⟩ :=
      plain_character b.toNat hlt (by rwa [UInt8.ofNat_toNat])
    refine .inl ⟨Char.ofNat b.toNat, if_pos hplain, hsep, hplus, hpercent, ?_, ?_⟩
    · rwa [htoNat]
    · rw [htoNat, UInt8.ofNat_toNat]
  · by_cases hblank : b = 0x20
    · exact .inr (.inl ⟨(if_neg hplain).trans (if_pos hblank), hblank⟩)
    · exact .inr (.inr ((if_neg hplain).trans (if_neg hblank)))

theorem free_writePart (s : String) : Free isSeparator (writePart s) := by
  intro c hc
  obtain ⟨b, -, hb⟩ := List.mem_flatMap.mp hc
  rcases writeByte_cases b with ⟨d, hd, hsep, -⟩ | ⟨hplus, -⟩ | hencoded
  · rw [hd] at hb
    rwa [List.mem_singleton.mp hb]
  · rw [hplus] at hb
    rw [List.mem_singleton.mp hb]
    decide
  · rw [hencoded] at hb
    exact spares_isSeparator.free_encodeByte b c hb

/-! ## Names and values -/

/-- A byte is found again, whatever follows. -/
theorem decode_writeByte (b : UInt8) (rest : List Char) :
    Percent.decode (Text.replaceChar '+' [' '] (writeByte b ++ rest)) =
      b :: Percent.decode (Text.replaceChar '+' [' '] rest) := by
  rw [Text.replaceChar_append]
  rcases writeByte_cases b with ⟨c, hc, -, hplus, hpercent, hascii, hbyte⟩ | ⟨hplus, rfl⟩ | hencoded
  · have same : Text.replaceChar '+' [' '] [c] = [c] :=
      Text.replaceChar_of_not_mem (fun hmem => hplus (List.mem_singleton.mp hmem).symm) _
    rw [hc, same, List.singleton_append, Percent.decode_cons hpercent hascii, hbyte]
  · rw [hplus]
    exact Percent.decode_cons (by decide) (by decide) _
  · have spares : Spares (· == '+') := by decide
    have noPlus : '+' ∉ Percent.encodeByte b := (spares.free_encodeByte b).not_mem rfl
    rw [hencoded, Text.replaceChar_of_not_mem noPlus, Percent.decode_encodeByte]

theorem readPart_writePart (s : String) : readPart (writePart s) = s := by
  have bytes : ∀ b : Bytes,
      Percent.decode (Text.replaceChar '+' [' '] (b.flatMap writeByte)) = b := by
    intro b
    induction b with
    | nil => exact Percent.decode.eq_def []
    | cons x b ih => rw [List.flatMap_cons, decode_writeByte, ih]
  rw [readPart, writePart, bytes, Bytes.decodeLossy_encode]

/-! ## Pairs -/

theorem readPair_writePair (p : String × String) : readPair (writePair p) = p := by
  have noEquals : '=' ∉ writePart p.1 := (free_writePart p.1).not_mem (by decide)
  rw [readPair, writePair, Text.splitAtFirst_append noEquals]
  show (readPart (writePart p.1), readPart (writePart p.2)) = p
  rw [readPart_writePart, readPart_writePart]

theorem ampersand_not_mem_writePair (p : String × String) : '&' ∉ writePair p := by
  intro hmem
  rcases List.mem_append.mp hmem with hmem | hmem
  · exact (free_writePart p.1).not_mem (by decide) hmem
  · rcases List.mem_cons.mp hmem with hmem | hmem
    · exact absurd hmem (by decide)
    · exact (free_writePart p.2).not_mem (by decide) hmem

/-- **Pairs are read back as they were written.** -/
theorem read_write (pairs : List (String × String)) : read (write pairs) = pairs := by
  by_cases hnil : pairs = []
  · subst hnil
    rfl
  have hne : pairs.map writePair ≠ [] := fun h => hnil (List.map_eq_nil_iff.mp h)
  have noAmpersand : ∀ part ∈ pairs.map writePair, '&' ∉ part := by
    intro part hpart
    obtain ⟨p, -, rfl⟩ := List.mem_map.mp hpart
    exact ampersand_not_mem_writePair p
  have nonempty : (pairs.map writePair).filter (· ≠ []) = pairs.map writePair := by
    rw [List.filter_eq_self]
    intro part hpart
    obtain ⟨p, -, rfl⟩ := List.mem_map.mp hpart
    simp [writePair]
  rw [read, write, Text.splitOn_joinWith hne noAmpersand, nonempty, List.map_map]
  exact List.map_id'' readPair_writePair pairs

/-- A written query needs no encoding any more. -/
theorem free_write (pairs : List (String × String)) : Free Percent.inQuery (write pairs) := by
  have free : ∀ s, Free Percent.inQuery (writePart s) := fun s =>
    (free_writePart s).mono fun c hc => by simp [isSeparator, hc]
  intro c hc
  rcases Text.mem_joinWith hc with rfl | ⟨part, hpart, hc⟩
  · decide
  · obtain ⟨p, -, rfl⟩ := List.mem_map.mp hpart
    have pair : Free Percent.inQuery (writePair p) :=
      Percent.free_append.mpr ⟨free p.1, Percent.free_cons.mpr ⟨by decide, free p.2⟩⟩
    exact pair c hc

end SqlMapper.Form
