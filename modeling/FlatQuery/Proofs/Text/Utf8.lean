/-
Text written as UTF-8 and read back. The bytes of a character take the
machine from between characters to between characters and yield that
character (`run_encodeChar`), so reading undoes writing
(`decode_encode`). A byte below 0x80 stands for itself and is part of no
other character (`mem_encode`), which is why text can be searched for
ASCII byte by byte.
-/
import FlatQuery.Text.Utf8

namespace FlatQuery.Text.Utf8

/-- The bytes of a text. -/
def encode (cs : List Char) : List UInt8 := cs.flatMap String.utf8EncodeChar

/-- They are the bytes that a string is made of. -/
theorem encode_toList (text : String) : encode text.toList = text.toUTF8.data.toList := by
  have hbytes : text.toUTF8 = (encode text.toList).toByteArray := String.utf8Encode_toList.symm
  rw [hbytes, List.data_toByteArray]

theorem encode_cons (c : Char) (cs : List Char) :
    encode (c :: cs) = String.utf8EncodeChar c ++ encode cs := rfl

theorem encode_append (cs cs' : List Char) : encode (cs ++ cs') = encode cs ++ encode cs' :=
  List.flatMap_append

-- ========================================================== characters

/-- The first byte of a character. -/
theorem run_lead {b : Nat} (hb : b < 256) (rest : List UInt8) :
    run .start (UInt8.ofNat b :: rest) = (lead b).1 ++ run (lead b).2 rest := by
  rw [run, UInt8.toNat_ofNat_of_lt' hb, step]

/-- A byte that a character goes on with. -/
theorem run_inside {owed low high value b : Nat} (hlow : low ≤ b) (hhigh : b ≤ high)
    (hb : b < 256) (rest : List UInt8) :
    run (.inside owed low high value) (UInt8.ofNat b :: rest)
      = if owed ≤ 1 then some (Char.ofNat (0x40 * value + (b - 0x80))) :: run .start rest
        else run (.inside (owed - 1) 0x80 0xBF (0x40 * value + (b - 0x80))) rest := by
  rw [run, UInt8.toNat_ofNat_of_lt' hb, step, decide_eq_true hlow, decide_eq_true hhigh]
  by_cases howed : owed ≤ 1
  · simp [howed]
  · simp [howed]

/-- The bytes of a character yield it. The cases are the lengths that a
character can have. -/
theorem run_encodeChar (c : Char) (rest : List UInt8) :
    run .start (String.utf8EncodeChar c ++ rest) = some c :: run .start rest := by
  have hvalue : Char.ofNat c.val.toNat = c := Char.ofNat_toNat c
  have hvalid : c.val.toNat < 0xD800 ∨ 0xDFFF < c.val.toNat ∧ c.val.toNat < 0x110000 := c.valid
  unfold String.utf8EncodeChar
  generalize c.val.toNat = v at hvalue hvalid
  dsimp only
  by_cases hone : v ≤ 0x7F
  · rw [if_pos hone, List.singleton_append, run_lead (by omega), lead, if_pos (by omega), hvalue]
    rfl
  by_cases htwo : v ≤ 0x7FF
  · have hbits : 0x40 * (v / 64 % 0x20 + 0xC0 - 0xC0) + (v % 0x40 + 0x80 - 0x80) = v := by omega
    rw [if_neg hone, if_pos htwo, List.cons_append, List.singleton_append, run_lead (by omega),
      lead, if_neg (by omega), if_neg (by omega), if_pos (by omega), List.nil_append,
      run_inside (by omega) (by omega) (by omega), if_pos (Nat.le_refl 1), hbits, hvalue]
  by_cases hthree : v ≤ 0xFFFF
  · have hbits : 0x40 * (0x40 * (v / 4096 % 0x10 + 0xE0 - 0xE0) + (v / 64 % 0x40 + 0x80 - 0x80))
        + (v % 0x40 + 0x80 - 0x80) = v := by omega
    rw [if_neg hone, if_neg htwo, if_pos hthree, List.cons_append, List.cons_append,
      List.singleton_append, run_lead (by omega), lead, if_neg (by omega), if_neg (by omega),
      if_neg (by omega), if_pos (by omega), List.nil_append]
    -- E0 and ED are followed by a part of the bytes only
    rw [run_inside (by split <;> omega) (by split <;> omega) (by omega), if_neg (by omega),
      run_inside (by omega) (by omega) (by omega), if_pos (Nat.le_refl 1), hbits, hvalue]
  · have hbits : 0x40 * (0x40 * (0x40 * (v / 262144 % 0x08 + 0xF0 - 0xF0)
          + (v / 4096 % 0x40 + 0x80 - 0x80)) + (v / 64 % 0x40 + 0x80 - 0x80))
        + (v % 0x40 + 0x80 - 0x80) = v := by omega
    rw [if_neg hone, if_neg htwo, if_neg hthree, List.cons_append, List.cons_append,
      List.cons_append, List.singleton_append, run_lead (by omega), lead, if_neg (by omega),
      if_neg (by omega), if_neg (by omega), if_neg (by omega), if_pos (by omega),
      List.nil_append]
    -- and so are F0 and F4
    rw [run_inside (by split <;> omega) (by split <;> omega) (by omega), if_neg (by omega),
      run_inside (by omega) (by omega) (by omega), if_neg (by omega),
      run_inside (by omega) (by omega) (by omega), if_pos (Nat.le_refl 1), hbits, hvalue]

/-- Bytes begin with those of one character at most. -/
theorem encodeChar_append_inj {c c' : Char} {rest rest' : List UInt8}
    (h : String.utf8EncodeChar c ++ rest = String.utf8EncodeChar c' ++ rest') : c = c' := by
  have hrun := congrArg (run .start) h
  rw [run_encodeChar, run_encodeChar] at hrun
  exact Option.some.inj (List.cons.inj hrun).1

-- =============================================================== texts

theorem run_encode (cs : List Char) : run .start (encode cs) = cs.map some := by
  induction cs with
  | nil => rfl
  | cons c cs ih => rw [encode_cons, run_encodeChar, ih, List.map_cons]

/-- Reading what was written gives the text back. -/
theorem decode_encode (cs : List Char) : decode (encode cs) = cs := by
  rw [decode, run_encode, List.map_map]
  exact List.map_id'' (fun _ => rfl) cs

/-- A character of ASCII is one byte. -/
theorem encodeChar_of_ascii {c : Char} (h : c.toNat < 0x80) :
    String.utf8EncodeChar c = [UInt8.ofNat c.toNat] := by
  have hone : c.val.toNat ≤ 0x7F := Nat.le_of_lt_succ h
  unfold String.utf8EncodeChar
  exact if_pos hone

/-- All bytes of another character are beyond ASCII. -/
theorem le_of_mem_encodeChar {c : Char} (h : ¬ c.toNat < 0x80) {b : UInt8}
    (hb : b ∈ String.utf8EncodeChar c) : 0x80 ≤ b.toNat := by
  have hone : ¬ c.val.toNat ≤ 0x7F := fun hle => h (Nat.lt_succ_of_le hle)
  unfold String.utf8EncodeChar at hb
  dsimp only at hb
  rw [if_neg hone] at hb
  have hbyte : ∀ {n : Nat}, 0x80 ≤ n → n < 256 → 0x80 ≤ (UInt8.ofNat n).toNat := by
    intro n hlow hn
    rw [UInt8.toNat_ofNat_of_lt' hn]
    exact hlow
  split at hb
  · simp only [List.mem_cons, List.not_mem_nil, or_false] at hb
    rcases hb with rfl | rfl
    · exact hbyte (by omega) (by omega)
    · exact hbyte (by omega) (by omega)
  · split at hb
    · simp only [List.mem_cons, List.not_mem_nil, or_false] at hb
      rcases hb with rfl | rfl | rfl
      · exact hbyte (by omega) (by omega)
      · exact hbyte (by omega) (by omega)
      · exact hbyte (by omega) (by omega)
    · simp only [List.mem_cons, List.not_mem_nil, or_false] at hb
      rcases hb with rfl | rfl | rfl | rfl
      · exact hbyte (by omega) (by omega)
      · exact hbyte (by omega) (by omega)
      · exact hbyte (by omega) (by omega)
      · exact hbyte (by omega) (by omega)

/-- The byte of an ASCII character stands in a text only for that
character. -/
theorem mem_encode {c : Char} (h : c.toNat < 0x80) {cs : List Char} :
    UInt8.ofNat c.toNat ∈ encode cs ↔ c ∈ cs := by
  have hbyte : ∀ {c : Char}, c.toNat < 0x80 → (UInt8.ofNat c.toNat).toNat = c.toNat :=
    fun hc => UInt8.toNat_ofNat_of_lt' (Nat.lt_trans hc (by decide))
  rw [encode, List.mem_flatMap]
  constructor
  · rintro ⟨c', hmem, hb⟩
    by_cases hascii : c'.toNat < 0x80
    · rw [encodeChar_of_ascii hascii, List.mem_singleton] at hb
      have hsame := congrArg UInt8.toNat hb
      rw [hbyte h, hbyte hascii] at hsame
      rwa [Char.toNat_inj.1 hsame]
    · have hle := le_of_mem_encodeChar hascii hb
      rw [hbyte h] at hle
      exact absurd h (Nat.not_lt.2 hle)
  · intro hmem
    exact ⟨c, hmem, by rw [encodeChar_of_ascii h]; exact List.mem_singleton_self _⟩

end FlatQuery.Text.Utf8
