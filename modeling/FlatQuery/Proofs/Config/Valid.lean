/-
What validation makes sure of. A configuration of files is accepted
exactly if its separator and its quote are two characters of ASCII, the
separator ends no line, and its label names an encoding in which they
can be found (`DataConfig.validate_eq_ok`). So nothing is lost where the
options keep one byte of each.
-/
import FlatQuery.Config.Data
import FlatQuery.Proofs.Result

namespace FlatQuery

open Result

namespace DataConfig

variable {c : DataConfig}

/-- What is asked of an accepted configuration. -/
structure Valid (c : DataConfig) : Prop where
  separator : c.separator.toNat < 0x80
  quote : c.quote.toNat < 0x80
  distinct : c.separator ≠ c.quote
  newline : c.separator ≠ '\n'
  carriageReturn : c.separator ≠ '\r'
  encoding : ∃ e, c.fileEncoding = .ok e

/-- A character of ASCII, as a bound. -/
theorem isAscii_iff {x : Char} : isAscii x = true ↔ x.toNat < 0x80 := decide_eq_true_iff

/-- Validation accepts what it should and nothing else. -/
theorem validate_eq_ok : c.validate = .ok () ↔ c.Valid := by
  unfold validate
  constructor
  · intro h
    -- one guard after the other, each of which has been passed
    split at h
    · cases h
    next hascii =>
    split at h
    · cases h
    next hdistinct =>
    split at h
    · cases h
    next hends =>
    simp only [Bool.or_eq_true, Bool.not_eq_true', Bool.not_eq_false, not_or, isAscii_iff,
      decide_eq_true_eq] at hascii hends
    obtain ⟨e, he, -⟩ := map_eq_ok.1 h
    exact ⟨hascii.1, hascii.2, hdistinct, hends.1, hends.2, e, he⟩
  · rintro ⟨hseparator, hquote, hdistinct, hnewline, hreturn, e, he⟩
    rw [isAscii_iff.2 hseparator, isAscii_iff.2 hquote, decide_eq_false hnewline,
      decide_eq_false hreturn, he]
    simp only [Bool.not_true, Bool.or_self, Bool.false_eq_true, if_false, if_neg hdistinct]
    rfl

/-- The encoding of an accepted configuration is the one its label names,
and separators can be found in it. -/
theorem fileEncoding_eq_ok {e : Encoding} :
    c.fileEncoding = .ok e
      ↔ Encoding.ofLabel? c.encoding = some e ∧ e.isAsciiCompatible = true := by
  unfold fileEncoding
  cases Encoding.ofLabel? c.encoding with
  | none => exact ⟨nofun, fun h => nomatch h.1⟩
  | some e' =>
      dsimp only
      constructor
      · intro h
        split at h
        · next hcompatible =>
          cases h
          exact ⟨rfl, hcompatible⟩
        · cases h
      · rintro ⟨heq, hcompatible⟩
        cases heq
        exact if_pos hcompatible

/-- Options keep the encoding that was accepted. -/
theorem encoding_options {e : Encoding} (h : c.fileEncoding = .ok e)
    (decoders : Encoding.Decoders) : (c.options decoders).encoding = e := by
  unfold options
  rw [h]

end DataConfig

end FlatQuery
