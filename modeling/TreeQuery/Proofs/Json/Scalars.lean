import Mathlib.Control.Basic
import TreeQuery.Json.Reader
import TreeQuery.Json.Writer
import TreeQuery.Proofs.Text.Numeral
import TreeQuery.Proofs.Text.Scan

set_option autoImplicit false

/-! # Strings and numbers of JSON can be read back

A string is written character by character, and each character is read back from its escape
(`Reader.string_quote`). An integer is written with its sign and its digits; it is read back as long
as it fits 64 bits and what follows it does not go on with the number (`Number.read_integer`). -/

namespace TreeQuery.Json

namespace Reader

/-! ## Strings -/

/-- What is read of a character as it is written in a string. -/
def written (c : Char) : Piece :=
  if c.toNat < 0x20 ∧ c ∉ ['\x08', '\x0c', '\n', '\r', '\t'] then .unit c.toNat else .char c

variable {c e : Char} {code : Nat}

theorem pieces_short (hu : e ≠ 'u') (he : shortEscape? e = some c) (rest : List Char) :
    pieces ('\\' :: e :: rest) = (pieces rest).map fun (ps, rest) => (.char c :: ps, rest) := by
  rw [pieces, he]
  · cases pieces rest <;> rfl
  · rintro _ _ _ _ _ rfl
    exact absurd rfl hu

theorem hexDigit?_digitChar : ∀ d < 16, hexDigit? (Nat.digitChar d) = some d := by decide

/-- A control character without a short escape is given by its number. -/
theorem pieces_control (hcontrol : c.toNat < 0x20) (rest : List Char) :
    pieces ('\\' :: 'u' :: '0' :: '0' :: Nat.digitChar (c.toNat / 16) ::
      Nat.digitChar (c.toNat % 16) :: rest) =
      (pieces rest).map fun (ps, rest) => (.unit c.toNat :: ps, rest) := by
  have hzero : hexDigit? '0' = some 0 := rfl
  have hhigh := hexDigit?_digitChar (c.toNat / 16) (by omega)
  have hlow := hexDigit?_digitChar (c.toNat % 16) (by omega)
  have hcode : c.toNat / 16 * 16 + c.toNat % 16 = c.toNat := by omega
  rw [pieces, hzero, hhigh, hlow]
  cases pieces rest with
  | none => rfl
  | some p => simp [hcode]

theorem pieces_plain (hquote : c ≠ '"') (hslash : c ≠ '\\') (hcontrol : ¬ c.toNat < 0x20)
    (rest : List Char) :
    pieces (c :: rest) = (pieces rest).map fun (ps, rest) => (.char c :: ps, rest) := by
  rw [pieces]
  · rw [if_neg (by simp [hslash, hcontrol])]
    cases pieces rest <;> rfl
  · exact hquote
  · exact fun _ _ _ _ _ heq => absurd heq hslash
  · exact fun _ _ heq => absurd heq hslash

/-- Each character is read back from its escape. -/
theorem pieces_escapeChar (c : Char) (rest : List Char) :
    pieces (escapeChar c ++ rest) =
      (pieces rest).map fun (ps, rest) => (written c :: ps, rest) := by
  have hshort {e : Char} (hu : e ≠ 'u') (he : shortEscape? e = some c) (hc : written c = .char c) :
      pieces (['\\', e] ++ rest) = (pieces rest).map fun (ps, rest) => (written c :: ps, rest) := by
    rw [hc]
    exact pieces_short hu he rest
  unfold escapeChar
  -- The quote, the backslash and five control characters have short escapes.
  iterate 7
    split
    · next h =>
      subst h
      exact hshort (by decide) rfl rfl
  split
  · next hcontrol =>
    have hc : written c = .unit c.toNat := if_pos ⟨hcontrol, by simp [*]⟩
    rw [hc]
    exact pieces_control hcontrol rest
  · next hquote hslash _ _ _ _ _ hcontrol =>
    have hc : written c = .char c := if_neg fun h => hcontrol h.1
    rw [hc]
    exact pieces_plain hquote hslash hcontrol rest

theorem pieces_quote (cs rest : List Char) :
    pieces (cs.flatMap escapeChar ++ '"' :: rest) = some (cs.map written, rest) := by
  induction cs with
  | nil => rfl
  | cons c cs ih =>
      rw [List.flatMap_cons, List.append_assoc, pieces_escapeChar, ih]
      rfl

/-- A number below those of the surrogates stands for a character by itself. -/
theorem join_unit (h : code < 0xD800) (ps : List Piece) :
    join (.unit code :: ps) = (join ps).map (Char.ofNat code :: ·) := by
  have hsurrogate (limit : Nat) : (decide (0xD800 ≤ code) && decide (code < limit)) = false := by
    simp
    omega
  have hlow : (decide (0xDC00 ≤ code) && decide (code < 0xE000)) = false := by
    simp
    omega
  cases ps with
  | nil => simp only [join, hsurrogate, Bool.false_eq_true, if_false]
  | cons p ps => cases p <;> simp only [join, hsurrogate, hlow, Bool.false_eq_true, if_false]

theorem join_written (cs : List Char) : join (cs.map written) = some cs := by
  induction cs with
  | nil => rfl
  | cons c cs ih =>
      rw [List.map_cons, written]
      split
      · next h =>
        have hcode : c.toNat < 0xD800 := by omega
        rw [join_unit hcode, ih, Char.ofNat_toNat]
        rfl
      · rw [join, ih]
        rfl

/-- **Strings can be read back.** -/
theorem string_quote (s : String) (rest : List Char) :
    string (s.toList.flatMap escapeChar ++ '"' :: rest) = some (s, rest) := by
  simp [string, pieces_quote, join_written]

end Reader

namespace Number

/-! ## Numbers -/

/-- No number goes on at the front of a text. -/
def Ends (rest : List Char) : Prop :=
  ∀ c ∈ rest.head?, c.isDigit = false ∧ c ≠ '.' ∧ c ≠ 'e' ∧ c ≠ 'E'

theorem ends_nil : Ends [] := fun _ h => absurd h (by simp)

theorem ends_cons {c : Char} (h : c.isDigit = false ∧ c ≠ '.' ∧ c ≠ 'e' ∧ c ≠ 'E')
    (cs : List Char) : Ends (c :: cs) := by
  rintro _ ⟨⟩
  exact h

theorem le_ofDigitChars (cs : List Char) (significand : Nat) :
    significand ≤ Nat.ofDigitChars 10 cs significand := by
  induction cs generalizing significand with
  | nil => exact Nat.le_refl _
  | cons c cs ih =>
      rw [Nat.ofDigitChars_cons]
      exact Nat.le_trans (by omega) (ih _)

/-- As long as all digits fit, all of them are taken. -/
theorem absorb_eq {cs : List Char} {significand : Nat}
    (h : Nat.ofDigitChars 10 cs significand < UInt64.size) :
    absorb significand cs = (Nat.ofDigitChars 10 cs significand, []) := by
  induction cs generalizing significand with
  | nil => rfl
  | cons c cs ih =>
      rw [Nat.ofDigitChars_cons, Nat.mul_comm 10] at h ⊢
      have hnext := Nat.lt_of_le_of_lt (le_ofDigitChars cs _) h
      simp only [absorb, if_pos hnext, ih h]

theorem absorb_toString {n : Nat} (h : n < UInt64.size) :
    absorb 0 (toString n).toList = (n, []) := by
  rw [absorb_eq, Text.ofDigitChars_toString]
  rwa [Text.ofDigitChars_toString]

theorem digitChar_ne_zero : ∀ d < 10, 0 < d → Nat.digitChar d ≠ '0' := by decide

/-- A number has no leading zero. -/
theorem head?_toString_ne_zero {n : Nat} (h : 0 < n) : (toString n).toList.head? ≠ some '0' := by
  rw [Nat.toString_eq_repr, Nat.toList_repr]
  induction n using Nat.strongRecOn with
  | ind n ih =>
      by_cases hn : n < 10
      · rw [Nat.toDigits_of_lt_base hn]
        simp [digitChar_ne_zero n hn h]
      · rw [Nat.toDigits_of_base_le (by decide) (Nat.not_lt.1 hn), List.head?_append,
          Option.or_of_isSome (by simp [Nat.toDigits_ne_nil])]
        exact ih (n / 10) (by omega) (by omega)

variable {rest : List Char}

theorem digits_append {ds : List Char} (hds : ∀ c ∈ ds, c.isDigit) (hrest : Ends rest) :
    digits (ds ++ rest) = (ds, rest) := by
  rw [digits, Text.takeWhile_append hds fun c hc => (hrest c hc).1,
    Text.dropWhile_append hds fun c hc => (hrest c hc).1]

/-- Behind a sign and digits without a leading zero nothing else is read. -/
theorem readNumeral_digits {d : Char} {ds : List Char} (hds : ∀ c ∈ d :: ds, c.isDigit)
    (hzero : ds = [] ∨ d ≠ '0') (hrest : Ends rest) (negative : Bool) :
    readNumeral (if negative then '-' :: (d :: ds ++ rest) else d :: ds ++ rest) =
      some (⟨negative, d :: ds, none, none⟩, rest) := by
  have hread := digits_append hds hrest
  have hsign : d ≠ '-' := by
    rintro rfl
    exact absurd (hds '-' (List.mem_cons_self ..)) (by decide)
  unfold readNumeral
  cases rest with
  | nil =>
      rw [List.append_nil] at hread ⊢
      cases negative <;> simp [hread, hsign, hzero, guard]
  | cons c rest =>
      obtain ⟨-, hpoint, hlower, hupper⟩ := hrest c rfl
      rw [List.cons_append] at hread ⊢
      cases negative <;> simp [hread, hsign, hzero, hpoint, hlower, hupper, guard]

theorem readNumeral_toString (n : Nat) (hrest : Ends rest) (negative : Bool) :
    readNumeral (if negative then '-' :: ((toString n).toList ++ rest)
      else (toString n).toList ++ rest) =
      some (⟨negative, (toString n).toList, none, none⟩, rest) := by
  have hds : ∀ c ∈ (toString n).toList, c.isDigit := fun _ hc => Text.isDigit_of_mem_toString hc
  have hzero : n = 0 ∨ (toString n).toList.head? ≠ some '0' :=
    (Nat.eq_zero_or_pos n).imp_right head?_toString_ne_zero
  obtain ⟨d, ds, hcons⟩ := List.exists_cons_of_ne_nil (Text.toString_ne_nil n)
  rw [hcons] at hds hzero ⊢
  refine readNumeral_digits hds ?_ hrest negative
  rcases hzero with rfl | hzero
  · exact .inl (List.cons.inj hcons).2.symm
  · exact .inr fun heq => hzero (congrArg some heq)

theorem ofNumeral?_positive {n : Nat} (h : n < UInt64.size) :
    ofNumeral? ⟨false, (toString n).toList, none, none⟩ = some (.integer n) := by
  rw [ofNumeral?]
  simp only [absorb_toString h]
  rfl

theorem ofNumeral?_negative {n : Nat} (hpos : 0 < n) (h : n ≤ UInt64.size / 2) :
    ofNumeral? ⟨true, (toString n).toList, none, none⟩ = some (.integer (-n)) := by
  have hsize : n < UInt64.size := Nat.lt_of_le_of_lt h (by decide)
  rw [ofNumeral?]
  simp only [absorb_toString hsize]
  simp [hpos, h]

theorem toList_negSucc (n : Nat) :
    (toString (Int.negSucc n)).toList = '-' :: (toString (n + 1)).toList := by
  have htext : toString (Int.negSucc n) = "-" ++ toString (n + 1) := rfl
  rw [htext, String.toList_append]
  rfl

/-- **Integers can be read back.** -/
theorem read_integer {i : Int} (hlow : -(UInt64.size / 2 : Nat) ≤ i) (hhigh : i < UInt64.size)
    (hrest : Ends rest) : read ((toString i).toList ++ rest) = some (.integer i, rest) := by
  cases i with
  | ofNat n =>
      have hread := readNumeral_toString n hrest false
      rw [if_neg Bool.false_ne_true] at hread
      have htext : toString (Int.ofNat n) = toString n := rfl
      rw [read, htext, hread]
      simp only [bind, Option.bind, ofNumeral?_positive (Int.ofNat_lt.1 hhigh)]
      rfl
  | negSucc n =>
      have hread := readNumeral_toString (n + 1) hrest true
      rw [if_pos rfl] at hread
      have hn : n + 1 ≤ UInt64.size / 2 := by omega
      rw [read, toList_negSucc, List.cons_append, hread]
      simp only [bind, Option.bind, ofNumeral?_negative (Nat.succ_pos n) hn]
      rfl

end Number

end TreeQuery.Json
