import Mathlib.Data.List.Forall2
import ChunkArena.Log.Escape

/-!
Terminal escape sequences can be read back. The decoder takes a text apart at the semicolons between
the introducer and the final letter and reads each part as a numeral. It accepts a text if and only
if it is the text of some codes, and gives exactly those, so different codes never look alike: no
numeral holds a semicolon or the final letter, and the sequence without codes is the only one with
an empty body.
-/

namespace ChunkArena

namespace Escape

/-- The code that a numeral stands for. A numeral is taken only in the form in which the code is
written, which rules out leading zeros and values past one byte. -/
def code? (digits : List Char) : Option UInt8 :=
  let code := UInt8.ofNat (Nat.ofDigitChars 10 digits 0)
  if digits = numeral code then some code else none

def codes? (body : List Char) : Option (List UInt8) :=
  if body = [] then some [] else (body.splitOn ';').mapM code?

def decode (text : String) : Option (List UInt8) :=
  match text.toList with
  | '\x1b' :: '[' :: rest => if rest.getLast? = some 'm' then codes? rest.dropLast else none
  | _ => none

/-- The decimal numeral of a value, without leading zeros. -/
structure IsNumeral (digits : List Char) (value : Nat) : Prop where
  digit : ∀ c ∈ digits, c.isDigit = true
  nonempty : digits ≠ []
  plain : digits.head? = some '0' → digits = ['0']
  value : Nat.ofDigitChars 10 digits 0 = value

theorem numeral_digits (code : UInt8) : ∀ c ∈ numeral code, c.isDigit = true := by
  intro c member
  exact Nat.isDigit_of_mem_toDigits (by decide) (by decide) member

theorem head_toDigits {n : Nat} (positive : 0 < n) : (Nat.toDigits 10 n).head? ≠ some '0' := by
  induction n using Nat.strongRecOn with
  | ind n ih =>
    rw [Nat.toDigits_eq_if (by decide)]
    split
    · next small =>
      have digits : ∀ n < 10, 0 < n → [n.digitChar].head? ≠ some '0' := by decide
      exact digits n small positive
    · next large =>
      rw [List.head?_append_of_ne_nil _ Nat.toDigits_ne_nil]
      exact ih (n / 10) (by omega) (by omega)

theorem numeral_isNumeral (code : UInt8) : IsNumeral (numeral code) code.toNat where
  digit := numeral_digits code
  nonempty := Nat.toDigits_ne_nil
  plain := by
    intro zero
    by_cases positive : 0 < code.toNat
    · exact absurd zero (head_toDigits positive)
    · have null : code.toNat = 0 := by omega
      rw [numeral, null]
      rfl
  value := Nat.ofDigitChars_ten_toDigits

theorem numerals_eq_intercalate (codes : List UInt8) :
    numerals codes = [';'].intercalate (codes.map numeral) := by
  induction codes with
  | nil => rfl
  | cons code rest ih =>
    cases rest with
    | nil => simp [numerals]
    | cons next later =>
      -- the separator is written only if codes follow, which the rewriting asks for
      rw [numerals, ih]
      · simp [List.intercalate_cons_cons]
      · simp

theorem numerals_eq_nil_iff {codes : List UInt8} : numerals codes = [] ↔ codes = [] := by
  constructor
  · intro empty
    cases codes with
    | nil => rfl
    | cons code rest =>
      cases rest with
      | nil => exact absurd empty Nat.toDigits_ne_nil
      | cons next later => simp [numerals] at empty
  · rintro rfl
    rfl

theorem mem_numerals {codes : List UInt8} {c : Char} (member : c ∈ numerals codes) :
    c.isDigit = true ∨ c = ';' := by
  induction codes with
  | nil => simp [numerals] at member
  | cons code rest ih =>
    cases rest with
    | nil => exact .inl (numeral_digits code c member)
    | cons next later =>
      rw [numerals, List.mem_append, List.mem_cons] at member
      · rcases member with own | rfl | behind
        · exact .inl (numeral_digits code c own)
        · exact .inr rfl
        · exact ih behind
      · simp

theorem code?_eq_some_iff {digits : List Char} {code : UInt8} :
    code? digits = some code ↔ digits = numeral code := by
  unfold code?
  constructor
  · intro read
    dsimp only at read
    split at read
    · next same =>
      cases read
      exact same
    · cases read
  · rintro rfl
    rw [numeral, Nat.ofDigitChars_ten_toDigits, UInt8.ofNat_toNat]
    simp [numeral]

theorem mapM_code?_eq_some_iff {parts : List (List Char)} {codes : List UInt8} :
    parts.mapM code? = some codes ↔ parts = codes.map numeral := by
  induction parts generalizing codes with
  | nil => simp [eq_comm]
  | cons digits rest ih =>
    cases codes with
    | nil => simp [List.mapM_cons, Option.bind_eq_some_iff]
    | cons code others => simp [List.mapM_cons, Option.bind_eq_some_iff, code?_eq_some_iff, ih]

/-- Numerals never run together: the separators are where they were put. -/
theorem splitOn_numerals {codes : List UInt8} (filled : codes ≠ []) :
    (numerals codes).splitOn ';' = codes.map numeral := by
  rw [numerals_eq_intercalate]
  apply List.splitOn_intercalate
  · intro digits member separator
    obtain ⟨code, _, rfl⟩ := List.mem_map.mp member
    cases numeral_digits code ';' separator
  · simpa using filled

theorem codes?_eq_some_iff {body : List Char} {codes : List UInt8} :
    codes? body = some codes ↔ body = numerals codes := by
  unfold codes?
  split
  · next empty => rw [empty, Option.some.injEq, eq_comm, ← numerals_eq_nil_iff, eq_comm]
  · next filled =>
    rw [mapM_code?_eq_some_iff]
    constructor
    · intro parts
      rw [numerals_eq_intercalate, ← parts, List.intercalate_splitOn]
    · rintro rfl
      exact splitOn_numerals (mt numerals_eq_nil_iff.mpr filled)

theorem decode_eq_some_iff {written : String} {codes : List UInt8} :
    decode written = some codes ↔ written = text codes := by
  constructor
  · intro read
    unfold decode at read
    split at read
    · next rest form =>
      split at read
      · next ended =>
        obtain ⟨body, rfl⟩ := List.getLast?_eq_some_iff.mp ended
        rw [List.dropLast_concat, codes?_eq_some_iff] at read
        rw [text, chars, ← read, ← form, String.ofList_toList]
      · cases read
    · cases read
  · rintro rfl
    rw [decode, text, String.toList_ofList, chars]
    simp [codes?_eq_some_iff]

theorem text_inj {first second : List UInt8} : text first = text second ↔ first = second := by
  rw [← decode_eq_some_iff, decode_eq_some_iff.mpr rfl, Option.some.injEq]

end Escape

/-- Decoding gives back the codes of a sequence from its text and accepts no other text, so two
sequences with the same text have the same codes. The text is the introducer, one decimal numeral
without leading zeros for each code, with a semicolon between any two, and the final letter, which
is nowhere before the end. -/
theorem escapes_decoded (codes : List UInt8) :
    (∀ written, Escape.decode written = some codes ↔ written = Escape.text codes) ∧
    (∀ other, Escape.text other = Escape.text codes ↔ other = codes) ∧
    ∃ numerals : List (List Char),
      List.Forall₂ (fun numeral code => Escape.IsNumeral numeral code.toNat) numerals codes ∧
      (Escape.text codes).toList = '\x1b' :: '[' :: ([';'].intercalate numerals ++ ['m']) ∧
      'm' ∉ '\x1b' :: '[' :: [';'].intercalate numerals := by
  refine ⟨fun written => Escape.decode_eq_some_iff, fun other => Escape.text_inj,
    codes.map Escape.numeral, ?_, ?_, ?_⟩
  · rw [List.forall₂_map_left_iff, List.forall₂_same]
    intro code _
    exact Escape.numeral_isNumeral code
  · rw [Escape.text, String.toList_ofList, Escape.chars, Escape.numerals_eq_intercalate]
  · rw [← Escape.numerals_eq_intercalate]
    intro member
    simp only [List.mem_cons, Char.reduceEq, false_or] at member
    rcases Escape.mem_numerals member with digit | separator
    · cases digit
    · cases separator

example : Escape.decode "\x1b[0;0m" = some [0, 0] := by cbv

example : Escape.decode "\x1b[1;037m" = none := by cbv

end ChunkArena
