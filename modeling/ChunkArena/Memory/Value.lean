import ChunkArena.Memory.Layout

/-!
The element types that clients place in memory. A value is the list of its field values; in memory
the fields follow one another in little-endian order, and zero bytes fill the element up to its
size. `Literal` is the written form of a value, which differs from type to type.
-/

namespace ChunkArena

def littleEndian : Nat → Nat → List UInt8
  | 0, _ => []
  | width + 1, n => UInt8.ofNat n :: littleEndian width (n / 256)

def ofLittleEndian : List UInt8 → Nat
  | [] => 0
  | byte :: rest => byte.toNat + 256 * ofLittleEndian rest

def totalWidth (widths : List Nat) : Nat := widths.foldr Nat.add 0

theorem length_littleEndian (width n : Nat) : (littleEndian width n).length = width := by
  induction width generalizing n with
  | zero => rfl
  | succ width ih => simp [littleEndian, ih]

theorem ofLittleEndian_littleEndian (width n : Nat) :
    ofLittleEndian (littleEndian width n) = n % Nat.pow 256 width := by
  induction width generalizing n with
  | zero => simp [littleEndian, ofLittleEndian, Nat.mod_one]
  | succ width ih =>
    have next : Nat.pow 256 (width + 1) = 256 * Nat.pow 256 width := Nat.mul_comm _ _
    rw [littleEndian, ofLittleEndian, ih, next, Nat.mod_mul]
    simp only [UInt8.toNat_ofNat', Nat.reducePow]

inductive Literal
  | null
  | number (n : Nat)
  | text (digits : String)
  | numbers (ns : List Nat)
  | other
  deriving DecidableEq

abbrev Value := List Nat

/-- The written forms: nothing, a number, a numeral in a text, one number for each field, and three
numbers of which the first is the last field. -/
inductive Form
  | absent
  | number
  | numeral
  | list
  | tagged
  deriving DecidableEq

/-- Element types. A type has its fields one after the other, zero bytes behind them, and an
alignment that divides its size. -/
structure Kind where
  name : String
  /-- The widths of the fields in bytes, in memory order. -/
  widths : List Nat
  tail : Nat
  align : Nat
  form : Form
  /-- Whether copies and destructions of its values are counted. -/
  tracked : Bool
  shaped : isPowerOfTwo align = true ∧ align ∣ totalWidth widths + tail ∧
    totalWidth widths + tail ≤ blockLimit := by decide
  deriving DecidableEq

namespace Kind

def word (name : String) (width align : Nat) (form : Form)
    (shaped : isPowerOfTwo align = true ∧ align ∣ totalWidth [width] + 0 ∧
      totalWidth [width] + 0 ≤ blockLimit := by decide) : Kind :=
  ⟨name, [width], 0, align, form, false, shaped⟩

def u8 : Kind := word "u8" 1 1 .number

def u16 : Kind := word "u16" 2 2 .number

def u32 : Kind := word "u32" 4 4 .number

def u64 : Kind := word "u64" 8 8 .number

def u128 : Kind := word "u128" 16 16 .numeral

def unit : Kind := ⟨"()", [], 0, 1, .absent, false, by decide⟩

def bytes3 : Kind := ⟨"[u8; 3]", [1, 1, 1], 0, 1, .list, false, by decide⟩

def size (kind : Kind) : Nat := totalWidth kind.widths + kind.tail

def layout (kind : Kind) : Layout := ⟨kind.size, kind.align⟩

def Fits : List Nat → Value → Prop
  | [], [] => True
  | width :: widths, n :: value => n < Nat.pow 256 width ∧ Fits widths value
  | _, _ => False

instance decidableFits : (widths : List Nat) → (value : Value) → Decidable (Fits widths value)
  | [], [] => isTrue trivial
  | [], _ :: _ => isFalse id
  | _ :: _, [] => isFalse id
  | _ :: widths, _ :: value =>
      have := decidableFits widths value
      inferInstanceAs (Decidable (_ ∧ _))

def encodeFields : List Nat → Value → List UInt8
  | [], _ => []
  | width :: widths, [] => littleEndian width 0 ++ encodeFields widths []
  | width :: widths, n :: value => littleEndian width n ++ encodeFields widths value

def decodeFields : List Nat → List UInt8 → Value
  | [], _ => []
  | width :: widths, bytes =>
      ofLittleEndian (bytes.take width) :: decodeFields widths (bytes.drop width)

def encode (kind : Kind) (value : Value) : List UInt8 :=
  encodeFields kind.widths value ++ List.replicate kind.tail 0

def decode (kind : Kind) (bytes : List UInt8) : Value := decodeFields kind.widths bytes

def numeral? (digits : String) : Option Nat :=
  let body := match digits.toList with
    | '+' :: rest => rest
    | all => all
  if body ≠ [] ∧ body.all Char.isDigit then
    some (body.foldl (fun n c => 10 * n + (c.toNat - '0'.toNat)) 0)
  else none

def fields? (kind : Kind) (literal : Literal) : Option Value :=
  match kind.form, literal with
  | .absent, .null => some []
  | .number, .number n => some [n]
  | .numeral, .text digits => (numeral? digits).map fun n => [n]
  | .list, .numbers ns => some ns
  | .tagged, .numbers [tag, first, second] => some [first, second, tag]
  | _, _ => none

/-- The value of a literal; none if its form or a field's range is wrong. -/
def ofLiteral? (kind : Kind) (literal : Literal) : Option Value :=
  match kind.fields? literal with
  | some value => if Fits kind.widths value then some value else none
  | none => none

def toLiteral (kind : Kind) (value : Value) : Literal :=
  match kind.form, value with
  | .numeral, [n] => .text (toString n)
  | .tagged, [first, second, tag] => .numbers [tag, first, second]
  | .list, value => .numbers value
  | _, [n] => .number n
  | _, _ => .null

theorem length_encodeFields (widths : List Nat) (value : Value) :
    (encodeFields widths value).length = totalWidth widths := by
  induction widths generalizing value with
  | nil => rfl
  | cons width widths ih =>
    have more : totalWidth (width :: widths) = width + totalWidth widths := rfl
    cases value <;> simp [encodeFields, length_littleEndian, ih, more]

theorem length_encode (kind : Kind) (value : Value) : (kind.encode value).length = kind.size := by
  simp [encode, length_encodeFields, size]

theorem length_encoded_array (kind : Kind) (values : List Value) :
    (values.flatMap kind.encode).length = values.length * kind.size := by
  induction values with
  | nil => simp
  | cons value rest ih =>
    rw [List.flatMap_cons, List.length_append, length_encode, ih, List.length_cons,
      Nat.add_mul, Nat.one_mul, Nat.add_comm]

theorem encoded_array_element (kind : Kind) {values : List Value} {i : Nat} {value : Value}
    (element : values[i]? = some value) :
    ((values.flatMap kind.encode).drop (i * kind.size)).take kind.size = kind.encode value := by
  induction values generalizing i with
  | nil => simp at element
  | cons first rest ih =>
    rw [List.flatMap_cons]
    cases i with
    | zero =>
      simp only [List.getElem?_cons_zero, Option.some.injEq] at element
      subst element
      rw [Nat.zero_mul, List.drop_zero, ← kind.length_encode first, List.take_left]
    | succ i =>
      have further : (i + 1) * kind.size = (kind.encode first).length + i * kind.size := by
        rw [length_encode, Nat.add_mul, Nat.one_mul, Nat.add_comm]
      rw [further, List.drop_length_add_append]
      exact ih element

theorem decodeFields_encodeFields {widths : List Nat} {value : Value} (fits : Fits widths value)
    (rest : List UInt8) : decodeFields widths (encodeFields widths value ++ rest) = value := by
  induction widths generalizing value with
  | nil => cases value with
    | nil => rfl
    | cons => exact fits.elim
  | cons width widths ih =>
    cases value with
    | nil => exact fits.elim
    | cons n value =>
      obtain ⟨small, fits⟩ := fits
      have taken : (littleEndian width n ++ (encodeFields widths value ++ rest)).take width =
          littleEndian width n := by
        rw [List.take_append_of_le_length (by simp [length_littleEndian])]
        exact List.take_of_length_le (by simp [length_littleEndian])
      have dropped : (littleEndian width n ++ (encodeFields widths value ++ rest)).drop width =
          encodeFields widths value ++ rest := by
        rw [List.drop_append_of_le_length (by simp [length_littleEndian])]
        simp [length_littleEndian]
      rw [encodeFields, List.append_assoc, decodeFields, taken, dropped, ih fits,
        ofLittleEndian_littleEndian, Nat.mod_eq_of_lt small]

theorem decode_encode (kind : Kind) {value : Value} (fits : Fits kind.widths value) :
    kind.decode (kind.encode value) = value :=
  decodeFields_encodeFields fits _

end Kind

end ChunkArena
