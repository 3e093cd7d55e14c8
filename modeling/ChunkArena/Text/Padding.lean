/-!
Fitting a text into a column. The text is cut to the precision first, then filled up to the width;
both count characters. A text that is wider than the column is left as it is.
-/

namespace ChunkArena

inductive Alignment
  | left
  | center
  | right
  deriving DecidableEq

/-- How a text is fitted: no width means no filling, no precision means no cutting. -/
structure Column where
  fill : Char
  alignment : Alignment
  width : Option Nat
  precision : Option Nat

namespace Column

def free : Column := ⟨' ', .left, none, none⟩

def limit : Nat := 65535

def isWithinLimit (column : Column) : Bool :=
  column.width.all (· ≤ limit) && column.precision.all (· ≤ limit)

def cut (column : Column) (text : List Char) : List Char :=
  match column.precision with
  | none => text
  | some precision => text.take precision

/-- Fits a text into the column. Of an odd filling around a centered text, the larger part is on
the right. -/
def fit (column : Column) (text : List Char) : List Char :=
  let shown := column.cut text
  let missing := column.width.getD 0 - shown.length
  match column.alignment with
  | .left => shown ++ List.replicate missing column.fill
  | .right => List.replicate missing column.fill ++ shown
  | .center =>
      List.replicate (missing / 2) column.fill ++ shown ++
        List.replicate (missing - missing / 2) column.fill

def alignmentOf? : Char → Option Alignment
  | '<' => some .left
  | '^' => some .center
  | '>' => some .right
  | _ => none

/-- Flags that concern numbers: they are accepted, each at most once and in this order, and have no
effect on a text. -/
def flags (spec : List Char) : List Char :=
  let unsigned := match spec with
    | '+' :: rest | '-' :: rest => rest
    | rest => rest
  let plain := match unsigned with
    | '#' :: rest => rest
    | rest => rest
  match plain with
  | '0' :: rest => rest
  | rest => rest

def ofSpec? (spec : List Char) (width precision : Option Nat) : Option Column :=
  let (fill, alignment, rest) := match spec with
    | fill :: mark :: rest =>
        match alignmentOf? mark with
        | some alignment => (fill, alignment, rest)
        | none =>
            match alignmentOf? fill with
            | some alignment => (' ', alignment, mark :: rest)
            | none => (' ', .left, spec)
    | [mark] =>
        match alignmentOf? mark with
        | some alignment => (' ', alignment, [])
        | none => (' ', .left, spec)
    | [] => (' ', .left, [])
  if flags rest = [] then some ⟨fill, alignment, width, precision⟩ else none

theorem fit_free (text : List Char) : free.fit text = text := by
  simp [fit, cut, free]

theorem length_fit (column : Column) (text : List Char) :
    (column.fit text).length = max (column.width.getD 0) (column.cut text).length := by
  unfold fit
  cases column.alignment <;> simp only [List.length_append, List.length_replicate] <;> omega

end Column

end ChunkArena
