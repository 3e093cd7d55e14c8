import ChunkArena.Proofs.LevelSpelling

/-!
Levels that are written into a column can be read again. Filling with white space goes away when the
text is trimmed, however it is split between the two ends, so what is read is the name as far as the
precision left it. A whole name is a word of its own level; a name that lost a letter is no word at
all, not even one of another level.
-/

namespace ChunkArena

namespace Column

/-- A text as it stands in a column: what the precision leaves of it, with enough filling around it
for the width. The alignment says where the filling goes, and an odd one at the center is larger on
the right. -/
structure Holds (column : Column) (text fitted : List Char) (front back : Nat) : Prop where
  parts : fitted = List.replicate front column.fill ++
    text.take (column.precision.getD text.length) ++ List.replicate back column.fill
  filled : front + back =
    column.width.getD 0 - (text.take (column.precision.getD text.length)).length
  sides : match column.alignment with
    | .left => front = 0
    | .center => front ≤ back ∧ back ≤ front + 1
    | .right => back = 0

theorem cut_eq_take (column : Column) (text : List Char) :
    column.cut text = text.take (column.precision.getD text.length) := by
  unfold cut
  cases column.precision with
  | none => simp
  | some precision => rfl

theorem exists_holds (column : Column) (text : List Char) :
    ∃ front back, column.Holds text (column.fit text) front back := by
  obtain ⟨fill, alignment, width, precision⟩ := column
  let missing := width.getD 0 - (text.take (precision.getD text.length)).length
  cases alignment with
  | left =>
    refine ⟨0, missing, ?_, Nat.zero_add missing, rfl⟩
    rw [fit, cut_eq_take]
    rfl
  | center =>
    refine ⟨missing / 2, missing - missing / 2, ?_, ?_, ?_⟩
    · rw [fit, cut_eq_take]
    · change missing / 2 + (missing - missing / 2) = missing
      omega
    · change missing / 2 ≤ missing - missing / 2 ∧ missing - missing / 2 ≤ missing / 2 + 1
      omega
  | right =>
    refine ⟨missing, 0, ?_, Nat.add_zero missing, rfl⟩
    rw [fit, cut_eq_take]
    exact (List.append_nil _).symm

theorem Holds.trimmed {column : Column} {text fitted : List Char} {front back : Nat}
    (held : column.Holds text fitted front back) (blank : WhiteSpace column.fill)
    (solid : ∀ c ∈ text, isBlank c = false) :
    trimBlank fitted = text.take (column.precision.getD text.length) := by
  have filling (count : Nat) : ∀ c ∈ List.replicate count column.fill, isBlank c = true := by
    intro c member
    rw [List.eq_of_mem_replicate member]
    exact (isBlank_iff_whiteSpace _).mpr blank
  rw [held.parts]
  refine trimBlank_surrounded (filling front) ?_ (filling back)
  intro c member
  exact solid c (List.mem_of_mem_take member)

theorem spares_iff (column : Column) (length : Nat) :
    length ≤ column.precision.getD length ↔ ∀ precision ∈ column.precision, length ≤ precision := by
  cases column.precision with
  | none => simp
  | some precision => simp

end Column

namespace Level

theorem name_solid (level : Level) : ∀ c ∈ level.name.toList, isBlank c = false := by
  have each : level.name.toList.all (!isBlank ·) = true := by
    cases level <;> rfl
  intro c member
  simpa using List.all_eq_true.mp each c member

theorem lookup_name (level : Level) :
    words.lookup (level.name.toList.map Char.toLower) = some level := by
  cases level <;> rfl

theorem lookup_cut_name (level : Level) : ∀ kept < level.name.length,
    words.lookup ((level.name.toList.take kept).map Char.toLower) = none := by
  cases level <;> decide

theorem format_holds (level : Level) (column : Column) :
    ∃ front back, column.Holds level.name.toList (level.format column).toList front back := by
  rw [format, String.toList_ofList]
  exact column.exists_holds level.name.toList

theorem parse_format {column : Column} (blank : WhiteSpace column.fill) (level : Level) :
    parse (level.format column) =
      if level.name.length ≤ column.precision.getD level.name.length then .ok level
      else .error (.unknownLevel (level.format column)) := by
  have read : ofChars? (level.format column).toList = words.lookup
      ((level.name.toList.take (column.precision.getD level.name.length)).map Char.toLower) := by
    obtain ⟨front, back, held⟩ := level.format_holds column
    rw [ofChars?, held.trimmed blank level.name_solid, String.length_toList]
  by_cases whole : level.name.length ≤ column.precision.getD level.name.length
  · rw [if_pos whole, parse, read, List.take_of_length_le (by rwa [String.length_toList]),
      lookup_name]
  · rw [if_neg whole, parse, read, level.lookup_cut_name _ (Nat.lt_of_not_le whole)]

theorem checkedFormat_eq_ok_iff {level : Level} {column : Column} {text : String} :
    level.checkedFormat column = .ok text ↔
      column.isWithinLimit = true ∧ text = level.format column := by
  unfold checkedFormat
  split
  · next within => simp [within, eq_comm]
  · next beyond => simp [beyond]

end Level

/-- A level is written into every column within the limits: its name as far as the precision goes,
with the filling that the width asks for. What is written is read as that level if and only if there
is no precision below the length of the name. Otherwise it is an unknown level, and never another
one. -/
theorem formatted_level_reads_back (level : Level) (column : Column)
    (blank : WhiteSpace column.fill) :
    (∀ text, level.checkedFormat column = .ok text ↔
      column.isWithinLimit = true ∧ text = level.format column) ∧
    (∃ front back, column.Holds level.name.toList (level.format column).toList front back) ∧
    (Level.parse (level.format column) = .ok level ↔
      ∀ precision ∈ column.precision, level.name.length ≤ precision) ∧
    (Level.parse (level.format column) = .error (.unknownLevel (level.format column)) ↔
      ∃ precision ∈ column.precision, precision < level.name.length) ∧
    (∀ other, Level.parse (level.format column) = .ok other → other = level) := by
  refine ⟨fun text => Level.checkedFormat_eq_ok_iff, level.format_holds column, ?_⟩
  rw [Level.parse_format blank]
  -- the three readings follow from whether the name is whole, whatever stands around it
  by_cases whole : level.name.length ≤ column.precision.getD level.name.length
  · have spared := (column.spares_iff level.name.length).mp whole
    rw [if_pos whole]
    refine ⟨by simpa using spared, ?_, ?_⟩
    · constructor
      · intro failed
        cases failed
      · rintro ⟨precision, given, short⟩
        exact absurd (spared precision given) (Nat.not_le.mpr short)
    · intro other same
      cases same
      rfl
  · have shortened := mt (column.spares_iff level.name.length).mpr whole
    rw [if_neg whole]
    refine ⟨?_, ?_, ?_⟩
    · constructor
      · intro read
        cases read
      · intro spared
        exact absurd spared shortened
    · simpa using shortened
    · intro other same
      cases same

/-- A name in the middle of ideographic spaces, with a precision that just spares it. -/
theorem centered_level_reads_back :
    let column : Column := ⟨'\u3000', .center, some 9, some 4⟩
    WhiteSpace column.fill ∧
      Level.warn.checkedFormat column = .ok "\u3000\u3000WARN\u3000\u3000\u3000" ∧
      Level.parse "\u3000\u3000WARN\u3000\u3000\u3000" = .ok .warn := by
  intro column
  have blank : WhiteSpace column.fill := by decide
  have written : Level.warn.format column = "\u3000\u3000WARN\u3000\u3000\u3000" := by cbv
  obtain ⟨produced, -, read, -, -⟩ := formatted_level_reads_back .warn column blank
  refine ⟨blank, (produced _).mpr ⟨by decide, written.symm⟩, ?_⟩
  rw [← written]
  exact read.mpr (by decide)

example : Level.parse (Level.warn.format ⟨'\u3000', .center, some 9, some 3⟩) =
    .error (.unknownLevel "\u3000\u3000\u3000WAR\u3000\u3000\u3000") := by rfl

end ChunkArena
