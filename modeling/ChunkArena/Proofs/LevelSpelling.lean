import Mathlib.Data.List.Forall2
import ChunkArena.Log.Logger

/-!
Which texts stand for a level. The grammar is stated on the characters of a text, without the
trimming and the lowering that read it: a run of white space, a word of the level with its ASCII
letters in any case, and a run of white space. A text outside it is an error that keeps the text as
it was. The core logger reads the same grammar from the bytes of a variable, and whatever is not the
encoding of such a text counts as `warn`.
-/

namespace ChunkArena

def whiteSpace : List (Nat × Nat) :=
  [(0x09, 0x0D), (0x20, 0x20), (0x85, 0x85), (0xA0, 0xA0), (0x1680, 0x1680), (0x2000, 0x200A),
    (0x2028, 0x2029), (0x202F, 0x202F), (0x205F, 0x205F), (0x3000, 0x3000)]

def WhiteSpace (c : Char) : Prop := ∃ range ∈ whiteSpace, range.1 ≤ c.toNat ∧ c.toNat ≤ range.2

instance (c : Char) : Decidable (WhiteSpace c) :=
  inferInstanceAs (Decidable (∃ range ∈ whiteSpace, range.1 ≤ c.toNat ∧ c.toNat ≤ range.2))

def Cased (capital small : Char) : Prop :=
  'A'.toNat ≤ capital.toNat ∧ capital.toNat ≤ 'Z'.toNat ∧ small.toNat = capital.toNat + 32

def SameLetter (c d : Char) : Prop := c = d ∨ Cased c d ∨ Cased d c

theorem isBlank_iff_whiteSpace (c : Char) : isBlank c = true ↔ WhiteSpace c := by
  simp only [isBlank, WhiteSpace, whiteSpace, Bool.or_eq_true, Bool.and_eq_true, decide_eq_true_eq,
    beq_iff_eq, List.mem_cons, List.not_mem_nil, or_false, exists_eq_or_imp, exists_eq_left]
  constructor
  · intro blank
    omega
  · intro blank
    omega

theorem isBlank_of_letter {c : Char} (low : 'A'.toNat ≤ c.toNat) (high : c.toNat ≤ 'z'.toNat) :
    isBlank c = false := by
  simp only [Char.reduceToNat] at low high
  simp only [isBlank, Bool.or_eq_false_iff, Bool.and_eq_false_iff, decide_eq_false_iff_not,
    beq_eq_false_iff_ne]
  omega

theorem toLower_cases (c : Char) :
    (c.toLower = c ∧ ¬ ('A'.toNat ≤ c.toNat ∧ c.toNat ≤ 'Z'.toNat)) ∨ Cased c c.toLower := by
  unfold Char.toLower
  split
  · next capital =>
    right
    refine ⟨capital.1, capital.2, ?_⟩
    have high : c.val.toNat ≤ 90 := capital.2
    change (c.val + 32).toNat = c.val.toNat + 32
    rw [UInt32.toNat_add]
    exact Nat.mod_eq_of_lt (by change c.val.toNat + 32 < 4294967296; omega)
  · next other => exact .inl ⟨rfl, other⟩

theorem Cased.toLower_capital {c d : Char} (cased : Cased c d) : c.toLower = d := by
  obtain ⟨low, high, small⟩ := cased
  rcases toLower_cases c with ⟨_, other⟩ | ⟨_, _, lowered⟩
  · exact absurd ⟨low, high⟩ other
  · exact Char.toNat_inj.mp (lowered.trans small.symm)

theorem Cased.toLower_small {c d : Char} (cased : Cased c d) : d.toLower = d := by
  obtain ⟨low, high, small⟩ := cased
  rcases toLower_cases d with ⟨fixed, _⟩ | ⟨_, upper, _⟩
  · exact fixed
  · simp only [Char.reduceToNat] at low upper
    omega

theorem toLower_eq_toLower_iff {c d : Char} : c.toLower = d.toLower ↔ SameLetter c d := by
  constructor
  · intro same
    -- two capital letters are moved by the same distance, so they were the same one
    rcases toLower_cases c with ⟨fixed, _⟩ | capital
    · rcases toLower_cases d with ⟨fixed', _⟩ | capital'
      · exact .inl (by rw [← fixed, same, fixed'])
      · exact .inr (.inr (by rw [← fixed, same]; exact capital'))
    · rcases toLower_cases d with ⟨fixed', _⟩ | capital'
      · exact .inr (.inl (by rw [← fixed', ← same]; exact capital))
      · have small := capital.2.2
        have small' := capital'.2.2
        rw [same] at small
        exact .inl (Char.toNat_inj.mp (by omega))
  · rintro (rfl | cased | cased)
    · rfl
    · rw [cased.toLower_capital, cased.toLower_small]
    · rw [cased.toLower_capital, cased.toLower_small]

theorem forall₂_sameLetter_iff {a b : List Char} :
    List.Forall₂ SameLetter a b ↔ a.map Char.toLower = b.map Char.toLower := by
  induction a generalizing b with
  | nil => cases b <;> simp
  | cons c rest ih =>
    cases b with
    | nil => simp
    | cons d others =>
      rw [List.forall₂_cons, ih, ← toLower_eq_toLower_iff]
      simp

theorem isBlank_toLower (c : Char) : isBlank c.toLower = isBlank c := by
  rcases toLower_cases c with ⟨fixed, _⟩ | ⟨low, high, small⟩
  · rw [fixed]
  · have capital : c.toNat ≤ 'z'.toNat := Nat.le_trans high (by decide)
    have lowered : 'A'.toNat ≤ c.toLower.toNat := by omega
    have bound : c.toLower.toNat ≤ 'z'.toNat := by
      rw [small]
      exact Nat.add_le_add_right high 32
    rw [isBlank_of_letter low capital, isBlank_of_letter lowered bound]

theorem fromUTF8?_eq_some_iff {bytes : ByteArray} {text : String} :
    String.fromUTF8? bytes = some text ↔ text.toUTF8 = bytes := by
  unfold String.fromUTF8?
  split
  · next valid =>
    constructor
    · intro same
      cases same
      rfl
    · rintro rfl
      rfl
  · next invalid =>
    constructor
    · intro same
      cases same
    · rintro rfl
      exact absurd text.isValidUTF8 invalid

namespace Level

def spellings : Level → List String
  | debug => ["debug"]
  | info => ["info"]
  | warn => ["warn", "warning"]
  | error => ["error"]
  | critical => ["critical"]

/-- The text stands for the level: white space, one of the level's words up to the case of ASCII
letters, white space. -/
inductive Spells (level : Level) (text : String) : Prop
  | intro (front word back : List Char) (spelling : String)
      (parts : text.toList = front ++ word ++ back)
      (before : ∀ c ∈ front, WhiteSpace c) (listed : spelling ∈ level.spellings)
      (written : List.Forall₂ SameLetter word spelling.toList) (after : ∀ c ∈ back, WhiteSpace c)

theorem spelling_lower {level : Level} {spelling : String} (listed : spelling ∈ level.spellings) :
    spelling.toList.map Char.toLower = spelling.toList := by
  have each : ∀ spelling ∈ level.spellings,
      spelling.toList.map Char.toLower = spelling.toList := by
    cases level <;> decide
  exact each spelling listed

theorem spelling_solid {level : Level} {spelling : String} (listed : spelling ∈ level.spellings) :
    ∀ c ∈ spelling.toList, isBlank c = false := by
  have each : level.spellings.all (fun spelling => spelling.toList.all (!isBlank ·)) = true := by
    cases level <;> rfl
  intro c member
  simpa using List.all_eq_true.mp (List.all_eq_true.mp each spelling listed) c member

theorem lookup_words_iff {level : Level} {word : List Char} :
    words.lookup word = some level ↔ ∃ spelling ∈ level.spellings, spelling.toList = word := by
  constructor
  · intro found
    obtain ⟨earlier, later, split, _⟩ := List.lookup_eq_some_iff.mp found
    have member : (word, level) ∈ words := by simp [split]
    simp only [words, List.mem_cons, Prod.mk.injEq, List.not_mem_nil, or_false] at member
    rcases member with
      ⟨rfl, rfl⟩ | ⟨rfl, rfl⟩ | ⟨rfl, rfl⟩ | ⟨rfl, rfl⟩ | ⟨rfl, rfl⟩ | ⟨rfl, rfl⟩ <;>
      simp [spellings]
  · rintro ⟨spelling, listed, rfl⟩
    have each : ∀ spelling ∈ level.spellings, words.lookup spelling.toList = some level := by
      cases level <;> decide
    exact each spelling listed

theorem solid_of_written {level : Level} {word : List Char} {spelling : String}
    (listed : spelling ∈ level.spellings) (lowered : word.map Char.toLower = spelling.toList) :
    ∀ c ∈ word, isBlank c = false := by
  intro c member
  rw [← isBlank_toLower]
  apply spelling_solid listed
  rw [← lowered]
  exact List.mem_map_of_mem member

theorem ofChars?_eq_some_iff {level : Level} {text : String} :
    ofChars? text.toList = some level ↔ level.Spells text := by
  rw [ofChars?, lookup_words_iff]
  constructor
  · rintro ⟨spelling, listed, lowered⟩
    obtain ⟨front, back, parts, before, after⟩ := exists_trimBlank text.toList
    have written : List.Forall₂ SameLetter (trimBlank text.toList) spelling.toList := by
      rw [forall₂_sameLetter_iff, spelling_lower listed, lowered]
    refine .intro front (trimBlank text.toList) back spelling parts ?_ listed written ?_
    · intro c member
      exact (isBlank_iff_whiteSpace c).mp (List.all_eq_true.mp before c member)
    · intro c member
      exact (isBlank_iff_whiteSpace c).mp (List.all_eq_true.mp after c member)
  · rintro ⟨front, word, back, spelling, parts, before, listed, written, after⟩
    have lowered : word.map Char.toLower = spelling.toList :=
      (forall₂_sameLetter_iff.mp written).trans (spelling_lower listed)
    have trimmed : trimBlank text.toList = word := by
      rw [parts]
      refine trimBlank_surrounded ?_ (solid_of_written listed lowered) ?_
      · intro c member
        exact (isBlank_iff_whiteSpace c).mpr (before c member)
      · intro c member
        exact (isBlank_iff_whiteSpace c).mpr (after c member)
    exact ⟨spelling, listed, by rw [trimmed, lowered]⟩

theorem parse_eq_ok_iff_spells {level : Level} {text : String} :
    parse text = .ok level ↔ level.Spells text := by
  rw [parse_eq_ok_iff, ofChars?_eq_some_iff]

theorem parse_eq_error_iff {text : String} {fault : LogError} :
    parse text = .error fault ↔
      fault = .unknownLevel text ∧ ∀ level : Level, ¬ level.Spells text := by
  constructor
  · intro failed
    constructor
    · unfold parse at failed
      split at failed
      · cases failed
      · cases failed
        rfl
    · intro level spells
      rw [parse_eq_ok_iff_spells.mpr spells] at failed
      cases failed
  · rintro ⟨rfl, unspelled⟩
    unfold parse
    split
    · next level found => exact absurd (ofChars?_eq_some_iff.mp found) (unspelled level)
    · rfl

end Level

namespace Logger

/-- The variable is set to the encoding of a text that stands for the level. -/
def Requests (setting : Option (List UInt8)) (level : Level) : Prop :=
  ∃ text : String, setting = some text.toUTF8.data.toList ∧ level.Spells text

theorem decoded_eq_some_iff {setting : Option (List UInt8)} {text : String} :
    (setting.bind fun bytes => String.fromUTF8? ⟨bytes.toArray⟩) = some text ↔
      setting = some text.toUTF8.data.toList := by
  cases setting with
  | none => simp
  | some bytes =>
    rw [Option.bind_some, fromUTF8?_eq_some_iff, Option.some.injEq]
    constructor
    · intro encoded
      rw [encoded]
    · rintro rfl
      rfl

theorem coreLevel_of_requests {setting : Option (List UInt8)} {level : Level}
    (requests : Requests setting level) : coreLevel setting = level := by
  obtain ⟨text, encoded, spells⟩ := requests
  rw [coreLevel, decoded_eq_some_iff.mpr encoded]
  dsimp only
  rw [Level.parse_eq_ok_iff_spells.mpr spells]

theorem coreLevel_of_no_request {setting : Option (List UInt8)}
    (silent : ∀ level, ¬ Requests setting level) : coreLevel setting = .warn := by
  unfold coreLevel
  split
  · rfl
  · next text decoded =>
    split
    · next level read =>
      have requests : Requests setting level :=
        ⟨text, decoded_eq_some_iff.mp decoded, Level.parse_eq_ok_iff_spells.mp read⟩
      exact absurd requests (silent level)
    · rfl

end Logger

/-- A text is read as a level if and only if the grammar says that it stands for that level, and any
other text is an error that carries the whole text. The least level of the core logger is the one
that its variable encodes, and `warn` if the variable is unset, is no encoding of a text, or is one
of a text that stands for no level. -/
theorem levels_read_by_spelling :
    (∀ text level, Level.parse text = .ok level ↔ level.Spells text) ∧
    (∀ text fault, Level.parse text = .error fault ↔
      fault = .unknownLevel text ∧ ∀ level : Level, ¬ level.Spells text) ∧
    (∀ setting level, (Logger.core setting).minLevel = level ↔
      Logger.Requests setting level ∨
        level = .warn ∧ ∀ other, ¬ Logger.Requests setting other) := by
  refine ⟨fun text level => Level.parse_eq_ok_iff_spells,
    fun text fault => Level.parse_eq_error_iff, ?_⟩
  intro setting level
  constructor
  · rintro rfl
    by_cases silent : ∀ other, ¬ Logger.Requests setting other
    · exact .inr ⟨Logger.coreLevel_of_no_request silent, silent⟩
    · obtain ⟨other, requests⟩ := not_forall_not.mp silent
      have requested : (Logger.core setting).minLevel = other :=
        Logger.coreLevel_of_requests requests
      exact .inl (requested ▸ requests)
  · rintro (requests | ⟨rfl, silent⟩)
    · exact Logger.coreLevel_of_requests requests
    · exact Logger.coreLevel_of_no_request silent

example : Level.parse "\u00a0WaRnInG\u3000" = .ok .warn := by rfl

/-- The first letter is not an ASCII one, although its small form begins with one. -/
example : Level.parse "\u0130nfo" = .error (.unknownLevel "\u0130nfo") := by rfl

end ChunkArena
