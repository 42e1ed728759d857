/-
TenantRegistry/Proofs/Json/Reading.lean

What was written is read back, character by character.

The reader is not run on what the printer happens to put out, but on a grammar
that leaves blanks open: `Spells json cs` says that the characters `cs` are a
way to write `json`, with blanks wherever the layouts of the printer differ.
The reader reads every spelling (`readValue_of_spells`), and hence a text that
is a spelling and nothing else (`parse_of_spells`).

A number without fraction and exponent is an integer, and any other is kept as
its text (`Decimal`).  Both layouts of the printer spell every value that has no
other numbers (`Writable`, `spells_compact`, `spells_pretty`), so `parse_toCompact`
and `parse_toPretty` are the reader after the printer.
-/
import Mathlib.Data.List.DropRight
import Mathlib.Data.List.Forall2
import TenantRegistry.Json.Printer
import TenantRegistry.Json.Reader

namespace TenantRegistry

namespace Json

/-! ### Strings -/

/-- A piece that stands for a character on its own. -/
inductive Denotes : Piece → Char → Prop
  | char (c : Char) : Denotes (.char c) c
  /-- A unit below all surrogates. -/
  | unit (c : Char) (low : c.toNat < 0xD800) : Denotes (.unit c.toNat) c

/-- A unit below all surrogates does not pair up with what follows. -/
theorem joinPieces_unit {value : Nat} (h : value < 0xD800) (rest : List Piece) :
    joinPieces (.unit value :: rest) = (joinPieces rest).map (Char.ofNat value :: ·) := by
  have hhigh : isHighHalf value = false := by simp [isHighHalf]; omega
  have hlow : isLowHalf value = false := by simp [isLowHalf]; omega
  rcases rest with - | ⟨c | low, rest⟩
  · simp [joinPieces, hhigh, hlow]
  · simp [joinPieces, hhigh, hlow]
  · simp [joinPieces, hhigh, hlow]

theorem joinPieces_of_denotes {pieces : List Piece} {cs : List Char}
    (h : List.Forall₂ Denotes pieces cs) : joinPieces pieces = some cs := by
  induction h with
  | nil => rfl
  | cons hhead _ ih =>
    cases hhead with
    | char c => simp [joinPieces, ih]
    | unit c low => simp [joinPieces_unit low, ih]

/-- The digits of a control character denote it. -/
theorem hexNumber_escape :
    ∀ n < 32, hexNumber ['0', '0', hexDigit (n / 16), hexDigit (n % 16)] = some n := by
  decide

/-- A character stands for itself, unless it ends a string or starts an escape. -/
theorem readPieces_plain {c : Char} (hmark : c ≠ '"') (hslash : c ≠ '\\') (hlow : ¬ c.toNat < 32)
    (rest : List Char) :
    readPieces (c :: rest) = (readPieces rest).map fun read => (.char c :: read.1, read.2) := by
  rw [readPieces]
  · simp [hslash, hlow]
  · exact hmark
  · intro a b c' d rest' h
    exact absurd h hslash
  · intro letter rest' h
    exact absurd h hslash

/-- **A written character is read as one piece that denotes it.** -/
theorem readPieces_escape (c : Char) : ∃ piece, Denotes piece c ∧ ∀ rest,
    readPieces (escape c ++ rest) = (readPieces rest).map fun read => (piece :: read.1, read.2) := by
  unfold escape
  by_cases hletter : c ∈ ['"', '\\', '\x08', '\t', '\n', '\x0c', '\r']
  · -- the seven characters with a letter
    refine ⟨.char c, .char c, fun rest => ?_⟩
    simp only [List.mem_cons, List.not_mem_nil, or_false] at hletter
    rcases hletter with rfl | rfl | rfl | rfl | rfl | rfl | rfl <;> rfl
  · simp only [List.mem_cons, List.not_mem_nil, or_false, not_or] at hletter
    obtain ⟨hmark, hslash, hb, ht, hn, hf, hr⟩ := hletter
    simp only [hmark, hslash, hb, ht, hn, hf, hr, if_false]
    by_cases hlow : c.toNat < 32
    · refine ⟨.unit c.toNat, .unit c (by omega), fun rest => ?_⟩
      simp only [hlow, if_true, List.cons_append, List.nil_append, readPieces,
        hexNumber_escape c.toNat hlow]
    · refine ⟨.char c, .char c, fun rest => ?_⟩
      simp only [hlow, if_false, List.cons_append, List.nil_append]
      exact readPieces_plain hmark hslash hlow rest

theorem readPieces_escapes (cs rest : List Char) : ∃ pieces, List.Forall₂ Denotes pieces cs ∧
    readPieces (cs.flatMap escape ++ '"' :: rest) = some (pieces, rest) := by
  induction cs with
  | nil => exact ⟨[], .nil, rfl⟩
  | cons c cs ih =>
    obtain ⟨pieces, hpieces, hread⟩ := ih
    obtain ⟨piece, hpiece, hescape⟩ := readPieces_escape c
    refine ⟨piece :: pieces, .cons hpiece hpieces, ?_⟩
    rw [List.flatMap_cons, List.append_assoc, hescape, hread]
    rfl

/-- **A written string is read back**, also one that cannot be read. -/
theorem readString_quoted (text : Option String) (rest : List Char) :
    ∃ cs, quoted text ++ rest = '"' :: cs ∧ readString cs = some (text, rest) := by
  cases text with
  | none => exact ⟨_, rfl, rfl⟩
  | some text =>
    obtain ⟨pieces, hpieces, hread⟩ := readPieces_escapes text.toList rest
    refine ⟨text.toList.flatMap escape ++ '"' :: rest, by simp [quoted], ?_⟩
    rw [readString, hread]
    simp [joinPieces_of_denotes hpieces]

/-! ### Numbers -/

/-- The characters that end a number, or anything else, in what the printer writes. -/
def Delimited (rest : List Char) : Prop :=
  ∀ c ∈ rest.head?, c = ',' ∨ c = ']' ∨ c = '}' ∨ isBlank c = true

/-- One digit or more. -/
def Digits (cs : List Char) : Prop := cs ≠ [] ∧ ∀ c ∈ cs, c.isDigit = true

theorem Digits.eq_cons {digits : List Char} (h : Digits digits) :
    ∃ c tail, digits = c :: tail ∧ c.isDigit = true := by
  obtain ⟨hne, hall⟩ := h
  obtain ⟨c, tail, rfl⟩ := List.exists_cons_of_ne_nil hne
  exact ⟨c, tail, rfl, hall c List.mem_cons_self⟩

theorem digits_toDigits (n : Nat) : Digits (Nat.toDigits 10 n) :=
  ⟨Nat.toDigits_ne_nil, fun _ hc => Nat.isDigit_of_mem_toDigits (by decide) (by decide) hc⟩

theorem decimalNumber_toDigits (n : Nat) : decimalNumber (Nat.toDigits 10 n) = n :=
  Nat.ofDigitChars_ten_toDigits

/-- Only zero is written with a zero in front. -/
theorem head?_toDigits {n : Nat} (h : 0 < n) : (Nat.toDigits 10 n).head? ≠ some '0' := by
  induction n using Nat.strongRecOn with
  | ind n ih =>
    rw [Nat.toDigits_eq_if (by decide)]
    split
    · next hlt =>
      have hdigit : ∀ m < 10, 0 < m → m.digitChar ≠ '0' := by decide
      simpa using hdigit n hlt h
    · next hge =>
      rw [List.head?_append, Option.or_of_isSome (by simp)]
      exact ih (n / 10) (by omega) (by omega)

/-- What ends a number is no digit, no point and no exponent. -/
theorem Delimited.stops {rest : List Char} (h : Delimited rest) :
    ∀ c ∈ rest.head?, c.isDigit = false ∧ c ≠ '.' ∧ ¬ (c = 'e' ∨ c = 'E') := by
  intro c hc
  rcases h c hc with rfl | rfl | rfl | hblank
  · decide
  · decide
  · decide
  · simp only [isBlank, Bool.or_eq_true, decide_eq_true_eq] at hblank
    rcases hblank with ((rfl | rfl) | rfl) | rfl <;> decide

theorem readFraction_of_no_point {rest : List Char} (h : ∀ c ∈ rest.head?, c ≠ '.') :
    readFraction rest = some ([], rest) := by
  rcases rest with - | ⟨c, rest⟩
  · rfl
  · rw [readFraction]
    exact fun _ heq => h c rfl (List.cons.inj heq).1

theorem readExponent_of_delimited {rest : List Char} (h : Delimited rest) :
    readExponent rest = some ([], rest) := by
  rcases rest with - | ⟨c, rest⟩
  · rfl
  · obtain ⟨-, -, hexponent⟩ := h.stops c rfl
    rw [readExponent, if_neg hexponent]

/-- Digits end before the first character that is none. -/
theorem span_digits {digits rest : List Char} (hdigits : ∀ c ∈ digits, c.isDigit = true)
    (hrest : ∀ c ∈ rest.head?, c.isDigit = false) :
    (digits ++ rest).takeWhile Char.isDigit = digits ∧
      (digits ++ rest).dropWhile Char.isDigit = rest := by
  rw [List.takeWhile_append_of_pos hdigits, List.dropWhile_append_of_pos hdigits]
  rcases rest with - | ⟨c, rest⟩
  · simp
  · simp [hrest c rfl]

/-- Written digits are read as an integer, where a minus sign has stood as its negative. -/
theorem readMagnitude_toDigits {negative : Bool} {n : Nat} (hzero : ¬ (negative = true ∧ n = 0))
    {rest : List Char} (hrest : Delimited rest) :
    readMagnitude negative (Nat.toDigits 10 n ++ rest) =
      some (.integer (if negative then -(n : Int) else n), rest) := by
  obtain ⟨htake, hdrop⟩ := span_digits (digits_toDigits n).2 fun c hc => (hrest.stops c hc).1
  -- the digits are not empty, and no zero leads longer ones
  have hlead : ¬ ((Nat.toDigits 10 n).isEmpty = true ∨
      (Nat.toDigits 10 n).head? = some '0' ∧ 1 < (Nat.toDigits 10 n).length) := by
    rintro (hempty | ⟨hhead, hlong⟩)
    · simp at hempty
    · rcases Nat.eq_zero_or_pos n with rfl | hpos
      · simp at hlong
      · exact head?_toDigits hpos hhead
  have hwhole : (negative && n == 0) = false := by
    rcases negative with - | - <;> simp_all
  rw [readMagnitude, htake, hdrop, if_neg hlead,
    readFraction_of_no_point fun c hc => (hrest.stops c hc).2.1]
  simp [readExponent_of_delimited hrest, decimalNumber_toDigits, hwhole]

/-- What starts with a digit has no minus sign. -/
theorem readNumber_digits {digits : List Char} (h : Digits digits) (rest : List Char) :
    readNumber (digits ++ rest) = readMagnitude false (digits ++ rest) := by
  rw [readNumber]
  intro tail heq
  obtain ⟨c, more, rfl, hc⟩ := h.eq_cons
  rw [(List.cons.inj heq).1] at hc
  exact absurd hc (by decide)

/-- **A written integer is read back.** -/
theorem readNumber_decimalDigits (value : Int) {rest : List Char} (hrest : Delimited rest) :
    readNumber (decimalDigits value ++ rest) = some (.integer value, rest) := by
  rcases value with n | n
  · rw [decimalDigits, readNumber_digits (digits_toDigits n),
      readMagnitude_toDigits (by simp) hrest]
    simp
  · rw [decimalDigits, List.cons_append, readNumber, readMagnitude_toDigits (by simp) hrest]
    simp [Int.negSucc_eq]

/-! ### Decimals -/

/-- What may stand after the whole part of a number: nothing, or a point and digits. -/
inductive Fraction : List Char → Prop
  | none : Fraction []
  | some {digits : List Char} (h : Digits digits) : Fraction ('.' :: digits)

/-- What may stand at the end of a number: nothing, or a power of ten. -/
inductive Exponent : List Char → Prop
  | none : Exponent []
  | some {mark : Char} {sign digits : List Char} (hmark : mark = 'e' ∨ mark = 'E')
      (hsign : sign ∈ [[], ['+'], ['-']]) (h : Digits digits) :
      Exponent (mark :: (sign ++ digits))

/-- A number that is no integer, by its parts: it has a fraction or an exponent, or
it is minus zero. -/
structure Decimal where
  negative : Bool
  digits : List Char
  fraction : List Char
  exponent : List Char
  areDigits : Digits digits
  /-- No zero leads other digits. -/
  unpadded : digits.head? = some '0' → digits = ['0']
  isFraction : Fraction fraction
  isExponent : Exponent exponent
  notInteger : fraction ≠ [] ∨ exponent ≠ [] ∨ negative = true ∧ digits = ['0']

namespace Decimal

/-- A decimal as it is written. -/
def chars (d : Decimal) : List Char :=
  (if d.negative then ['-'] else []) ++ d.digits ++ d.fraction ++ d.exponent

def text (d : Decimal) : String := String.ofList d.chars

end Decimal

/-- An exponent starts with its mark, and so with no digit and no point. -/
theorem Exponent.head {exponent rest : List Char} (h : Exponent exponent) (hrest : Delimited rest) :
    ∀ c ∈ (exponent ++ rest).head?, c.isDigit = false ∧ c ≠ '.' := by
  cases h with
  | none => exact fun c hc => ⟨(hrest.stops c hc).1, (hrest.stops c hc).2.1⟩
  | some hmark =>
    rintro c ⟨⟩
    rcases hmark with rfl | rfl <;> decide

/-- A fraction starts with its point, and so with no digit. -/
theorem Fraction.head {fraction rest : List Char} (h : Fraction fraction)
    (hrest : ∀ c ∈ rest.head?, c.isDigit = false) :
    ∀ c ∈ (fraction ++ rest).head?, c.isDigit = false := by
  cases h with
  | none => exact hrest
  | some => rintro c ⟨⟩; decide

theorem readFraction_append {fraction rest : List Char} (h : Fraction fraction)
    (hrest : ∀ c ∈ rest.head?, c.isDigit = false ∧ c ≠ '.') :
    readFraction (fraction ++ rest) = some (fraction, rest) := by
  cases h with
  | none => exact readFraction_of_no_point fun c hc => (hrest c hc).2
  | @some digits h =>
    obtain ⟨htake, hdrop⟩ := span_digits h.2 fun c hc => (hrest c hc).1
    simp only [List.cons_append, readFraction, htake, hdrop, List.isEmpty_iff, h.1, if_false]

/-- A sign ends before the first digit. -/
theorem span_sign {sign digits : List Char} (hsign : sign ∈ [[], ['+'], ['-']])
    (hdigits : Digits digits) (rest : List Char) :
    (sign ++ (digits ++ rest)).takeWhile (fun c => c = '+' || c = '-') = sign ∧
      (sign ++ (digits ++ rest)).dropWhile (fun c => c = '+' || c = '-') = digits ++ rest := by
  obtain ⟨c, tail, rfl, hdigit⟩ := hdigits.eq_cons
  have hc : (c = '+' || c = '-') = false := by
    refine Bool.eq_false_iff.mpr fun h => ?_
    simp only [Bool.or_eq_true, decide_eq_true_eq] at h
    rcases h with rfl | rfl <;> exact absurd hdigit (by decide)
  have hspan : ∀ c ∈ sign, (c = '+' || c = '-') = true := by
    simp only [List.mem_cons, List.not_mem_nil, or_false] at hsign
    rcases hsign with rfl | rfl | rfl <;> simp
  rw [List.takeWhile_append_of_pos hspan, List.dropWhile_append_of_pos hspan]
  simp [hc]

theorem readExponent_append {exponent rest : List Char} (h : Exponent exponent)
    (hrest : Delimited rest) : readExponent (exponent ++ rest) = some (exponent, rest) := by
  cases h with
  | none => exact readExponent_of_delimited hrest
  | @some mark sign digits hmark hsign h =>
    obtain ⟨htakeSign, hdropSign⟩ := span_sign hsign h rest
    obtain ⟨htake, hdrop⟩ := span_digits h.2 fun c hc => (hrest.stops c hc).1
    have hlength : ¬ 1 < sign.length := by
      simp only [List.mem_cons, List.not_mem_nil, or_false] at hsign
      rcases hsign with rfl | rfl | rfl <;> simp
    simp only [List.cons_append, List.append_assoc, readExponent, hmark, if_true, htakeSign,
      hdropSign, htake, hdrop, List.isEmpty_iff, h.1, hlength, or_self, if_false]

namespace Decimal

variable (d : Decimal) {rest : List Char}

/-- Without its sign, a decimal is not taken for an integer. -/
theorem readMagnitude_append (hrest : Delimited rest) :
    readMagnitude d.negative (d.digits ++ (d.fraction ++ (d.exponent ++ rest))) =
      some (.decimal d.text, rest) := by
  have hafter := d.isExponent.head hrest
  obtain ⟨htake, hdrop⟩ :=
    span_digits d.areDigits.2 (d.isFraction.head fun c hc => (hafter c hc).1)
  have hlead : ¬ (d.digits.isEmpty = true ∨
      d.digits.head? = some '0' ∧ 1 < d.digits.length) := by
    rintro (hempty | ⟨hhead, hlong⟩)
    · exact d.areDigits.1 (List.isEmpty_iff.mp hempty)
    · rw [d.unpadded hhead] at hlong
      exact absurd hlong (by decide)
  have hwhole : (d.fraction.isEmpty && d.exponent.isEmpty &&
      !(d.negative && decimalNumber d.digits == 0)) = false := by
    rcases d.notInteger with hne | hne | ⟨hnegative, hdigits⟩
    · simp [hne]
    · simp [hne]
    · simp [hnegative, hdigits, decimalNumber]
  rw [readMagnitude, htake, hdrop, if_neg hlead, readFraction_append d.isFraction hafter]
  simp only [Option.bind_eq_bind, Option.bind_some, readExponent_append d.isExponent hrest, hwhole]
  rfl

/-- A decimal starts with a digit or a minus sign. -/
theorem chars_eq_cons : ∃ c tail, d.chars = c :: tail ∧ (c.isDigit = true ∨ c = '-') := by
  obtain ⟨c, tail, hdigits, hc⟩ := d.areDigits.eq_cons
  rw [chars, hdigits]
  cases d.negative with
  | true => exact ⟨'-', _, rfl, Or.inr rfl⟩
  | false => exact ⟨c, _, rfl, Or.inl hc⟩

/-- **A number that is no integer is read as its text.** -/
theorem readNumber_append (hrest : Delimited rest) :
    readNumber (d.chars ++ rest) = some (.decimal d.text, rest) := by
  have hread := d.readMagnitude_append hrest
  simp only [chars, List.append_assoc]
  cases hnegative : d.negative with
  | true =>
    rw [hnegative] at hread
    exact hread
  | false =>
    rw [hnegative] at hread
    exact (readNumber_digits d.areDigits _).trans hread

end Decimal

/-! ### Spellings -/

/-- Only blanks. -/
def Blanks (cs : List Char) : Prop := ∀ c ∈ cs, isBlank c = true

mutual

/-- `Spells json cs`: the characters `cs` are a way to write `json`. -/
inductive Spells : Json → List Char → Prop
  | null : Spells .null ['n', 'u', 'l', 'l']
  | boolean (value : Bool) : Spells (.boolean value) (booleanChars value)
  | integer (value : Int) : Spells (.number (.integer value)) (decimalDigits value)
  | decimal (d : Decimal) : Spells (.number (.decimal d.text)) d.chars
  | string (text : Option String) : Spells (.string text) (quoted text)
  | emptyArray : Spells (.array []) ['[', ']']
  | array {items : List Json} {cs : List Char} (h : SpellsItems items cs) :
      Spells (.array items) ('[' :: cs)
  | emptyObject : Spells (.object []) ['{', '}']
  | object {members : List (Option String × Json)} {cs : List Char}
      (h : SpellsMembers members cs) : Spells (.object members) ('{' :: cs)

/-- Items with commas between them, and the closing bracket. -/
inductive SpellsItems : List Json → List Char → Prop
  | last {item : Json} {before cs after : List Char} (hbefore : Blanks before)
      (h : Spells item cs) (hafter : Blanks after) :
      SpellsItems [item] (before ++ (cs ++ (after ++ [']'])))
  | cons {item : Json} {items : List Json} {before cs more : List Char} (hbefore : Blanks before)
      (h : Spells item cs) (hmore : SpellsItems items more) :
      SpellsItems (item :: items) (before ++ (cs ++ ',' :: more))

/-- Members with commas between them, and the closing brace. -/
inductive SpellsMembers : List (Option String × Json) → List Char → Prop
  | last {name : Option String} {value : Json} {before between cs after : List Char}
      (hbefore : Blanks before) (hbetween : Blanks between) (h : Spells value cs)
      (hafter : Blanks after) :
      SpellsMembers [(name, value)]
        (before ++ (quoted name ++ ':' :: (between ++ (cs ++ (after ++ ['}'])))))
  | cons {name : Option String} {value : Json} {members : List (Option String × Json)}
      {before between cs more : List Char} (hbefore : Blanks before) (hbetween : Blanks between)
      (h : Spells value cs) (hmore : SpellsMembers members more) :
      SpellsMembers ((name, value) :: members)
        (before ++ (quoted name ++ ':' :: (between ++ (cs ++ ',' :: more))))

end

/-! ### Blanks in front -/

theorem skipBlanks_append {before : List Char} (h : Blanks before) (cs : List Char) :
    skipBlanks (before ++ cs) = skipBlanks cs :=
  List.dropWhile_append_of_pos h

theorem skipBlanks_cons {c : Char} (h : isBlank c = false) (cs : List Char) :
    skipBlanks (c :: cs) = c :: cs := by
  simp [skipBlanks, h]

theorem skipBlanks_skipBlanks (cs : List Char) : skipBlanks (skipBlanks cs) = skipBlanks cs :=
  List.dropWhile_idempotent isBlank cs

/-- A value is read past the blanks in front of it. -/
theorem readValue_skipBlanks (steps : Nat) (cs : List Char) :
    readValue steps (skipBlanks cs) = readValue steps cs := by
  cases steps with
  | zero => rfl
  | succ steps => rw [readValue, readValue, skipBlanks_skipBlanks]

theorem readItems_skipBlanks (steps : Nat) (cs : List Char) :
    readItems steps (skipBlanks cs) = readItems steps cs := by
  cases steps with
  | zero => rfl
  | succ steps => rw [readItems, readItems, readValue_skipBlanks]

theorem readMembers_skipBlanks (steps : Nat) (cs : List Char) :
    readMembers steps (skipBlanks cs) = readMembers steps cs := by
  cases steps with
  | zero => rfl
  | succ steps => rw [readMembers, readMembers, skipBlanks_skipBlanks]

/-- A written integer starts with a digit or a minus sign. -/
theorem decimalDigits_eq_cons (value : Int) :
    ∃ c tail, decimalDigits value = c :: tail ∧ (c.isDigit = true ∨ c = '-') := by
  rcases value with n | n
  · obtain ⟨c, tail, heq, hc⟩ := (digits_toDigits n).eq_cons
    exact ⟨c, tail, heq, Or.inl hc⟩
  · exact ⟨'-', _, rfl, Or.inr rfl⟩

theorem quoted_eq_cons (text : Option String) : ∃ tail, quoted text = '"' :: tail := by
  cases text with
  | none => exact ⟨_, rfl⟩
  | some text => exact ⟨_, rfl⟩

/-- What a number starts with is no blank and nothing that ends a list. -/
theorem head_number {c : Char} (hc : c.isDigit = true ∨ c = '-') :
    isBlank c = false ∧ c ≠ ']' ∧ c ≠ '}' := by
  refine ⟨Bool.eq_false_iff.mpr fun hblank => ?_, ?_, ?_⟩
  · simp only [isBlank, Bool.or_eq_true, decide_eq_true_eq] at hblank
    rcases hblank with ((rfl | rfl) | rfl) | rfl <;> revert hc <;> decide
  · rintro rfl; revert hc; decide
  · rintro rfl; revert hc; decide

/-- A spelling starts with no blank and with nothing that ends a list. -/
theorem Spells.head {json : Json} {cs : List Char} (h : Spells json cs) :
    ∃ c tail, cs = c :: tail ∧ isBlank c = false ∧ c ≠ ']' ∧ c ≠ '}' := by
  cases h with
  | null => exact ⟨_, _, rfl, by decide⟩
  | boolean value => cases value <;> exact ⟨_, _, rfl, by decide⟩
  | integer value =>
    obtain ⟨c, tail, heq, hc⟩ := decimalDigits_eq_cons value
    exact ⟨c, tail, heq, head_number hc⟩
  | decimal d =>
    obtain ⟨c, tail, heq, hc⟩ := d.chars_eq_cons
    exact ⟨c, tail, heq, head_number hc⟩
  | string text =>
    obtain ⟨tail, heq⟩ := quoted_eq_cons text
    exact ⟨_, tail, heq, by decide⟩
  | emptyArray => exact ⟨_, _, rfl, by decide⟩
  | array h => exact ⟨_, _, rfl, by decide⟩
  | emptyObject => exact ⟨_, _, rfl, by decide⟩
  | object h => exact ⟨_, _, rfl, by decide⟩

/-- Items start with no closing bracket. -/
theorem SpellsItems.head {items : List Json} {cs : List Char} (h : SpellsItems items cs)
    (rest tail : List Char) : skipBlanks (cs ++ rest) ≠ ']' :: tail := by
  intro heq
  cases h with
  | last hbefore h hafter =>
    obtain ⟨c, _, rfl, hblank, hc, -⟩ := h.head
    rw [List.append_assoc, skipBlanks_append hbefore, List.cons_append, List.cons_append,
      skipBlanks_cons hblank] at heq
    exact hc (List.cons.inj heq).1
  | cons hbefore h hmore =>
    obtain ⟨c, _, rfl, hblank, hc, -⟩ := h.head
    rw [List.append_assoc, skipBlanks_append hbefore, List.cons_append, List.cons_append,
      skipBlanks_cons hblank] at heq
    exact hc (List.cons.inj heq).1

/-- Members start with the mark of a name, and so with no closing brace. -/
theorem SpellsMembers.head {members : List (Option String × Json)} {cs : List Char}
    (h : SpellsMembers members cs) (rest tail : List Char) :
    skipBlanks (cs ++ rest) ≠ '}' :: tail := by
  intro heq
  cases h with
  | @last name _ _ _ _ _ hbefore =>
    obtain ⟨_, hname⟩ := quoted_eq_cons name
    rw [List.append_assoc, skipBlanks_append hbefore, hname, List.cons_append, List.cons_append,
      skipBlanks_cons (by decide)] at heq
    exact absurd (List.cons.inj heq).1 (by decide)
  | @cons name _ _ _ _ _ _ hbefore =>
    obtain ⟨_, hname⟩ := quoted_eq_cons name
    rw [List.append_assoc, skipBlanks_append hbefore, hname, List.cons_append, List.cons_append,
      skipBlanks_cons (by decide)] at heq
    exact absurd (List.cons.inj heq).1 (by decide)

/-! ### Reading a spelling -/

theorem delimited_cons {c : Char} (h : c = ',' ∨ c = ']' ∨ c = '}' ∨ isBlank c = true)
    (rest : List Char) : Delimited (c :: rest) := by
  intro d hd
  cases Option.mem_some.mp hd
  exact h

/-- Blanks end a number, and so does what comes after them. -/
theorem delimited_append {after : List Char} (h : Blanks after) {rest : List Char}
    (hrest : Delimited rest) : Delimited (after ++ rest) := by
  cases after with
  | nil => exact hrest
  | cons c after => exact delimited_cons (Or.inr (Or.inr (Or.inr (h c List.mem_cons_self)))) _

/-- What starts like a number is read as a number. -/
theorem readValue_number {steps : Nat} {c : Char} {tail : List Char}
    (hc : c.isDigit = true ∨ c = '-') :
    readValue (steps + 1) (c :: tail) =
      (readNumber (c :: tail)).map fun read => (.number read.1, read.2) := by
  rw [readValue, skipBlanks_cons (head_number hc).1]
  split
  all_goals first
    | rfl
    | rename_i heq
      obtain ⟨rfl, -⟩ := List.cons.inj heq
      exact absurd hc (by decide)

/-- What follows an opening bracket, and does not close it, is read as items. -/
theorem readValue_items (steps : Nat) {cs : List Char} (h : ∀ tail, skipBlanks cs ≠ ']' :: tail) :
    readValue (steps + 1) ('[' :: cs) =
      (readItems steps cs).map fun read => (.array read.1, read.2) := by
  rw [← readItems_skipBlanks]
  simp only [readValue, skipBlanks_cons (show isBlank '[' = false by decide)]

/-- What follows an opening brace, and does not close it, is read as members. -/
theorem readValue_members (steps : Nat) {cs : List Char}
    (h : ∀ tail, skipBlanks cs ≠ '}' :: tail) :
    readValue (steps + 1) ('{' :: cs) =
      (readMembers steps cs).map fun read => (.object read.1, read.2) := by
  rw [← readMembers_skipBlanks]
  simp only [readValue, skipBlanks_cons (show isBlank '{' = false by decide)]

mutual

/-- **The reader reads every spelling of a value**, and stops after it.  Steps
are counted by characters: an opening bracket costs two. -/
theorem readValue_of_spells {json : Json} {cs : List Char} (h : Spells json cs) :
    ∀ {steps : Nat} {rest : List Char}, 2 * cs.length ≤ steps → Delimited rest →
      readValue steps (cs ++ rest) = some (json, rest) := by
  intro steps rest hsteps hrest
  -- a spelling has a character, and so there is a step to take
  obtain ⟨c, tail, hhead, -⟩ := h.head
  obtain ⟨steps, rfl⟩ : ∃ n, steps = n + 1 := by
    refine Nat.exists_eq_add_of_le' ?_
    have : cs.length = tail.length + 1 := by rw [hhead, List.length_cons]
    omega
  -- how the value starts matters no more
  clear hhead
  cases h with
  | null => rfl
  | boolean value => cases value <;> rfl
  | integer value =>
    obtain ⟨c, tail, heq, hc⟩ := decimalDigits_eq_cons value
    have hread := readNumber_decimalDigits value hrest
    rw [heq, List.cons_append] at hread ⊢
    rw [readValue_number hc, hread]
    rfl
  | decimal d =>
    obtain ⟨c, tail, heq, hc⟩ := d.chars_eq_cons
    have hread := d.readNumber_append hrest
    rw [heq, List.cons_append] at hread ⊢
    rw [readValue_number hc, hread]
    rfl
  | string text =>
    obtain ⟨cs, heq, hread⟩ := readString_quoted text rest
    rw [heq, readValue, skipBlanks_cons (by decide)]
    simp only [hread, Option.map_some]
  | emptyArray => rfl
  | @array items cs h =>
    rw [List.length_cons] at hsteps
    have hread : readItems steps (cs ++ rest) = some (items, rest) :=
      readItems_of_spells h (by omega)
    rw [List.cons_append, readValue_items steps (h.head rest), hread]
    rfl
  | emptyObject => rfl
  | @object members cs h =>
    rw [List.length_cons] at hsteps
    have hread : readMembers steps (cs ++ rest) = some (members, rest) :=
      readMembers_of_spells h (by omega)
    rw [List.cons_append, readValue_members steps (h.head rest), hread]
    rfl

theorem readItems_of_spells {items : List Json} {cs : List Char} (h : SpellsItems items cs) :
    ∀ {steps : Nat} {rest : List Char}, 2 * cs.length + 1 ≤ steps →
      readItems steps (cs ++ rest) = some (items, rest) := by
  intro steps rest hsteps
  obtain ⟨steps, rfl⟩ : ∃ n, steps = n + 1 := Nat.exists_eq_add_of_le' (by omega)
  cases h with
  | @last item before cs after hbefore h hafter =>
    simp only [List.length_append] at hsteps
    have hread : readValue steps (cs ++ (after ++ ']' :: rest)) = some (item, after ++ ']' :: rest) :=
      readValue_of_spells h (by omega) (delimited_append hafter (delimited_cons (by simp) rest))
    rw [readItems, ← readValue_skipBlanks]
    simp only [List.append_assoc, skipBlanks_append hbefore, List.cons_append, List.nil_append,
      readValue_skipBlanks, hread, skipBlanks_append hafter]
    rfl
  | @cons item items before cs more hbefore h hmore =>
    simp only [List.length_append, List.length_cons] at hsteps
    have hread : readValue steps (cs ++ ',' :: (more ++ rest)) = some (item, ',' :: (more ++ rest)) :=
      readValue_of_spells h (by omega) (delimited_cons (by simp) _)
    have hmore : readItems steps (more ++ rest) = some (items, rest) :=
      readItems_of_spells hmore (by omega)
    rw [readItems, ← readValue_skipBlanks]
    simp only [List.append_assoc, skipBlanks_append hbefore, List.cons_append,
      readValue_skipBlanks, hread]
    show (readItems steps (more ++ rest)).map (fun read => (item :: read.1, read.2)) = _
    rw [hmore]
    rfl

theorem readMembers_of_spells {members : List (Option String × Json)} {cs : List Char}
    (h : SpellsMembers members cs) :
    ∀ {steps : Nat} {rest : List Char}, 2 * cs.length + 1 ≤ steps →
      readMembers steps (cs ++ rest) = some (members, rest) := by
  intro steps rest hsteps
  obtain ⟨steps, rfl⟩ : ∃ n, steps = n + 1 := Nat.exists_eq_add_of_le' (by omega)
  cases h with
  | @last name value before between cs after hbefore hbetween h hafter =>
    simp only [List.length_append, List.length_cons] at hsteps
    have hread : readValue steps (between ++ (cs ++ (after ++ '}' :: rest))) =
        some (value, after ++ '}' :: rest) := by
      rw [← readValue_skipBlanks, skipBlanks_append hbetween, readValue_skipBlanks]
      exact readValue_of_spells h (by omega)
        (delimited_append hafter (delimited_cons (by simp) rest))
    obtain ⟨tail, heq, hname⟩ :=
      readString_quoted name (':' :: (between ++ (cs ++ (after ++ '}' :: rest))))
    rw [readMembers]
    simp only [List.append_assoc, skipBlanks_append hbefore, List.cons_append, List.nil_append]
    rw [heq, skipBlanks_cons (by decide)]
    simp only [hname]
    rw [skipBlanks_cons (by decide)]
    simp only [hread, skipBlanks_append hafter]
    rfl
  | @cons name value members before between cs more hbefore hbetween h hmore =>
    simp only [List.length_append, List.length_cons] at hsteps
    have hread : readValue steps (between ++ (cs ++ ',' :: (more ++ rest))) =
        some (value, ',' :: (more ++ rest)) := by
      rw [← readValue_skipBlanks, skipBlanks_append hbetween, readValue_skipBlanks]
      exact readValue_of_spells h (by omega) (delimited_cons (by simp) _)
    have hmore : readMembers steps (more ++ rest) = some (members, rest) :=
      readMembers_of_spells hmore (by omega)
    obtain ⟨tail, heq, hname⟩ :=
      readString_quoted name (':' :: (between ++ (cs ++ ',' :: (more ++ rest))))
    rw [readMembers]
    simp only [List.append_assoc, skipBlanks_append hbefore, List.cons_append]
    rw [heq, skipBlanks_cons (by decide)]
    simp only [hname]
    rw [skipBlanks_cons (by decide)]
    simp only [hread]
    show (readMembers steps (more ++ rest)).map
      (fun read => ((name, value) :: read.1, read.2)) = _
    rw [hmore]
    rfl

end

/-- Blanks at the end of a text are passed over. -/
theorem skipBlanks_eq_nil {after : List Char} (h : Blanks after) : skipBlanks after = [] := by
  rw [← List.append_nil after, skipBlanks_append h]
  rfl

/-- **A text that spells a value is read as that value**, also with blanks after it. -/
theorem parse_of_spells {json : Json} {text : String} {cs after : List Char} (h : Spells json cs)
    (hafter : Blanks after) (htext : text.toList = cs ++ after) : parse text = some json := by
  have hread : readValue (2 * (cs ++ after).length + 2) (cs ++ after) = some (json, after) := by
    have hend : Delimited (after ++ []) :=
      delimited_append hafter fun c hc => absurd hc (by simp)
    rw [List.append_nil] at hend
    refine readValue_of_spells h ?_ hend
    rw [List.length_append]
    omega
  rw [parse, htext]
  simp only [hread, skipBlanks_eq_nil hafter, List.isEmpty_nil, if_true]

/-! ### What the printer spells without blanks -/

/-- A decimal is printed as its text. -/
theorem Decimal.spells_text (d : Decimal) : Spells (.number (.decimal d.text)) d.text.toList := by
  have hspells := Spells.decimal d
  rwa [← String.toList_ofList (l := d.chars), ← Decimal.text] at hspells

/-- Every number in a value is an integer or a decimal. -/
inductive Writable : Json → Prop
  | null : Writable .null
  | boolean (value : Bool) : Writable (.boolean value)
  | integer (value : Int) : Writable (.number (.integer value))
  | decimal (d : Decimal) : Writable (.number (.decimal d.text))
  | string (text : Option String) : Writable (.string text)
  | array {items : List Json} (h : ∀ item ∈ items, Writable item) : Writable (.array items)
  | object {members : List (Option String × Json)} (h : ∀ member ∈ members, Writable member.2) :
      Writable (.object members)

theorem blanks_nil : Blanks [] := by
  simp [Blanks]

/-- Items without blanks. -/
theorem spellsItems_compact {items : List Json} (hne : items ≠ [])
    (h : ∀ item ∈ items, Spells item item.compact) :
    SpellsItems items (compactItems items ++ [']']) := by
  induction items with
  | nil => exact absurd rfl hne
  | cons item rest ih =>
    cases rest with
    | nil => exact SpellsItems.last blanks_nil (h item List.mem_cons_self) blanks_nil
    | cons next rest =>
      have hrest := ih (by simp) fun item hmem => h item (List.mem_cons_of_mem _ hmem)
      have hspells := SpellsItems.cons blanks_nil (h item List.mem_cons_self) hrest
      simpa [compactItems] using hspells

/-- Members without blanks. -/
theorem spellsMembers_compact {members : List (Option String × Json)} (hne : members ≠ [])
    (h : ∀ member ∈ members, Spells member.2 member.2.compact) :
    SpellsMembers members (compactMembers members ++ ['}']) := by
  induction members with
  | nil => exact absurd rfl hne
  | cons member rest ih =>
    obtain ⟨name, value⟩ := member
    have hvalue : Spells value value.compact := h (name, value) List.mem_cons_self
    cases rest with
    | nil =>
      have hspells : SpellsMembers [(name, value)] _ :=
        .last blanks_nil blanks_nil hvalue blanks_nil
      simpa [compactMembers] using hspells
    | cons next rest =>
      have hrest := ih (by simp) fun member hmem => h member (List.mem_cons_of_mem _ hmem)
      have hspells : SpellsMembers ((name, value) :: next :: rest) _ :=
        .cons blanks_nil blanks_nil hvalue hrest
      simpa [compactMembers] using hspells

theorem spells_compact {json : Json} (h : Writable json) : Spells json json.compact := by
  induction h with
  | null => exact .null
  | boolean value => exact .boolean value
  | integer value => exact .integer value
  | decimal d => exact d.spells_text
  | string text => exact .string text
  | @array items _ ih =>
    cases items with
    | nil => exact .emptyArray
    | cons item rest => exact .array (spellsItems_compact (by simp) ih)
  | @object members _ ih =>
    cases members with
    | nil => exact .emptyObject
    | cons member rest => exact .object (spellsMembers_compact (by simp) ih)

/-- **Compact text is read back as the value that it was made from.** -/
theorem parse_toCompact {json : Json} (h : Writable json) : parse json.toCompact = some json := by
  refine parse_of_spells (spells_compact h) blanks_nil ?_
  rw [toCompact, String.toList_ofList, List.append_nil]

/-! ### What the printer spells over several lines -/

/-- A line break and an indent are blanks. -/
theorem blanks_newline (depth : Nat) : Blanks (newline depth) := by
  intro c hc
  rcases List.mem_cons.mp hc with rfl | hc
  · rfl
  · rw [List.eq_of_mem_replicate hc]
    rfl

/-- The blank between a colon and a value. -/
theorem blanks_space : Blanks [' '] := by
  simp [Blanks, isBlank]

/-- Items on lines of their own, and the bracket on a line after them. -/
theorem spellsItems_pretty (depth : Nat) {after : List Char} (hafter : Blanks after)
    {items : List Json} (hne : items ≠ [])
    (h : ∀ item ∈ items, Spells item (item.pretty depth)) :
    SpellsItems items (prettyItems depth items ++ after ++ [']']) := by
  induction items with
  | nil => exact absurd rfl hne
  | cons item rest ih =>
    have hitem : Spells item (item.pretty depth) := h item List.mem_cons_self
    cases rest with
    | nil =>
      have hspells := SpellsItems.last (blanks_newline depth) hitem hafter
      simpa [prettyItems] using hspells
    | cons next rest =>
      have hrest := ih (by simp) fun item hmem => h item (List.mem_cons_of_mem _ hmem)
      have hspells := SpellsItems.cons (blanks_newline depth) hitem hrest
      simpa [prettyItems] using hspells

/-- Members on lines of their own, and the brace on a line after them. -/
theorem spellsMembers_pretty (depth : Nat) {after : List Char} (hafter : Blanks after)
    {members : List (Option String × Json)} (hne : members ≠ [])
    (h : ∀ member ∈ members, Spells member.2 (member.2.pretty depth)) :
    SpellsMembers members (prettyMembers depth members ++ after ++ ['}']) := by
  induction members with
  | nil => exact absurd rfl hne
  | cons member rest ih =>
    obtain ⟨name, value⟩ := member
    have hvalue : Spells value (value.pretty depth) := h (name, value) List.mem_cons_self
    cases rest with
    | nil =>
      have hspells : SpellsMembers [(name, value)] _ :=
        .last (blanks_newline depth) blanks_space hvalue hafter
      simpa [prettyMembers] using hspells
    | cons next rest =>
      have hrest := ih (by simp) fun member hmem => h member (List.mem_cons_of_mem _ hmem)
      have hspells : SpellsMembers ((name, value) :: next :: rest) _ :=
        .cons (blanks_newline depth) blanks_space hvalue hrest
      simpa [prettyMembers] using hspells

/-- The induction is on the value, for every depth: items stand one level deeper. -/
theorem spells_pretty {json : Json} (h : Writable json) :
    ∀ depth, Spells json (json.pretty depth) := by
  induction h with
  | null => exact fun _ => .null
  | boolean value => exact fun _ => .boolean value
  | integer value => exact fun _ => .integer value
  | decimal d => exact fun _ => d.spells_text
  | string text => exact fun _ => .string text
  | @array items _ ih =>
    intro depth
    cases items with
    | nil => exact .emptyArray
    | cons item rest =>
      refine .array (spellsItems_pretty (depth + 1) (blanks_newline depth) (by simp) ?_)
      exact fun item hmem => ih item hmem (depth + 1)
  | @object members _ ih =>
    intro depth
    cases members with
    | nil => exact .emptyObject
    | cons member rest =>
      refine .object (spellsMembers_pretty (depth + 1) (blanks_newline depth) (by simp) ?_)
      exact fun member hmem => ih member hmem (depth + 1)

/-- **Text over several lines is read back as the value that it was made from**,
also with blanks after it. -/
theorem parse_toPretty {json : Json} (h : Writable json) {after : String}
    (hafter : Blanks after.toList) : parse (json.toPretty ++ after) = some json := by
  refine parse_of_spells (spells_pretty h 0) hafter ?_
  rw [toPretty, String.toList_append, String.toList_ofList]

end Json

end TenantRegistry
