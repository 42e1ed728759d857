/-
TenantRegistry/Proofs/Toml/Lines.lean

Lines of TOML are read back.

A document is read line by line, and a line by what it starts with: a bracket
opens a header, anything else is a key.  `Says` is what it takes for some
characters to be read as one line, whatever comes after them, so that a text
put together from such lines is read as the list of them
(`readLines_of_says`).  Headers and entries with plain keys are such lines, if
the value of the entry is read up to the end of its line (`ReadsAs`).
-/
import Mathlib.Data.List.Forall2
import TenantRegistry.Configuration
import TenantRegistry.Proofs.Toml.Quoting

namespace TenantRegistry

namespace Toml

variable {chars rest : List Char} {name : String}

/-! ### Keys -/

/-- A key that stands without quotes. -/
def Bare (name : String) : Prop := name ≠ "" ∧ name.toList.all isKeyChar = true

instance (name : String) : Decidable (Bare name) :=
  inferInstanceAs (Decidable (name ≠ "" ∧ name.toList.all isKeyChar = true))

theorem Bare.keyChar (h : Bare name) {c : Char} (hmem : c ∈ name.toList) : isKeyChar c = true :=
  List.all_eq_true.mp h.2 c hmem

/-- What a plain key starts with: a character with no other meaning at the start of a line. -/
theorem Bare.head (h : Bare name) : ∃ c cs, name.toList = c :: cs ∧ isBlank c = false ∧
    c ∉ ['\n', '\r', '[', '"', '\'', '#'] := by
  obtain ⟨c, cs, hcs⟩ : ∃ c cs, name.toList = c :: cs :=
    List.exists_cons_of_ne_nil fun hnil => h.1 (String.toList_eq_nil_iff.mp hnil)
  have hkey : isKeyChar c = true := h.keyChar (hcs ▸ List.mem_cons_self)
  have hother : c ∉ [' ', '\t', '\n', '\r', '[', '"', '\'', '#'] := by
    intro hmem
    simp only [List.mem_cons, List.not_mem_nil, or_false] at hmem
    rcases hmem with rfl | rfl | rfl | rfl | rfl | rfl | rfl | rfl <;> cases hkey
  simp only [List.mem_cons, List.not_mem_nil, or_false, not_or] at hother
  obtain ⟨hspace, htab, hother⟩ := hother
  refine ⟨c, cs, hcs, ?_, ?_⟩
  · rw [isBlank, decide_eq_false hspace, decide_eq_false htab]
    rfl
  · simpa only [List.mem_cons, List.not_mem_nil, or_false, not_or] using hother

/-- What opens something else than a plain key is not what the key starts with. -/
theorem Bare.ne_cons (h : Bare name) {d : Char}
    (hother : d ∈ ['\n', '\r', '[', '"', '\'', '#']) (rest tail : List Char) :
    name.toList ++ rest ≠ d :: tail := by
  obtain ⟨c, cs, hcs, -, hnot⟩ := h.head
  intro heq
  rw [hcs] at heq
  obtain rfl := (List.cons.inj heq).1
  exact hnot hother

/-- **A plain key is read up to what cannot be in a key.** -/
theorem readPath_of_bare (h : Bare name) {d e : Char} {tail : List Char}
    (hd : isKeyChar d = false) (hskip : skipBlanks (d :: rest) = e :: tail) (hdot : e ≠ '.')
    (parts : Nat) :
    readPath (parts + 1) (name.toList ++ d :: rest) = some ([name], e :: tail) := by
  obtain ⟨c, cs, hcs, hblank, -⟩ := h.head
  have htake : (name.toList ++ d :: rest).takeWhile isKeyChar = name.toList := by
    rw [List.takeWhile_append_of_pos fun _ => h.keyChar,
      List.takeWhile_cons_of_neg (Bool.eq_false_iff.mp hd), List.append_nil]
  have hdrop : (name.toList ++ d :: rest).dropWhile isKeyChar = d :: rest := by
    rw [List.dropWhile_append_of_pos fun _ => h.keyChar,
      List.dropWhile_cons_of_neg (Bool.eq_false_iff.mp hd)]
  have hread : readKey (name.toList ++ d :: rest) = some (name, d :: rest) := by
    rw [readKey.eq_3, htake, hdrop, String.ofList_toList, hcs]
    · rfl
    · exact h.ne_cons (by decide) _
    · exact h.ne_cons (by decide) _
  have hblanks : skipBlanks (name.toList ++ d :: rest) = name.toList ++ d :: rest := by
    rw [hcs]
    exact List.dropWhile_cons_of_neg (Bool.eq_false_iff.mp hblank)
  rw [readPath, hblanks, hread]
  dsimp only
  rw [hskip]
  split
  · next heq => exact absurd (List.cons.inj heq).1 hdot
  · rfl

/-- Nothing is passed over before a plain key. -/
theorem skipSpace_of_bare (h : Bare name) (rest : List Char) :
    skipSpace false (name.toList ++ rest) = name.toList ++ rest := by
  obtain ⟨c, cs, hcs, hblank, hother⟩ := h.head
  have hcomment : c ≠ '#' := by
    rintro rfl
    exact hother (by decide)
  rw [hcs, List.cons_append, skipSpace, if_neg Bool.false_ne_true, hblank,
    if_neg Bool.false_ne_true, if_neg hcomment]
  · rintro rfl
    exact hother (by decide)
  · rintro tail rfl
    exact absurd (by decide) hother

/-! ### Lines -/

/-- `Says chars line`: the characters are read as one line, perhaps after blank lines. -/
def Says (chars : List Char) (line : Line) : Prop :=
  ∀ rest, skipSpace false (chars ++ rest) ≠ [] ∧
    readLine (skipSpace false (chars ++ rest)) = some (line, rest)

variable {line : Line}

/-- A line says nothing without characters. -/
theorem Says.ne_nil (h : Says chars line) : chars ≠ [] := by
  rintro rfl
  exact (h []).1 rfl

/-- A line may come after a blank one. -/
theorem Says.after_blank (h : Says chars line) : Says ('\n' :: chars) line := h

/-- **A text that is put together from lines is read as these lines.** -/
theorem readLines_of_says {chunks : List (List Char)} {lines : List Line}
    (h : List.Forall₂ Says chunks lines) {steps : Nat} (hsteps : chunks.flatten.length < steps) :
    readLines steps chunks.flatten = some lines := by
  induction h generalizing steps with
  | nil =>
    obtain ⟨n, rfl⟩ := Nat.exists_eq_add_one_of_ne_zero (Nat.ne_of_gt hsteps)
    rfl
  | @cons chars line chunks lines hline _ ih =>
    have hlength := List.length_pos_iff.mpr hline.ne_nil
    obtain ⟨n, rfl⟩ := Nat.exists_eq_add_one_of_ne_zero (Nat.ne_of_gt (Nat.zero_lt_of_lt hsteps))
    obtain ⟨hne, hread⟩ := hline chunks.flatten
    rw [List.flatten_cons, List.length_append] at hsteps
    rw [List.flatten_cons, readLines]
    split
    · next hnil => exact absurd hnil hne
    · rw [hread]
      dsimp only
      rw [ih (by omega)]
      rfl

/-- A header line is read as a header. -/
theorem says_headerLine (h : Bare name) :
    Says (Configuration.headerLine name) (.header [name]) := by
  intro rest
  have hline : Configuration.headerLine name ++ rest =
      '[' :: (name.toList ++ ']' :: '\n' :: rest) := by
    simp [Configuration.headerLine]
  have hskip : skipSpace false ('[' :: (name.toList ++ ']' :: '\n' :: rest)) =
      '[' :: (name.toList ++ ']' :: '\n' :: rest) := rfl
  have hpath : readPath (maxDepth - 1) (name.toList ++ ']' :: '\n' :: rest) =
      some ([name], ']' :: '\n' :: rest) :=
    readPath_of_bare h (by decide) rfl (by decide) _
  rw [hline, hskip]
  refine ⟨nofun, ?_⟩
  rw [readLine.eq_2, hpath]
  · rfl
  · -- a second bracket would open the header of an array
    exact h.ne_cons (by decide) _

/-! ### Entries -/

/-- `ReadsAs chars value`: the characters are read as a value, up to the end of the line. -/
structure ReadsAs (chars : List Char) (value : Value) : Prop where
  unblank : ∀ rest, skipBlanks (chars ++ rest) = chars ++ rest
  read : ∀ depth steps rest,
    readValue depth (steps + 1) (chars ++ '\n' :: rest) = some (value, '\n' :: rest)

/-- **An entry is read as its key and its value.** -/
theorem says_entryLine (h : Bare name) {value : Value} (hvalue : ReadsAs chars value) :
    Says (Configuration.entryLine name chars) (.entry [name] value) := by
  intro rest
  have hline : Configuration.entryLine name chars ++ rest =
      name.toList ++ ' ' :: '=' :: ' ' :: (chars ++ '\n' :: rest) := by
    simp [Configuration.entryLine]
  have hpath : readPath (maxDepth - 1)
      (name.toList ++ ' ' :: '=' :: ' ' :: (chars ++ '\n' :: rest)) =
        some ([name], '=' :: ' ' :: (chars ++ '\n' :: rest)) :=
    readPath_of_bare h (by decide) rfl (by decide) _
  have hread : readValue (maxDepth - 1) (2 * (' ' :: (chars ++ '\n' :: rest)).length + 2)
      (skipBlanks (' ' :: (chars ++ '\n' :: rest))) = some (value, '\n' :: rest) := by
    rw [show skipBlanks (' ' :: (chars ++ '\n' :: rest)) = chars ++ '\n' :: rest from
      hvalue.unblank _]
    exact hvalue.read _ _ _
  rw [hline, skipSpace_of_bare h]
  refine ⟨by simp, ?_⟩
  rw [readLine.eq_3, hpath]
  · simp only [hread]
    rfl
  · exact fun _ => h.ne_cons (by decide) _ _
  · exact h.ne_cons (by decide) _

/-- A text in quotes starts with a mark. -/
theorem quote_eq_cons (text : String) :
    (∃ tail, quote text = '"' :: tail) ∨ ∃ tail, quote text = '\'' :: tail := by
  rw [quote]
  cases quotingOf text.toList with
  | basic => exact Or.inl ⟨_, rfl⟩
  | literal => exact Or.inr ⟨_, rfl⟩
  | basicLines => exact Or.inl ⟨_, rfl⟩
  | literalLines => exact Or.inr ⟨_, rfl⟩

/-- **A text in quotes is read as that text.** -/
theorem readsAs_quote (text : String) : ReadsAs (quote text) (.text text) where
  unblank rest := by
    rcases quote_eq_cons text with ⟨tail, htail⟩ | ⟨tail, htail⟩
    · rw [htail]
      rfl
    · rw [htail]
      rfl
  read depth steps rest := by
    have hread : readText (quote text ++ '\n' :: rest) = some (text.toList, '\n' :: rest) :=
      readText_quote text ⟨by simp, by simp⟩
    have hvalue : readValue depth (steps + 1) (quote text ++ '\n' :: rest) =
        (readText (quote text ++ '\n' :: rest)).map fun read =>
          (.text (String.ofList read.1), read.2) := by
      rcases quote_eq_cons text with ⟨tail, htail⟩ | ⟨tail, htail⟩
      · rw [htail, List.cons_append, readValue]
      · rw [htail, List.cons_append, readValue]
    rw [hvalue, hread, Option.map_some, String.ofList_toList]

/-- A truth value is read as a truth value. -/
theorem readsAs_boolean (value : Bool) : ReadsAs (toString value).toList (.boolean value) where
  unblank rest := by
    cases value <;> rfl
  read depth steps rest := by
    cases value <;> rfl

end Toml

end TenantRegistry
