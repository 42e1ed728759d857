/-
TenantRegistry/Proofs/Toml/Quoting.lean

Text in TOML is read back.

A text is written in one of four forms, the plainest that can hold it.  Basic
strings hold any text, because a character that cannot stand for itself has an
escape (`Spelling`).  Literal strings have no escapes, so a text has to fit
(`Quoting.Holds`), and the form that is chosen always does (`holds_quotingOf`).

In the forms of several lines a text may end with marks that stand for
themselves.  They and the closing marks make one run, which the reader takes at
once; so the induction along such a text stops two characters before its end.

Main result: `readText_quote`.
-/
import TenantRegistry.Toml.Text

namespace TenantRegistry

namespace Toml

variable {c : Char} {cs rest : List Char}

/-! ### Characters of basic strings -/

/-- `Spelling c cs`: the characters `cs` of a basic string stand for `c`. -/
inductive Spelling : Char → List Char → Prop
  /-- A character stands for itself. -/
  | plain {c : Char} (visible : isControl c = false) (mark : c ≠ '"') (slash : c ≠ '\\') :
      Spelling c [c]
  /-- A letter after a backslash. -/
  | letter {c letter : Char} (named : letterChar? letter = some c) : Spelling c ['\\', letter]
  /-- A code of four digits. -/
  | code {c x₁ x₂ x₃ x₄ : Char} (coded : codeChar? [x₁, x₂, x₃, x₄] = some c) :
      Spelling c ['\\', 'u', x₁, x₂, x₃, x₄]

/-- The digits of a control character are its code. -/
theorem codeChar?_upperDigits : ∀ n < 128,
    codeChar? ['0', '0', upperDigit (n / 16), upperDigit (n % 16)] = some (Char.ofNat n) := by
  decide

/-- **What is written for a character stands for it.** -/
theorem spelling_escapeChar (hmark : c ≠ '"') : Spelling c (escapeChar c) := by
  rw [escapeChar]
  split
  · next h => exact h ▸ .letter rfl
  split
  · next h => exact h ▸ .letter rfl
  split
  · next h => exact h ▸ .letter rfl
  split
  · next h => exact h ▸ .letter rfl
  split
  · next h =>
    subst h
    exact .letter rfl
  split
  · next hcontrol =>
    have hlow : c.toNat < 128 := by
      simp only [isControl, Bool.or_eq_true, Bool.and_eq_true, decide_eq_true_eq] at hcontrol
      omega
    refine .code ?_
    rw [codeChar?_upperDigits c.toNat hlow, Char.ofNat_toNat]
  · next hslash hcontrol => exact .plain (Bool.eq_false_iff.mpr hcontrol) hmark hslash

/-- A letter that names a character is none of those with another meaning. -/
theorem letter_of_named {letter : Char} (h : letterChar? letter = some c) :
    letter ≠ 'u' ∧ letter ≠ 'U' ∧ isBlank letter = false ∧ letter ≠ '\n' ∧ letter ≠ '\r' := by
  unfold letterChar? at h
  split at h <;> first | decide | cases h

namespace Spelling

/-- What stands for a character starts neither with a mark nor with a line break. -/
theorem head (h : Spelling c cs) : ∃ d tail, cs = d :: tail ∧ d ≠ '"' ∧ d ≠ '\n' ∧ d ≠ '\r' := by
  cases h with
  | plain visible mark slash =>
    refine ⟨c, [], rfl, mark, ?_, ?_⟩
    · rintro rfl
      cases visible
    · rintro rfl
      cases visible
  | letter named => exact ⟨'\\', _, rfl, by decide, by decide, by decide⟩
  | code coded => exact ⟨'\\', _, rfl, by decide, by decide, by decide⟩

/-- A basic string of one line is read character by character. -/
theorem readBasic (h : Spelling c cs) (rest : List Char) :
    readBasic (cs ++ rest) = (Toml.readBasic rest).map (withChar c) := by
  cases h with
  | plain visible mark slash =>
    rw [List.singleton_append, Toml.readBasic]
    · simp [visible, slash]
    · exact mark
    · exact fun _ _ _ _ _ hslash => absurd hslash slash
    · exact fun _ _ _ _ _ _ _ _ _ hslash => absurd hslash slash
    · exact fun _ _ hslash => absurd hslash slash
  | letter named =>
    obtain ⟨hu, hU, -⟩ := letter_of_named named
    rw [List.cons_append, List.singleton_append, Toml.readBasic, named]
    · rfl
    · exact fun _ _ _ _ _ hletter => absurd hletter hu
    · exact fun _ _ _ _ _ _ _ _ _ hletter => absurd hletter hU
  | code coded =>
    show Toml.readBasic ('\\' :: 'u' :: _ :: _ :: _ :: _ :: rest) = _
    rw [Toml.readBasic, coded]
    rfl

/-- So is a basic string of several lines. -/
theorem readBasicLines (h : Spelling c cs) (rest : List Char) :
    readBasicLines false (cs ++ rest) = (Toml.readBasicLines false rest).map (withChar c) := by
  cases h with
  | plain visible mark slash =>
    rw [List.singleton_append, Toml.readBasicLines]
    · simp [visible, slash]
    · exact fun _ hmark => absurd hmark mark
    · exact fun _ hmark => absurd hmark mark
    · exact fun _ hmark => absurd hmark mark
    · exact fun _ _ _ _ _ hslash => absurd hslash slash
    · exact fun _ _ _ _ _ _ _ _ _ hslash => absurd hslash slash
    · exact fun _ _ hslash => absurd hslash slash
    · rintro _ rfl
      cases visible
    · rintro rfl
      cases visible
  | @letter letter named =>
    obtain ⟨hu, hU, hblank, hn, hr⟩ := letter_of_named named
    have hends : endsLine (letter :: rest) = false := by
      rw [endsLine, List.dropWhile_cons, hblank]
      split
      · next heq => exact absurd (List.cons.inj heq).1 hn
      · next heq => exact absurd (List.cons.inj heq).1 hr
      · rfl
    rw [List.cons_append, List.singleton_append, Toml.readBasicLines, hends, named]
    · rfl
    · exact fun _ _ _ _ _ hletter => absurd hletter hu
    · exact fun _ _ _ _ _ _ _ _ _ hletter => absurd hletter hU
  | code coded =>
    show Toml.readBasicLines false ('\\' :: 'u' :: _ :: _ :: _ :: _ :: rest) = _
    rw [Toml.readBasicLines, coded]
    rfl

end Spelling

/-! ### Basic strings -/

theorem spelling_mark : Spelling '"' ['\\', '"'] := .letter rfl

theorem spelling_basicChar (c : Char) :
    Spelling c (if c = '"' then ['\\', '"'] else escapeChar c) := by
  split
  · next hmark => exact hmark ▸ spelling_mark
  · next hmark => exact spelling_escapeChar hmark

/-- **A basic string of one line holds any text.** -/
theorem readBasic_basicChars (cs rest : List Char) :
    readBasic (basicChars cs ++ '"' :: rest) = some (cs, rest) := by
  induction cs with
  | nil => rfl
  | cons c cs ih =>
    rw [basicChars, List.flatMap_cons, List.append_assoc, (spelling_basicChar c).readBasic]
    rw [basicChars] at ih
    rw [ih]
    rfl

/-- After the mark that opens a basic string of one line, two more do not follow. -/
theorem basicChars_append_ne (hrest : ∀ tail, rest ≠ '"' :: tail) (cs tail : List Char) :
    basicChars cs ++ '"' :: rest ≠ '"' :: '"' :: tail := by
  intro heq
  cases cs with
  | nil => exact hrest tail (List.cons.inj heq).2
  | cons c cs =>
    obtain ⟨d, chars, hchars, hd, -⟩ := (spelling_basicChar c).head
    rw [basicChars, List.flatMap_cons, hchars] at heq
    exact hd (List.cons.inj heq).1

/-- A mark in a string of several lines stands for itself if no two marks follow. -/
theorem readBasicLines_mark (h : ∀ tail, rest ≠ '"' :: '"' :: tail) :
    readBasicLines false ('"' :: rest) = (readBasicLines false rest).map (withChar '"') := by
  rw [readBasicLines]
  · rfl
  · exact fun _ _ => h _
  · exact fun _ _ => h _
  · exact fun _ _ => h _
  · exact fun _ _ _ _ _ hslash => absurd hslash (by decide)
  · exact fun _ _ _ _ _ _ _ _ _ hslash => absurd hslash (by decide)
  · exact fun _ _ hslash => absurd hslash (by decide)
  · exact fun _ hr => absurd hr (by decide)
  · decide

/-- What a text in several lines starts with: a mark or a line break only if the text does, and the
mark only if it may stand for itself. -/
theorem basicLineChars_head (run : Nat) (c : Char) (cs : List Char) :
    ∃ d tail, basicLineChars run (c :: cs) = d :: tail ∧ (d = '"' → c = '"' ∧ run < 2) ∧
      (d = '\n' → c = '\n') ∧ d ≠ '\r' := by
  rw [basicLineChars]
  split
  · next hmark =>
    split
    · next hrun => exact ⟨c, _, rfl, fun _ => ⟨hmark, hrun⟩, id, by rw [hmark]; decide⟩
    · exact ⟨'\\', _, rfl, fun h => absurd h (by decide), fun h => absurd h (by decide),
        by decide⟩
  · next hmark =>
    split
    · next hbreak => exact ⟨c, _, rfl, fun h => absurd h hmark, id, by rw [hbreak]; decide⟩
    · obtain ⟨d, tail, hd, hne, hn, hr⟩ := (spelling_escapeChar hmark).head
      rw [hd]
      exact ⟨d, _, rfl, fun h => absurd h hne, fun h => absurd h hn, hr⟩

/-- After a mark that stands for itself, two more follow only at the end of a text. -/
theorem basicLineChars_ne {run : Nat} (hrun : 0 < run) (hne : cs ≠ [])
    (hlast : ¬ (run < 2 ∧ cs = ['"'])) (tail : List Char) :
    basicLineChars run cs ++ rest ≠ '"' :: '"' :: tail := by
  obtain ⟨c, cs, rfl⟩ := List.exists_cons_of_ne_nil hne
  obtain ⟨d, chars, hchars, hd, -⟩ := basicLineChars_head run c cs
  intro heq
  rw [hchars] at heq
  obtain ⟨rfl, hlow⟩ := hd (List.cons.inj heq).1
  obtain ⟨e, es, rfl⟩ := List.exists_cons_of_ne_nil fun h => hlast ⟨hlow, h ▸ rfl⟩
  -- the next mark is the second, and so a third one is escaped
  obtain ⟨d', chars', hchars', hd', -⟩ := basicLineChars_head (run + 1) e es
  rw [basicLineChars, if_pos rfl, if_pos hlow, hchars'] at hchars
  obtain ⟨-, rfl⟩ := List.cons.inj hchars
  have hlater := (hd' (List.cons.inj (List.cons.inj heq).2).1).2
  omega

/-- **A basic string of several lines holds any text.** -/
theorem readBasicLines_basicLineChars (hrest : ∀ tail, rest ≠ '"' :: tail) (cs : List Char)
    {run : Nat} (hrun : run ≤ 2) :
    readBasicLines false (basicLineChars run cs ++ '"' :: '"' :: '"' :: rest) =
      some (cs, rest) := by
  induction cs generalizing run with
  | nil =>
    show readBasicLines false ('"' :: '"' :: '"' :: rest) = _
    rw [readBasicLines]
    · exact fun _ => hrest _
    · exact fun _ => hrest _
  | cons c cs ih =>
    by_cases hmark : c = '"'
    · subst hmark
      by_cases hlow : run < 2
      · rw [basicLineChars, if_pos rfl, if_pos hlow]
        by_cases hnil : cs = []
        · -- four marks, of which the first stands for itself
          subst hnil
          show readBasicLines false ('"' :: '"' :: '"' :: '"' :: rest) = _
          rw [readBasicLines]
          exact fun _ => hrest _
        by_cases hlast : run + 1 < 2 ∧ cs = ['"']
        · -- five marks, of which the first two do
          obtain ⟨hsecond, rfl⟩ := hlast
          rw [basicLineChars, if_pos rfl, if_pos hsecond]
          rfl
        rw [List.cons_append, readBasicLines_mark (basicLineChars_ne (Nat.succ_pos run) hnil hlast),
          ih hlow]
        rfl
      · rw [basicLineChars, if_pos rfl, if_neg hlow]
        show readBasicLines false
          (['\\', '"'] ++ (basicLineChars 0 cs ++ '"' :: '"' :: '"' :: rest)) = _
        rw [spelling_mark.readBasicLines, ih (Nat.zero_le 2)]
        rfl
    · rw [basicLineChars, if_neg hmark]
      split
      · next hbreak =>
        subst hbreak
        rw [List.cons_append, readBasicLines, ih (Nat.zero_le 2)]
        rfl
      · rw [List.append_assoc, (spelling_escapeChar hmark).readBasicLines, ih (Nat.zero_le 2)]
        rfl

/-! ### Literal strings -/

/-- **A literal string of one line holds a text without marks and control characters.** -/
theorem readLiteral_chars (hvisible : ∀ c ∈ cs, isControl c = false) (hmark : '\'' ∉ cs)
    (rest : List Char) : readLiteral (cs ++ '\'' :: rest) = some (cs, rest) := by
  induction cs with
  | nil => rfl
  | cons c cs ih =>
    obtain ⟨hc, hcs⟩ := List.forall_mem_cons.mp hvisible
    obtain ⟨hne, hnot⟩ := not_or.mp (mt List.mem_cons.mpr hmark)
    rw [List.cons_append, readLiteral, if_neg (Bool.eq_false_iff.mp hc), ih hcs hnot]
    · rfl
    · exact fun h => hne h.symm

/-- After the mark that opens a literal string of one line, two more do not follow. -/
theorem literal_append_ne (hrest : ∀ tail, rest ≠ '\'' :: tail) (hmark : '\'' ∉ cs)
    (tail : List Char) : cs ++ '\'' :: rest ≠ '\'' :: '\'' :: tail := by
  intro heq
  cases cs with
  | nil => exact hrest tail (List.cons.inj heq).2
  | cons c cs =>
    obtain rfl := (List.cons.inj heq).1
    exact hmark List.mem_cons_self

/-- The longest run is at least the one that was just passed. -/
theorem le_longestRun (mark : Char) (run : Nat) (cs : List Char) :
    run ≤ longestRun mark run cs := by
  induction cs generalizing run with
  | nil => exact Nat.le_refl _
  | cons c cs ih =>
    rw [longestRun]
    split
    · exact Nat.le_of_succ_le (ih (run + 1))
    · exact Nat.le_max_left _ _

/-- A text with a mark in it has a run of marks. -/
theorem longestRun_ne_zero {mark : Char} (h : mark ∈ cs) (run : Nat) :
    longestRun mark run cs ≠ 0 := by
  induction cs generalizing run with
  | nil => cases h
  | cons c cs ih =>
    rw [longestRun]
    split
    · exact Nat.ne_of_gt (Nat.lt_of_lt_of_le (Nat.succ_pos run) (le_longestRun _ _ _))
    · next hc =>
      have hlater := ih ((List.mem_cons.mp h).resolve_left fun heq => hc heq.symm) 0
      omega

/-- A mark in a string of several lines stands for itself if no two marks follow. -/
theorem readLiteralLines_mark (h : ∀ tail, rest ≠ '\'' :: '\'' :: tail) :
    readLiteralLines ('\'' :: rest) = (readLiteralLines rest).map (withChar '\'') := by
  rw [readLiteralLines]
  · rfl
  · exact fun _ _ => h _
  · exact fun _ _ => h _
  · exact fun _ _ => h _
  · exact fun _ hr => absurd hr (by decide)
  · decide

/-- **A literal string of several lines holds a text with at most two marks in a row and no control
character but line breaks.** -/
theorem readLiteralLines_chars (hrest : ∀ tail, rest ≠ '\'' :: tail) {run : Nat}
    (hquiet : ∀ c ∈ cs, isControl c = true → c = '\n') (hruns : longestRun '\'' run cs ≤ 2) :
    readLiteralLines (cs ++ '\'' :: '\'' :: '\'' :: rest) = some (cs, rest) := by
  induction cs generalizing run with
  | nil =>
    show readLiteralLines ('\'' :: '\'' :: '\'' :: rest) = _
    rw [readLiteralLines]
    · exact fun _ => hrest _
    · exact fun _ => hrest _
  | cons c cs ih =>
    obtain ⟨hc, hcs⟩ := List.forall_mem_cons.mp hquiet
    rw [longestRun] at hruns
    by_cases hmark : c = '\''
    · subst hmark
      rw [if_pos rfl] at hruns
      by_cases hnil : cs = []
      · -- four marks, of which the first stands for itself
        subst hnil
        show readLiteralLines ('\'' :: '\'' :: '\'' :: '\'' :: rest) = _
        rw [readLiteralLines]
        exact fun _ => hrest _
      by_cases hlast : cs = ['\'']
      · -- five marks, of which the first two do
        subst hlast
        rfl
      have hnext : ∀ tail, cs ++ '\'' :: '\'' :: '\'' :: rest ≠ '\'' :: '\'' :: tail := by
        intro tail heq
        match cs, hnil, hlast with
        | [d], _, hlast =>
          obtain rfl := (List.cons.inj heq).1
          exact hlast rfl
        | d :: e :: es, _, _ =>
          obtain ⟨rfl, hrest⟩ := List.cons.inj heq
          obtain ⟨rfl, -⟩ := List.cons.inj hrest
          rw [longestRun, if_pos rfl, longestRun, if_pos rfl] at hruns
          have hlong := le_longestRun '\'' (run + 1 + 1 + 1) es
          omega
      rw [List.cons_append, readLiteralLines_mark hnext, ih hcs hruns]
      rfl
    · rw [if_neg hmark] at hruns
      have hlater : longestRun '\'' 0 cs ≤ 2 := by omega
      by_cases hbreak : c = '\n'
      · subst hbreak
        rw [List.cons_append, readLiteralLines, ih hcs hlater]
        rfl
      · have hvisible : isControl c = false := Bool.eq_false_iff.mpr fun h => hbreak (hc h)
        rw [List.cons_append, readLiteralLines, if_neg (Bool.eq_false_iff.mp hvisible),
          ih hcs hlater]
        · rfl
        · exact fun _ h => absurd h hmark
        · exact fun _ h => absurd h hmark
        · exact fun _ h => absurd h hmark
        · rintro _ rfl
          cases hvisible
        · exact hbreak

/-! ### Every form -/

/-- A text fits a form of quoting. -/
def Quoting.Holds : Quoting → List Char → Prop
  | .basic, _ => True
  | .literal, cs => (∀ c ∈ cs, isControl c = false) ∧ '\'' ∉ cs
  | .basicLines, _ => True
  | .literalLines, cs => (∀ c ∈ cs, isControl c = true → c = '\n') ∧ longestRun '\'' 0 cs ≤ 2

/-- **A text fits the form that is chosen for it.** -/
theorem holds_quotingOf (cs : List Char) : (quotingOf cs).Holds cs := by
  have hquiet : (!cs.any fun c => isControl c && c ≠ '\n') = true →
      ∀ c ∈ cs, isControl c = true → c = '\n' := by
    intro h c hmem hcontrol
    rw [Bool.not_eq_true', List.any_eq_false] at h
    refine Decidable.byContradiction fun hne => h c hmem ?_
    rw [hcontrol, decide_eq_true hne]
    rfl
  rw [quotingOf]
  split
  · trivial
  split
  · next h =>
    simp only [Bool.and_eq_true, decide_eq_true_eq] at h
    obtain ⟨⟨hcontrols, hbreaks⟩, hruns⟩ := h
    refine ⟨fun c hmem => ?_, fun hmem => longestRun_ne_zero hmem 0 hruns⟩
    -- a control character could only be a break, and there is none
    refine Bool.eq_false_iff.mpr fun hcontrol => ?_
    obtain rfl := hquiet hcontrols c hmem hcontrol
    rw [List.contains_iff_mem.mpr hmem] at hbreaks
    cases hbreaks
  split
  · trivial
  split
  · next h =>
    simp only [Bool.and_eq_true, decide_eq_true_eq] at h
    exact ⟨hquiet h.1, h.2⟩
  split <;> trivial

/-- The break after the opening marks is passed over, and no other. -/
theorem skipBreak_leadingBreak {d : Char} {body : List Char} (hr : d ≠ '\r')
    (hn : d = '\n' → '\n' ∈ cs) :
    skipBreak (leadingBreak cs ++ d :: body) = d :: body := by
  rw [leadingBreak]
  split
  · rfl
  · next hnone =>
    rw [List.nil_append, skipBreak]
    · exact fun _ heq => hnone (List.contains_iff_mem.mpr (hn (List.cons.inj heq).1))
    · exact fun _ heq => hr (List.cons.inj heq).1

theorem skipBreak_basicLineChars (cs rest : List Char) :
    skipBreak (leadingBreak cs ++ (basicLineChars 0 cs ++ '"' :: rest)) =
      basicLineChars 0 cs ++ '"' :: rest := by
  cases cs with
  | nil => rfl
  | cons c cs =>
    obtain ⟨d, chars, hchars, -, hn, hr⟩ := basicLineChars_head 0 c cs
    rw [hchars, List.cons_append]
    exact skipBreak_leadingBreak hr fun h => hn h ▸ List.mem_cons_self

theorem skipBreak_literalLines (hquiet : ∀ c ∈ cs, isControl c = true → c = '\n')
    (rest : List Char) :
    skipBreak (leadingBreak cs ++ (cs ++ '\'' :: rest)) = cs ++ '\'' :: rest := by
  cases cs with
  | nil => rfl
  | cons c cs =>
    refine skipBreak_leadingBreak ?_ fun h => h ▸ List.mem_cons_self
    -- a carriage return is a control character
    rintro rfl
    cases hquiet '\r' List.mem_cons_self rfl

/-- Characters that begin with neither of the marks. -/
def Unmarked (rest : List Char) : Prop := rest.head? ≠ some '"' ∧ rest.head? ≠ some '\''

/-- **A text is read back in every form that it fits.** -/
theorem readText_quoteAs {quoting : Quoting} (h : quoting.Holds cs) (hrest : Unmarked rest) :
    readText (quoteAs cs quoting ++ rest) = some (cs, rest) := by
  have hmark : ∀ tail, rest ≠ '"' :: tail := fun _ heq => hrest.1 (heq ▸ rfl)
  have hmark' : ∀ tail, rest ≠ '\'' :: tail := fun _ heq => hrest.2 (heq ▸ rfl)
  cases quoting with
  | basic =>
    simp only [quoteAs, List.append_assoc, List.cons_append, List.nil_append]
    rw [readText.eq_2 _ (basicChars_append_ne hmark cs), readBasic_basicChars]
  | literal =>
    obtain ⟨hvisible, hnone⟩ := h
    simp only [quoteAs, List.append_assoc, List.cons_append, List.nil_append]
    rw [readText.eq_4 _ (literal_append_ne hmark' hnone), readLiteral_chars hvisible hnone]
  | basicLines =>
    simp only [quoteAs, List.append_assoc, List.cons_append, List.nil_append]
    rw [readText, skipBreak_basicLineChars,
      readBasicLines_basicLineChars hmark cs (Nat.zero_le 2)]
  | literalLines =>
    obtain ⟨hquiet, hruns⟩ := h
    simp only [quoteAs, List.append_assoc, List.cons_append, List.nil_append]
    rw [readText, skipBreak_literalLines hquiet, readLiteralLines_chars hmark' hquiet hruns]

/-- **A text is read back in the form that is chosen for it.** -/
theorem readText_quote (text : String) (hrest : Unmarked rest) :
    readText (quote text ++ rest) = some (text.toList, rest) :=
  readText_quoteAs (holds_quotingOf text.toList) hrest

end Toml

end TenantRegistry
