import Tftp.Toml.StringLiteral

/-! # Texts read back from their spelling

A text is written in the plainest of four spellings, and read by what its quotes say. Reading gives
the text back (`readString_writeString`), whatever characters are in it:

* in a basic string a character stands for itself or is escaped, and the escape is read as this one
  character (`writeBasicChar_cases`);
* a literal string is only chosen for a text that it can hold (`plain_of_literal`,
  `plain_of_literalLines`);
* in a string over many lines up to two quotes stand as they are. They are taken for the end only
  where the text ends with them, and then belong to it all the same (`quotes_of_triple`,
  `readBasicLines_end`).

What follows a string must not begin with a quote (`Closed`): it would be read as part of the
string. -/

namespace Tftp.Toml

/-! ### Escapes -/

theorem hexValue?_upper {d : Nat} (h : d < 16) :
    Text.hexValue? (if d < 10 then Char.ofNat (d + '0'.toNat) else Char.ofNat (d - 10 + 'A'.toNat)) =
      some d := by
  have table : ∀ d < 16, Text.hexValue? (if d < 10 then Char.ofNat (d + '0'.toNat)
      else Char.ofNat (d - 10 + 'A'.toNat)) = some d := by decide +kernel
  exact table d h

theorem readCode_fourDigits {c : Char} (h : c.toNat < 65536) (rest : List Char) :
    readCode 4 (fourDigits c.toNat ++ rest) = some (c, rest) := by
  have value : (fourDigits c.toNat).mapM Text.hexValue? =
      some [c.toNat / 4096 % 16, c.toNat / 256 % 16, c.toNat / 16 % 16, c.toNat % 16] := by
    simp only [fourDigits, List.map_cons, List.map_nil, List.mapM_cons, List.mapM_nil]
    rw [hexValue?_upper (Nat.mod_lt _ (by decide)), hexValue?_upper (Nat.mod_lt _ (by decide)),
      hexValue?_upper (Nat.mod_lt _ (by decide)), hexValue?_upper (Nat.mod_lt _ (by decide))]
    rfl
  have code : 16 * (16 * (16 * (16 * 0 + c.toNat / 4096 % 16) + c.toNat / 256 % 16) +
      c.toNat / 16 % 16) + c.toNat % 16 = c.toNat := by omega
  have digits : (fourDigits c.toNat ++ rest).take 4 = fourDigits c.toNat := rfl
  have after : (fourDigits c.toNat ++ rest).drop 4 = rest := rfl
  have size : (fourDigits c.toNat).length = 4 := rfl
  have valid : c.toNat.isValidChar := c.valid
  rw [readCode, digits, after, if_pos size, value]
  simp only [Option.bind_eq_bind, Option.bind_some, List.foldl_cons, List.foldl_nil, code, charAt?,
    if_pos valid, Char.ofNat_toNat, Option.pure_def]

theorem toNat_lt_of_isControl {c : Char} (h : isControl c = true) : c.toNat < 65536 := by
  simp only [isControl, Bool.or_eq_true, Bool.and_eq_true, decide_eq_true_eq, beq_iff_eq] at h
  omega

/-- A character stands for itself or is escaped, and an escape is no line continuation. -/
theorem writeBasicChar_cases (c : Char) :
    (writeBasicChar c = [c] ∧ isControl c = false ∧ c ≠ '\\') ∨
      ∃ e, writeBasicChar c = '\\' :: e ∧
        ∀ rest, readEscape (e ++ rest) = some (c, rest) ∧ continuation? (e ++ rest) = none := by
  unfold writeBasicChar
  split
  case h_7 =>
    split
    case isTrue control =>
      refine .inr ⟨_, rfl, fun rest => ⟨?_, rfl⟩⟩
      exact readCode_fourDigits (toNat_lt_of_isControl control) rest
    case isFalse visible => exact .inl ⟨rfl, by simpa using visible, by assumption⟩
  all_goals exact .inr ⟨_, rfl, fun rest => ⟨rfl, rfl⟩⟩

/-! ### Strings on one line -/

theorem readBasic_end (rest : List Char) : readBasic ('"' :: rest) = some ([], rest) := by
  rw [readBasic]

theorem readBasic_escape {e rest : List Char} {c : Char} (h : readEscape e = some (c, rest)) :
    readBasic ('\\' :: e) = (readBasic rest).map (putFirst c) := by
  rw [readBasic]
  split
  · next none =>
    rw [h] at none
    cases none
  · next c' rest' some =>
    rw [h] at some
    cases some
    rfl

theorem readBasic_plain {c : Char} (rest : List Char) (quote : c ≠ '"') (backslash : c ≠ '\\')
    (visible : isControl c = false) :
    readBasic (c :: rest) = (readBasic rest).map (putFirst c) := by
  rw [readBasic.eq_def]
  split
  · next h => cases h
  · next h => cases h; exact absurd rfl quote
  · next h => cases h; exact absurd rfl backslash
  · next h => cases h; rw [if_neg (by simp [visible])]

theorem readBasic_writeBasic (text rest : List Char) :
    readBasic (writeBasic text ++ '"' :: rest) = some (text, rest) := by
  induction text with
  | nil => exact readBasic_end rest
  | cons c text ih =>
    rw [writeBasic, List.flatMap_cons, List.append_assoc]
    change readBasic (_ ++ (writeBasic text ++ '"' :: rest)) = _
    split
    case isTrue quote =>
      subst quote
      calc readBasic ('\\' :: '"' :: (writeBasic text ++ '"' :: rest))
        _ = (readBasic (writeBasic text ++ '"' :: rest)).map (putFirst '"') := readBasic_escape rfl
        _ = some ('"' :: text, rest) := by rw [ih]; rfl
    case isFalse quote =>
      rcases writeBasicChar_cases c with ⟨e, visible, backslash⟩ | ⟨escape, e, read⟩
      · rw [e, List.singleton_append, readBasic_plain _ quote backslash visible, ih]
        rfl
      · rw [e, List.cons_append, readBasic_escape (read _).1, ih]
        rfl

theorem readLiteral_append {text : List Char} (rest : List Char)
    (plain : ∀ c ∈ text, isControl c = false ∧ c ≠ '\'') :
    readLiteral (text ++ '\'' :: rest) = some (text, rest) := by
  induction text with
  | nil => rfl
  | cons c text ih =>
    rw [List.forall_mem_cons] at plain
    obtain ⟨⟨visible, quote⟩, plain⟩ := plain
    rw [List.cons_append, readLiteral, if_neg (by simp [visible]), ih plain]
    · rfl
    · exact quote

/-! ### The end of a string -/

/-- What follows a string does not begin with a quote, which would belong to the string. -/
def Closed (rest : List Char) : Prop := ∀ c ∈ rest.head?, c ≠ '"' ∧ c ≠ '\''

theorem Closed.single {quote : Char} (isQuote : quote = '"' ∨ quote = '\'') {rest : List Char}
    (closed : Closed rest) : ¬[quote, quote] <+: quote :: rest := by
  intro double
  rw [List.cons_prefix_cons] at double
  obtain ⟨more, rfl⟩ := double.2
  have := closed quote rfl
  rcases isQuote with rfl | rfl
  · exact this.1 rfl
  · exact this.2 rfl

theorem readLastQuotes_of_closed {quote : Char} (isQuote : quote = '"' ∨ quote = '\'')
    {rest : List Char} (closed : Closed rest) {n : Nat} (few : n ≤ 2) :
    readLastQuotes quote (List.replicate n quote ++ rest) = (List.replicate n quote, rest) := by
  have stops : (rest.take (2 - n)).takeWhile (· == quote) = [] := by
    cases rest with
    | nil => simp
    | cons c rest =>
      obtain ⟨double, single⟩ := closed c rfl
      have other : (c == quote) = false := by
        rcases isQuote with rfl | rfl <;> simp [double, single]
      cases 2 - n with
      | zero => rfl
      | succ m =>
        rw [List.take_succ_cons, List.takeWhile_cons, other]
        rfl
  have quotes : ((List.replicate n quote ++ rest).take 2).takeWhile (· == quote) =
      List.replicate n quote := by
    rw [List.take_append, List.length_replicate, List.take_of_length_le (by simpa using few),
      List.takeWhile_append_of_pos (by simp), stops, List.append_nil]
  rw [readLastQuotes, quotes, List.length_replicate, List.drop_left' (by simp)]

/-- The last quotes of a text and the three that close its string may change places. -/
theorem replicate_append_three {quote : Char} {n : Nat} (few : n ≤ 2) (rest : List Char) :
    List.replicate n quote ++ quote :: quote :: quote :: rest =
      quote :: quote :: quote :: (List.replicate n quote ++ rest) := by
  have : n = 0 ∨ n = 1 ∨ n = 2 := by omega
  rcases this with rfl | rfl | rfl <;> rfl

/-! ### Basic strings over many lines -/

theorem readBasicLines_end {rest : List Char} (closed : Closed rest) {n : Nat} (few : n ≤ 2) :
    readBasicLines (List.replicate n '"' ++ '"' :: '"' :: '"' :: rest) =
      some (List.replicate n '"', rest) := by
  rw [replicate_append_three few, readBasicLines, readLastQuotes_of_closed (.inl rfl) closed few]

theorem readBasicLines_newline (rest : List Char) :
    readBasicLines ('\n' :: rest) = (readBasicLines rest).map (putFirst '\n') := by
  rw [readBasicLines]

theorem readBasicLines_escape {e rest : List Char} {c : Char}
    (h : readEscape e = some (c, rest) ∧ continuation? e = none) :
    readBasicLines ('\\' :: e) = (readBasicLines rest).map (putFirst c) := by
  rw [readBasicLines]
  split
  · next continued =>
    rw [h.2] at continued
    cases continued
  · split
    · next none =>
      rw [h.1] at none
      cases none
    · next c' rest' some =>
      rw [h.1] at some
      cases some
      rfl

theorem readBasicLines_plain {c : Char} {rest : List Char} (visible : isControl c = false)
    (backslash : c ≠ '\\') (lone : c = '"' → ¬['"', '"'] <+: rest) :
    readBasicLines (c :: rest) = (readBasicLines rest).map (putFirst c) := by
  rw [readBasicLines.eq_def]
  split
  · next h => cases h
  · next h => cases h; exact absurd ⟨_, rfl⟩ (lone rfl)
  · next h => cases h; cases visible
  · next h => cases h; cases visible
  · next h => cases h; exact absurd rfl backslash
  · next h => cases h; rw [if_neg (by simp [visible])]

theorem writeBasicLines_replicate {k n : Nat} (few : k + n ≤ 2) :
    writeBasicLines k (List.replicate n '"') = List.replicate n '"' := by
  induction n generalizing k with
  | zero => rfl
  | succ n ih => rw [List.replicate_succ, writeBasicLines, if_pos (by omega), ih (by omega)]

theorem exists_head_writeBasicLines {k : Nat} {c : Char} (h : c ≠ '"' ∨ 2 ≤ k)
    (text : List Char) : ∃ d more, writeBasicLines k (c :: text) = d :: more ∧ d ≠ '"' := by
  rw [writeBasicLines.eq_def]
  split
  · next h => cases h
  · next e =>
    cases e
    have late : 2 ≤ k := by simpa using h
    rw [if_neg (by omega)]
    exact ⟨_, _, rfl, by decide⟩
  · next e => cases e; exact ⟨_, _, rfl, by decide⟩
  · next c text quote newline e =>
    cases e
    rcases writeBasicChar_cases c with ⟨e, -, -⟩ | ⟨escape, e, -⟩
    · rw [e]
      exact ⟨_, _, rfl, quote⟩
    · rw [e]
      exact ⟨_, _, rfl, by decide⟩

/-- After a quote that stands as it is, two more come only where the text ends with quotes. -/
theorem quotes_of_triple {k : Nat} {text rest : List Char}
    (triple : ['"', '"'] <+: writeBasicLines (k + 1) text ++ '"' :: '"' :: '"' :: rest)
    (early : k < 2) : ∃ n, k + 1 + n ≤ 2 ∧ text = List.replicate n '"' := by
  rcases text with - | ⟨c, text⟩
  · exact ⟨0, by omega, rfl⟩
  · by_cases first : c ≠ '"' ∨ 2 ≤ k + 1
    · obtain ⟨d, more, e, other⟩ := exists_head_writeBasicLines first text
      rw [e, List.cons_append, List.cons_prefix_cons] at triple
      exact absurd triple.1.symm other
    · rw [not_or, Decidable.not_not] at first
      obtain ⟨rfl, room⟩ := first
      obtain rfl : k = 0 := by omega
      rcases text with - | ⟨c, text⟩
      · exact ⟨1, by omega, rfl⟩
      · obtain ⟨d, more, e, other⟩ :=
          exists_head_writeBasicLines (c := c) (.inr (Nat.le_refl 2)) text
        rw [writeBasicLines, if_pos (by decide), e, List.cons_append, List.cons_append,
          List.cons_prefix_cons, List.cons_prefix_cons] at triple
        exact absurd triple.2.1.symm other

theorem readBasicLines_writeBasicLines {rest : List Char} (closed : Closed rest)
    (text : List Char) (k : Nat) :
    readBasicLines (writeBasicLines k text ++ '"' :: '"' :: '"' :: rest) = some (text, rest) := by
  induction text generalizing k with
  | nil => exact readBasicLines_end closed (Nat.zero_le 2)
  | cons c text ih =>
    rw [writeBasicLines.eq_def]
    split
    · next h => cases h
    · next text h =>
      cases h
      split
      case isTrue early =>
        by_cases last : ∃ n, k + 1 + n ≤ 2 ∧ text = List.replicate n '"'
        · obtain ⟨n, few, rfl⟩ := last
          rw [writeBasicLines_replicate few]
          exact readBasicLines_end closed (n := n + 1) (by omega)
        · rw [List.cons_append, readBasicLines_plain rfl (by decide), ih]
          · rfl
          · intro _ triple
            exact last (quotes_of_triple triple early)
      case isFalse late =>
        calc readBasicLines ('\\' :: '"' :: (writeBasicLines 0 text ++ '"' :: '"' :: '"' :: rest))
          _ = (readBasicLines (writeBasicLines 0 text ++ '"' :: '"' :: '"' :: rest)).map
              (putFirst '"') := readBasicLines_escape ⟨rfl, rfl⟩
          _ = some ('"' :: text, rest) := by rw [ih]; rfl
    · next text h =>
      cases h
      rw [List.cons_append, readBasicLines_newline, ih]
      rfl
    · next c text quote newline h =>
      cases h
      rw [List.append_assoc]
      rcases writeBasicChar_cases c with ⟨e, visible, backslash⟩ | ⟨escape, e, read⟩
      · rw [e, List.singleton_append, readBasicLines_plain visible backslash, ih]
        · rfl
        · intro h
          exact absurd h quote
      · rw [e, List.cons_append, readBasicLines_escape (read _), ih]
        rfl

/-! ### Literal strings over many lines -/

theorem readLiteralLines_end {rest : List Char} (closed : Closed rest) {n : Nat} (few : n ≤ 2) :
    readLiteralLines (List.replicate n '\'' ++ '\'' :: '\'' :: '\'' :: rest) =
      some (List.replicate n '\'', rest) := by
  rw [replicate_append_three few, readLiteralLines, readLastQuotes_of_closed (.inr rfl) closed few]

theorem readLiteralLines_newline (rest : List Char) :
    readLiteralLines ('\n' :: rest) = (readLiteralLines rest).map (putFirst '\n') := by
  rw [readLiteralLines]

theorem readLiteralLines_plain {c : Char} {rest : List Char} (visible : isControl c = false)
    (lone : c = '\'' → ¬['\'', '\''] <+: rest) :
    readLiteralLines (c :: rest) = (readLiteralLines rest).map (putFirst c) := by
  rw [readLiteralLines.eq_def]
  split
  · next h => cases h
  · next h => cases h; exact absurd ⟨_, rfl⟩ (lone rfl)
  · next h => cases h; cases visible
  · next h => cases h; cases visible
  · next h => cases h; rw [if_neg (by simp [visible])]

theorem le_longestRun (q : Char) (n : Nat) (text : List Char) : n ≤ longestRun q n text := by
  induction text generalizing n with
  | nil => exact Nat.le_refl n
  | cons c text ih =>
    rw [longestRun]
    split
    · exact Nat.le_of_succ_le (ih (n + 1))
    · exact Nat.le_max_left _ _

theorem longestRun_mono (q : Char) {m n : Nat} (h : m ≤ n) (text : List Char) :
    longestRun q m text ≤ longestRun q n text := by
  induction text generalizing m n with
  | nil => exact h
  | cons c text ih =>
    rw [longestRun, longestRun]
    split
    · exact ih (Nat.succ_le_succ h)
    · omega

theorem longestRun_le_cons (q c : Char) (text : List Char) :
    longestRun q 0 text ≤ longestRun q 0 (c :: text) := by
  rw [longestRun]
  split
  · exact longestRun_mono q (Nat.zero_le 1) text
  · exact Nat.le_max_right _ _

theorem readLiteralLines_append {rest : List Char} (closed : Closed rest) {text : List Char}
    (plain : ∀ c ∈ text, isControl c = false ∨ c = '\n') (short : longestRun '\'' 0 text ≤ 2) :
    readLiteralLines (text ++ '\'' :: '\'' :: '\'' :: rest) = some (text, rest) := by
  induction text with
  | nil => exact readLiteralLines_end closed (Nat.zero_le 2)
  | cons c text ih =>
    have ih := ih (fun c mem => plain c (List.mem_cons_of_mem _ mem))
      (Nat.le_trans (longestRun_le_cons _ c text) short)
    by_cases last : ∃ n ≤ 2, c :: text = List.replicate n '\''
    · obtain ⟨n, few, e⟩ := last
      rw [e]
      exact readLiteralLines_end closed few
    · rw [List.cons_append]
      rcases plain c (List.mem_cons_self ..) with visible | rfl
      · rw [readLiteralLines_plain visible, ih]
        · rfl
        · rintro rfl triple
          -- Two more quotes are the last of the text, or make a run of three.
          rcases text with - | ⟨d, - | ⟨e, text⟩⟩
          · exact last ⟨1, by omega, rfl⟩
          · rw [List.cons_append, List.cons_prefix_cons] at triple
            exact last ⟨2, by omega, by rw [← triple.1]; rfl⟩
          · rw [List.cons_append, List.cons_append, List.cons_prefix_cons,
              List.cons_prefix_cons] at triple
            obtain ⟨rfl, rfl, -⟩ := triple
            have run : 3 ≤ longestRun '\'' (0 + 1 + 1 + 1) text := le_longestRun _ 3 text
            rw [longestRun, if_pos rfl, longestRun, if_pos rfl, longestRun, if_pos rfl] at short
            omega
      · rw [readLiteralLines_newline, ih]
        rfl

/-! ### All spellings -/

theorem plain_of_literal {text : List Char} (h : Spelling.of text = .literal) :
    ∀ c ∈ text, isControl c = false ∧ c ≠ '\'' := by
  simp only [Spelling.of] at h
  split at h
  · cases h
  split at h
  · next suits =>
    intro c mem
    simp only [Bool.and_eq_true, Bool.not_eq_true', List.any_eq_false, List.contains_eq_mem,
      decide_eq_false_iff_not] at suits
    obtain ⟨⟨visible, quote⟩, newline⟩ := suits
    have visible := visible c mem
    have newline : c ≠ '\n' := fun e => newline (e ▸ mem)
    exact ⟨by simpa [newline] using visible, fun e => quote (e ▸ mem)⟩
  · split at h
    · cases h
    · split at h
      · cases h
      · split at h <;> cases h

theorem plain_of_literalLines {text : List Char} (h : Spelling.of text = .literalLines) :
    (∀ c ∈ text, isControl c = false ∨ c = '\n') ∧ longestRun '\'' 0 text ≤ 2 := by
  simp only [Spelling.of] at h
  split at h
  · cases h
  split at h
  · cases h
  split at h
  · cases h
  split at h
  · next suits =>
    simp only [Bool.and_eq_true, Bool.not_eq_true', List.any_eq_false, decide_eq_true_eq] at suits
    refine ⟨fun c mem => ?_, suits.2⟩
    have visible := suits.1 c mem
    by_cases newline : c = '\n'
    · exact .inr newline
    · exact .inl (by simpa [newline] using visible)
  · split at h <;> cases h

theorem readString_basic {inside : List Char} (h : ¬['"', '"'] <+: inside) :
    readString ('"' :: inside) = readBasic inside := by
  rw [readString]
  rintro rest rfl
  exact h ⟨rest, rfl⟩

theorem readString_literal {inside : List Char} (h : ¬['\'', '\''] <+: inside) :
    readString ('\'' :: inside) = readLiteral inside := by
  rw [readString]
  rintro rest rfl
  exact h ⟨rest, rfl⟩

/-- The opening quote of a basic string on one line is not taken for three. -/
theorem single_writeBasic {rest : List Char} (closed : Closed rest) (text : List Char) :
    ¬['"', '"'] <+: writeBasic text ++ '"' :: rest := by
  intro double
  rcases text with - | ⟨c, text⟩
  · exact closed.single (.inl rfl) double
  · rw [writeBasic, List.flatMap_cons] at double
    split at double
    · rw [List.cons_append, List.cons_append, List.cons_prefix_cons] at double
      exact absurd double.1 (by decide)
    · next quote =>
      rcases writeBasicChar_cases c with ⟨e, -, -⟩ | ⟨escape, e, -⟩
      · rw [e, List.cons_append, List.cons_append, List.cons_prefix_cons] at double
        exact quote double.1.symm
      · rw [e, List.cons_append, List.cons_append, List.cons_prefix_cons] at double
        exact absurd double.1 (by decide)

theorem newline?_of_visible {c : Char} (visible : isControl c = false) (rest : List Char) :
    newline? (c :: rest) = none := by
  unfold newline?
  split
  · next h => cases h; cases visible
  · next h => cases h; cases visible
  · rfl

theorem newline?_writeBasicLines {text : List Char} (single : '\n' ∉ text) (rest : List Char) :
    newline? (writeBasicLines 0 text ++ '"' :: rest) = none := by
  rw [writeBasicLines.eq_def]
  split
  · rfl
  · rfl
  · exact absurd (List.mem_cons_self ..) single
  · next c text _ _ =>
    rcases writeBasicChar_cases c with ⟨e, visible, -⟩ | ⟨escape, e, -⟩
    · rw [e]
      exact newline?_of_visible visible _
    · rw [e]
      rfl

theorem dropNewline_openingBreak {text inside : List Char}
    (h : '\n' ∉ text → newline? inside = none) :
    dropNewline (openingBreak text ++ inside) = inside := by
  rw [openingBreak]
  split
  · rfl
  · next none =>
    rw [List.contains_iff_mem] at none
    rw [List.nil_append, dropNewline, h none]
    rfl

/-- A text reads back from its spelling, whichever of the four was chosen. -/
theorem readString_writeString {rest : List Char} (closed : Closed rest) (text : List Char) :
    readString (writeString text ++ rest) = some (text, rest) := by
  rw [writeString]
  split
  case h_1 =>
    have inside : readString ('"' :: writeBasic text ++ ['"'] ++ rest) =
        readBasic (writeBasic text ++ '"' :: rest) := by
      simp only [List.cons_append, List.append_assoc, List.nil_append]
      exact readString_basic (single_writeBasic closed text)
    rw [inside, readBasic_writeBasic]
  case h_2 literal =>
    have plain := plain_of_literal literal
    have inside : readString ('\'' :: text ++ ['\''] ++ rest) =
        readLiteral (text ++ '\'' :: rest) := by
      simp only [List.cons_append, List.append_assoc, List.nil_append]
      refine readString_literal fun double => ?_
      rcases text with - | ⟨c, text⟩
      · exact closed.single (.inr rfl) double
      · rw [List.cons_append, List.cons_prefix_cons] at double
        exact (plain c (List.mem_cons_self ..)).2 double.1.symm
    rw [inside, readLiteral_append rest plain]
  case h_3 =>
    have inside : readString (['"', '"', '"'] ++ openingBreak text ++ writeBasicLines 0 text ++
        ['"', '"', '"'] ++ rest) = readBasicLines (dropNewline (openingBreak text ++
          (writeBasicLines 0 text ++ '"' :: '"' :: '"' :: rest))) := by
      simp [readString]
    rw [inside, dropNewline_openingBreak fun single => newline?_writeBasicLines single _]
    exact readBasicLines_writeBasicLines closed text 0
  case h_4 literal =>
    obtain ⟨plain, short⟩ := plain_of_literalLines literal
    have inside : readString (['\'', '\'', '\''] ++ openingBreak text ++ text ++
        ['\'', '\'', '\''] ++ rest) = readLiteralLines (dropNewline (openingBreak text ++
          (text ++ '\'' :: '\'' :: '\'' :: rest))) := by
      simp [readString]
    rw [inside, dropNewline_openingBreak, readLiteralLines_append closed plain short]
    intro single
    rcases text with - | ⟨c, text⟩
    · rfl
    · refine newline?_of_visible ?_ _
      rcases plain c (List.mem_cons_self ..) with visible | rfl
      · exact visible
      · exact absurd (List.mem_cons_self ..) single

/-- A text that no plainer spelling holds: a control character, a backslash, a line break, and runs
of both quotes at its end. -/
example : readString (writeString ['\x01', '\\', '\n', '\'', '\'', '\'', '"', '"', '"', '"'] ++ ['\n']) =
    some (['\x01', '\\', '\n', '\'', '\'', '\'', '"', '"', '"', '"'], ['\n']) := by
  decide +kernel

end Tftp.Toml
