import Tftp.Proofs.Document.Numeral
import Tftp.Proofs.Document.Spelling
import Tftp.Toml.Written
import Tftp.Toml.Document

/-! # Written documents read back

Each line of a written document is read on its own and leaves the lines after it alone
(`Line.readLines_cons`), so the statements of a document are those of its lines
(`statements?_written`). What a line needs for that is `Line.Sound`: a key without quotes, and a
value that is not too great. What is written for such a value stands for it when a line ends with it
(`Stands`, `Single.stands_written`).

The root table of a document then has an entry for each section, in their order
(`parse?_document`). -/

namespace Tftp.Toml

/-! ### Values at the end of a line -/

/-- The text begins a value without brackets. -/
def BeginsPlain (text : List Char) : Prop :=
  ∃ c rest, text = c :: rest ∧ isBlank c = false ∧ c ≠ '[' ∧ c ≠ '\x7b'

/-- The text stands for the value when a line ends with it. -/
structure Stands (text : List Char) (v : Value) : Prop where
  begins : BeginsPlain text
  reads (rest : List Char) : readPlain (text ++ '\n' :: rest) = some (v, '\n' :: rest)

theorem readWord_append {word : List Char} (chars : ∀ c ∈ word, isWordChar c = true)
    {v : Value} (h : ofWord? word = some v) (rest : List Char) :
    readWord (word ++ '\n' :: rest) = some (v, '\n' :: rest) := by
  have cut : (word ++ '\n' :: rest).takeWhile isWordChar = word := by
    rw [List.takeWhile_append_of_pos chars]
    exact List.append_nil word
  have after : (word ++ '\n' :: rest).drop word.length = '\n' :: rest := List.drop_left
  rw [readWord, cut, after]
  split
  · next e => cases e
  · rw [h]
    rfl

theorem stands_of_word {word : List Char} {v : Value} (chars : ∀ c ∈ word, isWordChar c = true)
    (begins : ∃ c rest, word = c :: rest ∧ c ≠ '[' ∧ c ≠ '\x7b' ∧ c ≠ '"' ∧ c ≠ '\'')
    (h : ofWord? word = some v) : Stands word v := by
  obtain ⟨c, tail, e, bracket, brace, double, single⟩ := begins
  refine ⟨⟨c, tail, e, ?_, bracket, brace⟩, fun rest => ?_⟩
  · have := chars c (e ▸ List.mem_cons_self ..)
    simp only [isWordChar, Bool.not_eq_true', Bool.or_eq_false_iff] at this
    exact this.1.1.1.1.1.1
  · rw [← readWord_append chars h rest, e, List.cons_append]
    unfold readPlain
    split
    · next e' => cases e'; exact absurd rfl double
    · next e' => cases e'; exact absurd rfl single
    · rfl

theorem stands_flagText (b : Bool) : Stands (flagText b) (.boolean b) := by
  cases b
  · exact stands_of_word (List.all_eq_true.mp (by decide)) ⟨'f', _, rfl, by decide⟩ rfl
  · exact stands_of_word (List.all_eq_true.mp (by decide)) ⟨'t', _, rfl, by decide⟩ rfl

theorem isWordChar_of_isDigit {c : Char} (digit : Text.isDigit c = true) :
    isWordChar c = true := by
  have mark (d : Char) (notDigit : Text.isDigit d = false) : (c == d) = false :=
    beq_false_of_ne (ne_of_isDigit digit notDigit)
  rw [isWordChar, isBlank, mark ' ' rfl, mark '\t' rfl, mark '\n' rfl, mark '\r' rfl, mark ',' rfl,
    mark ']' rfl, mark '\x7d' rfl, mark '#' rfl]
  rfl

theorem stands_toDigits {n : Nat} (h : n < 0x8000000000000000) :
    Stands (Nat.toDigits 10 n) (.integer n) := by
  have digits : ∀ c ∈ Nat.toDigits 10 n, Text.isDigit c = true := fun c => isDigit_toDigits
  refine stands_of_word (fun c mem => isWordChar_of_isDigit (digits c mem)) ?_ (ofWord?_toDigits h)
  obtain ⟨c, tail, e⟩ := List.exists_cons_of_ne_nil (Nat.toDigits_ne_nil (n := n) (b := 10))
  have mark (d : Char) (notDigit : Text.isDigit d = false) : c ≠ d :=
    ne_of_isDigit (digits c (e ▸ List.mem_cons_self ..)) notDigit
  exact ⟨c, tail, e, mark '[' rfl, mark '\x7b' rfl, mark '"' rfl, mark '\'' rfl⟩

theorem exists_quote_writeString (text : List Char) :
    ∃ quote rest, writeString text = quote :: rest ∧ (quote = '"' ∨ quote = '\'') := by
  rw [writeString]
  split
  · exact ⟨_, _, rfl, .inl rfl⟩
  · exact ⟨_, _, rfl, .inr rfl⟩
  · exact ⟨_, _, rfl, .inl rfl⟩
  · exact ⟨_, _, rfl, .inr rfl⟩

theorem stands_writeString (text : String) :
    Stands (writeString text.toList) (.string text) := by
  obtain ⟨quote, tail, e, isQuote⟩ := exists_quote_writeString text.toList
  constructor
  · exact ⟨quote, tail, e, by rcases isQuote with rfl | rfl <;> decide⟩
  · intro rest
    have closed : Closed ('\n' :: rest) := by
      rintro c ⟨⟩
      decide
    have read : readPlain (writeString text.toList ++ '\n' :: rest) =
        (readString (writeString text.toList ++ '\n' :: rest)).map fun read =>
          (.string (String.ofList read.1), read.2) := by
      rw [e]
      rcases isQuote with rfl | rfl <;> rfl
    rw [read, readString_writeString closed, Option.map_some, String.ofList_toList]

namespace Single

/-- What the value is when it is read again. -/
def value : Single → Value
  | text content => .string content
  | number n => .integer n
  | flag b => .boolean b

/-- The value can be read again. -/
def Sound : Single → Prop
  | text _ | flag _ => True
  | number n => n < 0x8000000000000000

theorem stands_written {x : Single} (sound : x.Sound) : Stands x.written x.value := by
  cases x with
  | text content => exact stands_writeString content
  | number n => exact stands_toDigits sound
  | flag b => exact stands_flagText b

end Single

theorem readValue_of_stands {text : List Char} {v : Value} (h : Stands text v)
    (rest : List Char) :
    readValue maxNesting (text ++ '\n' :: rest) = some (v, '\n' :: rest) := by
  obtain ⟨c, tail, e, -, bracket, brace⟩ := h.begins
  rw [← h.reads rest, e, maxNesting, List.cons_append]
  unfold readValue
  split
  · next e' => cases e'; exact absurd rfl bracket
  · next e' => cases e'; exact absurd rfl brace
  · rfl

theorem skipBlanks_of_begins {text : List Char} (h : BeginsPlain text) (rest : List Char) :
    skipBlanks (text ++ rest) = text ++ rest := by
  obtain ⟨c, tail, rfl, visible, -⟩ := h
  rw [skipBlanks, List.cons_append, List.dropWhile_cons, visible]
  rfl

/-! ### Keys without quotes -/

theorem ne_of_isBareKey {c mark : Char} (bare : isBareKey c = true)
    (isMark : isBareKey mark = false) : c ≠ mark := by
  rintro rfl
  rw [bare] at isMark
  cases isMark

theorem isBlank_of_isBareKey {c : Char} (bare : isBareKey c = true) : isBlank c = false := by
  rw [isBlank, beq_false_of_ne (ne_of_isBareKey bare rfl),
    beq_false_of_ne (ne_of_isBareKey bare rfl)]
  rfl

namespace Bare

variable {key : String}

theorem exists_head (bare : Bare key) :
    ∃ c tail, key.toList = c :: tail ∧ isBareKey c = true := by
  obtain ⟨c, tail, e⟩ := List.exists_cons_of_ne_nil bare.1
  exact ⟨c, tail, e, bare.2 c (e ▸ List.mem_cons_self ..)⟩

theorem append_ne (bare : Bare key) {mark : Char} (isMark : isBareKey mark = false)
    (rest more : List Char) : key.toList ++ rest ≠ mark :: more := by
  obtain ⟨c, tail, e, first⟩ := bare.exists_head
  intro h
  rw [e, List.cons_append, List.cons.injEq] at h
  exact ne_of_isBareKey first isMark h.1

theorem skipBlanks_append (bare : Bare key) (rest : List Char) :
    skipBlanks (key.toList ++ rest) = key.toList ++ rest := by
  obtain ⟨c, tail, e, first⟩ := bare.exists_head
  rw [skipBlanks, e, List.cons_append, List.dropWhile_cons, isBlank_of_isBareKey first]
  rfl

theorem readKeyPart (bare : Bare key) {c : Char} (stops : isBareKey c = false)
    (rest : List Char) :
    readKeyPart (key.toList ++ c :: rest) = some (key, c :: rest) := by
  have cut : (key.toList ++ c :: rest).takeWhile isBareKey = key.toList := by
    rw [List.takeWhile_append_of_pos bare.2, List.takeWhile_cons, stops]
    exact List.append_nil _
  unfold Toml.readKeyPart
  split
  · next e => exact absurd e (bare.append_ne rfl _ _)
  · next e => exact absurd e (bare.append_ne rfl _ _)
  · simp only [cut, List.drop_left, List.isEmpty_iff, if_neg bare.1, String.ofList_toList]

theorem readKey (bare : Bare key) {c : Char} (stops : isBareKey c = false) (rest : List Char)
    (single : ∀ more, skipBlanks (c :: rest) ≠ '.' :: more) :
    readKey (key.toList ++ c :: rest) = some (⟨[], key⟩, skipBlanks (c :: rest)) := by
  have parts : readKeyParts maxNesting (key.toList ++ c :: rest) =
      some ([key], skipBlanks (c :: rest)) := by
    rw [maxNesting, readKeyParts, bare.skipBlanks_append, bare.readKeyPart stops]
    simp only [Option.bind_eq_bind, Option.bind_some]
    rfl
  rw [Toml.readKey, parts]
  rfl

end Bare

/-! ### Statements -/

theorem readStatement_settingLine {key : String} {text : List Char} {v : Value}
    (bare : Bare key) (h : Stands text v) (rest : List Char) :
    readStatement (settingLine key text ++ rest) = some (.pair ⟨⟨[], key⟩, v⟩, rest) := by
  have line : settingLine key text ++ rest =
      key.toList ++ ' ' :: '=' :: ' ' :: (text ++ '\n' :: rest) := by
    simp [settingLine]
  have skip : skipBlanks (' ' :: (text ++ '\n' :: rest)) = text ++ '\n' :: rest :=
    skipBlanks_of_begins h.begins _
  have pair : readPair (readValue maxNesting) (settingLine key text ++ rest) =
      some (⟨⟨[], key⟩, v⟩, '\n' :: rest) := by
    rw [line, readPair, bare.readKey rfl]
    · change (readValue maxNesting (skipBlanks (' ' :: (text ++ '\n' :: rest)))).bind _ = _
      rw [skip, readValue_of_stands h]
      rfl
    · rintro more ⟨⟩
  unfold readStatement
  split
  · next e => exact absurd e (line ▸ bare.append_ne rfl _ _)
  · next e => exact absurd e (line ▸ bare.append_ne rfl _ _)
  · rw [pair]
    rfl

theorem readStatement_headerLine {name : String} (bare : Bare name) (rest : List Char) :
    readStatement (headerLine name ++ rest) = some (.header ⟨[], name⟩ false, rest) := by
  have line : headerLine name ++ rest = '[' :: (name.toList ++ ']' :: '\n' :: rest) := by
    simp [headerLine]
  have key : readKey (name.toList ++ ']' :: '\n' :: rest) =
      some (⟨[], name⟩, ']' :: '\n' :: rest) := by
    rw [bare.readKey rfl]
    · rfl
    · rintro more ⟨⟩
  rw [line]
  unfold readStatement
  split
  · next e => exact absurd (List.cons.inj e).2 (bare.append_ne rfl _ _)
  · next e =>
    obtain rfl := (List.cons.inj e).2
    rw [key]
    rfl
  · next e => exact absurd rfl (e _)

theorem readLines_of_statement {c : Char} {text rest : List Char} {statement : Statement}
    (visible : isBlank c = false ∧ c ≠ '#' ∧ c ≠ '\n' ∧ c ≠ '\r')
    (h : readStatement (c :: text) = some (statement, rest)) (limit : Nat) :
    readLines (limit + 1) (c :: text) = (readLines limit rest).map (statement :: ·) := by
  have start : skipBlanks (c :: text) = c :: text := by
    rw [skipBlanks, List.dropWhile_cons, visible.1]
    rfl
  rw [readLines, start]
  simp only [visible, or_self, if_false, h, Option.bind_eq_bind, Option.bind_some]
  cases readLines limit rest <;> rfl

/-! ### Lines -/

namespace Line

/-- What the line says. -/
def statement? : Line → Option Statement
  | blank => none
  | header name => some (.header ⟨[], name⟩ false)
  | setting key x => some (.pair ⟨⟨[], key⟩, x.value⟩)

/-- The line says what it is meant to say. -/
def Sound : Line → Prop
  | blank => True
  | header name => Bare name
  | setting key x => Bare key ∧ x.Sound

/-- A line takes one step of the reader and leaves the lines after it. -/
theorem readLines_cons {l : Line} (sound : l.Sound) (limit : Nat) (rest : List Char) :
    readLines (limit + 1) (l.written ++ rest) =
      (readLines limit rest).map (l.statement?.toList ++ ·) := by
  cases l with
  | blank =>
    rw [statement?, Option.toList_none]
    exact Option.map_id'.symm
  | header name =>
    exact readLines_of_statement (by decide) (readStatement_headerLine sound rest) limit
  | setting key x =>
    obtain ⟨bare, sound⟩ := sound
    have read := readStatement_settingLine bare (Single.stands_written sound) rest
    obtain ⟨c, tail, e, first⟩ := bare.exists_head
    have line : settingLine key x.written ++ rest =
        c :: (tail ++ ' ' :: '=' :: ' ' :: (x.written ++ '\n' :: rest)) := by
      simp [settingLine, e]
    rw [line] at read
    rw [written, line, readLines_of_statement ?_ read]
    · rfl
    · exact ⟨isBlank_of_isBareKey first, ne_of_isBareKey first rfl, ne_of_isBareKey first rfl,
        ne_of_isBareKey first rfl⟩

theorem exists_head_written {l : Line} (sound : l.Sound) :
    ∃ c tail, l.written = c :: tail ∧ c ≠ '\uFEFF' := by
  cases l with
  | blank => exact ⟨_, _, rfl, by decide⟩
  | header name => exact ⟨_, _, rfl, by decide⟩
  | setting key x =>
    obtain ⟨c, tail, e, first⟩ := sound.1.exists_head
    exact ⟨c, _, by rw [written, settingLine, e]; rfl, ne_of_isBareKey first rfl⟩

end Line

section

variable {lines : List Line} (sound : ∀ l ∈ lines, l.Sound)
include sound

theorem readLines_written (limit : Nat) :
    readLines (lines.length + (limit + 1)) (lines.flatMap Line.written) =
      some (lines.filterMap Line.statement?) := by
  induction lines with
  | nil => rfl
  | cons l lines ih =>
    rw [List.forall_mem_cons] at sound
    rw [List.length_cons, Nat.add_right_comm, List.flatMap_cons, Line.readLines_cons sound.1,
      ih sound.2]
    cases h : l.statement? <;> simp [h]

/-- Every line takes a character, so the limit of the reader is not reached. -/
theorem length_le_written : lines.length ≤ (lines.flatMap Line.written).length := by
  induction lines with
  | nil => exact Nat.le_refl 0
  | cons l lines ih =>
    rw [List.forall_mem_cons] at sound
    obtain ⟨c, tail, e, -⟩ := Line.exists_head_written sound.1
    have := ih sound.2
    rw [List.flatMap_cons, List.length_append, e, List.length_cons, List.length_cons]
    omega

theorem statements?_written :
    statements? (lines.flatMap Line.written) = some (lines.filterMap Line.statement?) := by
  have mark : ∀ rest, lines.flatMap Line.written ≠ '\uFEFF' :: rest := by
    intro rest h
    rcases lines with - | ⟨l, lines⟩
    · cases h
    · obtain ⟨c, tail, e, visible⟩ := Line.exists_head_written (sound l (List.mem_cons_self ..))
      rw [List.flatMap_cons, e] at h
      exact visible (List.cons.inj h).1
  obtain ⟨extra, e⟩ := Nat.exists_eq_add_of_le (length_le_written sound)
  unfold statements?
  split
  · next h => exact absurd h (mark _)
  · dsimp only
    rw [e, Nat.add_assoc, readLines_written sound]

end

/-! ### Sections -/

namespace WrittenSection

/-- The keys of the section with their values. -/
def pairs (s : WrittenSection) : List Pair :=
  s.settings.map fun setting => ⟨⟨[], setting.1⟩, setting.2.value⟩

/-- The entry of the section in the root table. -/
def entry (s : WrittenSection) : String × Value :=
  (s.name, .table .header (s.settings.map fun setting => (setting.1, setting.2.value)))

/-- What the lines of the section say. -/
def statements (s : WrittenSection) : List Statement :=
  .header ⟨[], s.name⟩ false :: s.pairs.map .pair

/-- The section says what it is meant to say, and no key twice. -/
structure Sound (s : WrittenSection) : Prop where
  name : Bare s.name
  settings : ∀ setting ∈ s.settings, Bare setting.1 ∧ setting.2.Sound
  keys : (s.settings.map Prod.fst).Nodup

theorem filterMap_lines (s : WrittenSection) :
    s.lines.filterMap Line.statement? = s.statements := by
  simp [lines, Line.statement?, statements, pairs, Function.comp_def]

theorem Sound.lines {s : WrittenSection} (sound : s.Sound) : ∀ l ∈ s.lines, l.Sound := by
  rw [WrittenSection.lines, List.forall_mem_cons, List.forall_mem_map]
  exact ⟨sound.name, sound.settings⟩

end WrittenSection

theorem filterMap_documentLines (ss : List WrittenSection) :
    (documentLines ss).filterMap Line.statement? = ss.flatMap WrittenSection.statements := by
  rcases ss with - | ⟨s, rest⟩
  · rfl
  · have others : (rest.flatMap fun s => Line.blank :: s.lines).filterMap Line.statement? =
        rest.flatMap WrittenSection.statements := by
      rw [List.filterMap_flatMap]
      congr 1
      funext s
      exact s.filterMap_lines
    rw [documentLines, List.filterMap_append, s.filterMap_lines, others, List.flatMap_cons]

theorem sound_documentLines {ss : List WrittenSection} (sound : ∀ s ∈ ss, s.Sound) :
    ∀ l ∈ documentLines ss, l.Sound := by
  rcases ss with - | ⟨s, rest⟩
  · exact fun l mem => nomatch mem
  · rw [List.forall_mem_cons] at sound
    rw [documentLines, List.forall_mem_append]
    refine ⟨sound.1.lines, fun l mem => ?_⟩
    obtain ⟨s, mem, inside⟩ := List.mem_flatMap.mp mem
    rcases List.mem_cons.mp inside with rfl | inside
    · trivial
    · exact (sound.2 s mem).lines l inside

theorem sections_pairs (pairs : List Pair) (rest : List Statement) :
    sections (pairs.map .pair ++ rest) = (pairs ++ (sections rest).1, (sections rest).2) := by
  induction pairs with
  | nil => rfl
  | cons pair pairs ih =>
    rw [List.map_cons, List.cons_append, sections, ih]
    rfl

theorem sections_statements (ss : List WrittenSection) :
    sections (ss.flatMap WrittenSection.statements) =
      ([], ss.map fun s => ⟨⟨[], s.name⟩, false, s.pairs⟩) := by
  induction ss with
  | nil => rfl
  | cons s ss ih =>
    rw [List.flatMap_cons, WrittenSection.statements, List.cons_append, sections, sections_pairs, ih,
      List.append_nil]
    rfl

/-! ### Tables -/

theorem lookup_eq_none {α β : Type} [BEq α] [LawfulBEq α] {key : α} {es : List (α × β)}
    (h : key ∉ es.map Prod.fst) : es.lookup key = none := by
  rw [List.lookup_eq_none_iff]
  intro entry mem
  rw [bne_iff_ne]
  rintro rfl
  exact h (List.mem_map_of_mem mem)

theorem addPairs_eq (es : Entries) {settings : List (String × Single)}
    (nodup : (es.map Prod.fst ++ settings.map Prod.fst).Nodup) :
    Entries.addPairs es (settings.map fun setting => ⟨⟨[], setting.1⟩, setting.2.value⟩) =
      some (es ++ settings.map fun setting => (setting.1, setting.2.value)) := by
  induction settings generalizing es with
  | nil => simp [Entries.addPairs]
  | cons setting settings ih =>
    have absent : es.lookup setting.1 = none := by
      rw [List.nodup_append] at nodup
      exact lookup_eq_none fun mem => nodup.2.2 _ mem _ (List.mem_cons_self ..) rfl
    have rest := ih (es ++ [(setting.1, setting.2.value)]) (by simpa using nodup)
    rw [Entries.addPairs] at rest ⊢
    rw [List.map_cons, List.foldlM_cons, Entries.insert, absent]
    simpa using rest

theorem addSections_eq (root : Entries) {ss : List WrittenSection}
    (names : (root.map Prod.fst ++ ss.map WrittenSection.name).Nodup)
    (sound : ∀ s ∈ ss, s.Sound) :
    (ss.map fun s => (⟨⟨[], s.name⟩, false, s.pairs⟩ : Section)).foldlM
        (fun root s => Entries.within s.addTo s.key.parents root) root =
      some (root ++ ss.map WrittenSection.entry) := by
  induction ss generalizing root with
  | nil => simp
  | cons s ss ih =>
    rw [List.forall_mem_cons] at sound
    have absent : root.lookup s.name = none := by
      rw [List.nodup_append] at names
      exact lookup_eq_none fun mem => names.2.2 _ mem _ (List.mem_cons_self ..) rfl
    have pairs : Entries.addPairs [] s.pairs =
        some (s.settings.map fun setting => (setting.1, setting.2.value)) :=
      addPairs_eq [] (by simpa using sound.1.keys)
    have rest := ih (root ++ [s.entry]) (by simpa [WrittenSection.entry] using names) sound.2
    rw [List.map_cons, List.foldlM_cons, Entries.within, Section.addTo, absent, pairs]
    simpa [WrittenSection.entry] using rest

/-- The root table of a written document has an entry for each section, in their order. -/
theorem parse?_document {ss : List WrittenSection} (sound : ∀ s ∈ ss, s.Sound)
    (names : (ss.map WrittenSection.name).Nodup) :
    parse? (String.ofList (document ss)) = some (ss.map WrittenSection.entry) := by
  rw [parse?, String.toList_ofList, document, statements?_written (sound_documentLines sound),
    filterMap_documentLines, Option.bind_some, ofStatements?, sections_statements]
  exact addSections_eq [] names sound

end Tftp.Toml
