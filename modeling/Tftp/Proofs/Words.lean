import Mathlib.Data.List.TakeWhile
import Tftp.Settings.Environment

/-! # Words for flags

What a text means as a flag (`FlagText`) is said without the function that reads it: by its words,
of any case and between any blanks. The reader finds exactly this meaning
(`Environment.flagOf?_eq_some_iff`), so no text means two things. -/

namespace Tftp

/-! ### Texts between blanks -/

namespace Text

theorem lowerChar_of_isBlank {c : Char} (blank : isBlank c = true) : lowerChar c = c := by
  obtain ⟨range, mem, low, high⟩ := (Ranges.contains_iff _ _).mp blank
  have apart : ∀ range ∈ blankRanges, range.2 < 65 ∨ 90 < range.1 := by decide
  have := apart range mem
  exact lowerChar_of_toNat (by omega)

theorem exists_trim (text : List Char) :
    ∃ before after, text = before ++ trim text ++ after ∧
      (∀ c ∈ before, isBlank c = true) ∧ ∀ c ∈ after, isBlank c = true := by
  let tail := text.dropWhile isBlank
  refine ⟨text.takeWhile isBlank, (tail.reverse.takeWhile isBlank).reverse, ?_,
    fun c => List.mem_takeWhile_imp, fun c mem => List.mem_takeWhile_imp (List.mem_reverse.mp mem)⟩
  have back : trim text ++ (tail.reverse.takeWhile isBlank).reverse = tail := by
    rw [trim, ← List.reverse_append, List.takeWhile_append_dropWhile, List.reverse_reverse]
  rw [List.append_assoc, back, List.takeWhile_append_dropWhile]

theorem dropWhile_of_visible {word : List Char} (some : word ≠ [])
    (visible : ∀ c ∈ word, isBlank c = false) (rest : List Char) :
    (word ++ rest).dropWhile isBlank = word ++ rest := by
  rcases word with - | ⟨c, word⟩
  · exact absurd rfl some
  · rw [List.cons_append, List.dropWhile_cons_of_neg]
    rw [visible c (List.mem_cons_self ..)]
    exact Bool.false_ne_true

/-- A word without blanks is what trimming leaves of it and the blanks around it. -/
theorem trim_append {before word after : List Char} (some : word ≠ [])
    (visible : ∀ c ∈ word, isBlank c = false) (left : ∀ c ∈ before, isBlank c = true)
    (right : ∀ c ∈ after, isBlank c = true) : trim (before ++ word ++ after) = word := by
  have right' : ∀ c ∈ after.reverse, isBlank c = true :=
    fun c mem => right c (List.mem_reverse.mp mem)
  have visible' : ∀ c ∈ word.reverse, isBlank c = false :=
    fun c mem => visible c (List.mem_reverse.mp mem)
  have kept := dropWhile_of_visible (mt List.reverse_eq_nil_iff.mp some) visible' []
  rw [List.append_nil] at kept
  rw [trim, List.append_assoc, List.dropWhile_append_of_pos left, dropWhile_of_visible some visible,
    List.reverse_append, List.dropWhile_append_of_pos right', kept, List.reverse_reverse]

end Text

/-! ### Flags -/

/-- The words for a truth value. -/
def flagWords : Bool → List String
  | true => ["1", "true", "yes", "on"]
  | false => ["0", "false", "no", "off"]

/-- The text is a word for the truth value, in letters of any case and between any blanks. -/
def FlagText (text : String) (b : Bool) : Prop :=
  ∃ before word after, text.toList = before ++ word ++ after ∧
    (∀ c ∈ before, Text.isBlank c = true) ∧ (∀ c ∈ after, Text.isBlank c = true) ∧
    ∃ w ∈ flagWords b, Text.lower word = w.toList

namespace Environment

theorem flagOf?_eq (text : String) :
    flagOf? text =
      if String.ofList (Text.lower (Text.trim text.toList)) ∈ flagWords true then some true
      else if String.ofList (Text.lower (Text.trim text.toList)) ∈ flagWords false then some false
      else none := rfl

theorem flagOf?_eq_some_iff_mem (text : String) (b : Bool) :
    flagOf? text = some b ↔
      String.ofList (Text.lower (Text.trim text.toList)) ∈ flagWords b := by
  have apart : ∀ w ∈ flagWords true, w ∉ flagWords false := by decide
  rw [flagOf?_eq]
  split
  · next yes =>
    cases b with
    | true => exact iff_of_true rfl yes
    | false => exact iff_of_false nofun (apart _ yes)
  · next notYes =>
    split
    · next no =>
      cases b with
      | true => exact iff_of_false nofun notYes
      | false => exact iff_of_true rfl no
    · next notNo =>
      cases b with
      | true => exact iff_of_false nofun notYes
      | false => exact iff_of_false nofun notNo

theorem visible_of_flagWord {b : Bool} {w : String} (mem : w ∈ flagWords b) {word : List Char}
    (h : Text.lower word = w.toList) : word ≠ [] ∧ ∀ c ∈ word, Text.isBlank c = false := by
  have words : ∀ b, ∀ w ∈ flagWords b, w.toList ≠ [] ∧ w.toList.any Text.isBlank = false := by
    decide +kernel
  obtain ⟨some, visible⟩ := words b w mem
  constructor
  · rintro rfl
    exact some h.symm
  · intro c mem
    by_contra blank
    rw [Bool.not_eq_false] at blank
    have inside : Text.lowerChar c ∈ w.toList := h ▸ List.mem_map_of_mem mem
    rw [Text.lowerChar_of_isBlank blank] at inside
    exact List.any_eq_false.mp visible c inside blank

theorem flagOf?_eq_some_iff (text : String) (b : Bool) :
    flagOf? text = some b ↔ FlagText text b := by
  rw [flagOf?_eq_some_iff_mem]
  constructor
  · intro mem
    obtain ⟨before, after, parts, left, right⟩ := Text.exists_trim text.toList
    exact ⟨before, _, after, parts, left, right, _, mem, String.toList_ofList.symm⟩
  · rintro ⟨before, word, after, parts, left, right, w, mem, h⟩
    obtain ⟨some, visible⟩ := visible_of_flagWord mem h
    rw [parts, Text.trim_append some visible left right, h, String.ofList_toList]
    exact mem

end Environment

end Tftp
