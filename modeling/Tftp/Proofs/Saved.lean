import Tftp.Proofs.Choice
import Tftp.Text.Utf8.Validity

/-! # Settings saved and loaded again

A saved document sets everything (`Settings.toTable_eq_table`), so nothing of it is left to a
default: whatever the format spells and reads faithfully, the settings come back as they were
(`Settings.exists_toText`). A file holds the document in UTF-8, which loses nothing either, so saving
and then loading is the identity wherever a file can be written (`Settings.load_saved`). -/

namespace Tftp

/-- Every section with every setting. -/
def Choice.all : Choice where
  has _ := true
  sets _ := true
  own _ _ := rfl

namespace Settings

theorem toTable_eq_table (levels : Level.Format) (s : Settings) :
    s.toTable levels = Choice.all.table levels s := rfl

section

variable {format : Toml.Format} {levels : Level.Format} (faithful : format.Faithful)
  (named : levels.Faithful) (s : Settings)
include faithful named

/-- All settings have a document, and its settings are these. -/
theorem exists_toText :
    ∃ text, s.toText format levels = some text ∧ ofText format levels text = .ok s := by
  have document := Choice.all.isDocument_table levels s
  obtain ⟨text, written⟩ := faithful.writes document
  obtain ⟨d, read, same⟩ := faithful.reads document written
  have complete : ∀ p, Choice.all.has p → Choice.all.missing? p = none :=
    fun p => Choice.all.missing?_eq_none_of_complete (.inr fun _ _ => rfl)
  refine ⟨text, by rw [toText, toTable_eq_table, written], ?_⟩
  calc ofText format levels text
    _ = .ok (Choice.all.override s) := ofText_of_complete named read same complete
    _ = .ok s := congrArg Except.ok (override_of_all {} s fun _ => rfl)

theorem toText_exampleText : toText format levels {} = some (exampleText format levels) := by
  obtain ⟨text, written, -⟩ := exists_toText faithful named {}
  rw [exampleText, written, Option.getD_some]

end

/-! ### Files -/

section

variable {format : Toml.Format} {levels : Level.Format} {s : Settings} {text : String}

theorem save_eq_ok_iff (spelled : s.toText format levels = some text) {place written : Place} :
    place.save format levels s = .ok written ↔
      (place = .vacant ∨ ∃ content, place = .file content) ∧
        written = .file (Utf8.encode text) := by
  cases place <;> simp [Place.save, spelled, Place.write, eq_comm]

theorem load_encode :
    (Place.file (Utf8.encode text)).load format levels = ofText format levels text := by
  rw [Place.load, Place.read]
  simp only [Utf8.decode?_encode]

end

/-- **Saved settings load back unchanged.** If documents and levels are spelled and read faithfully,
then any settings have a document, which gives these settings, and the example document is that of
the defaults. Settings can be saved wherever a file stands or may stand, whatever the file held;
what is written is this document, and loading it gives the settings back. -/
theorem load_saved {format : Toml.Format} {levels : Level.Format} (faithful : format.Faithful)
    (named : levels.Faithful) (s : Settings) :
    ∃ text, s.toText format levels = some text ∧ ofText format levels text = .ok s ∧
      toText format levels {} = some (exampleText format levels) ∧
      ofText format levels (exampleText format levels) = .ok {} ∧
      (∀ place : Place, (place = .vacant ∨ ∃ content, place = .file content) →
        ∃ written, place.save format levels s = .ok written) ∧
      ∀ place written : Place, place.save format levels s = .ok written →
        written.read = .ok (Utf8.encode text) ∧ written.load format levels = .ok s := by
  obtain ⟨text, spelled, read⟩ := exists_toText faithful named s
  obtain ⟨defaults, spelled', read'⟩ := exists_toText faithful named {}
  have same := toText_exampleText faithful named
  obtain rfl : exampleText format levels = defaults :=
    Option.some.inj (same.symm.trans spelled')
  refine ⟨text, spelled, read, same, read', ?_, ?_⟩
  · intro place free
    exact ⟨.file (Utf8.encode text), (save_eq_ok_iff spelled).mpr ⟨free, rfl⟩⟩
  · intro place written saved
    obtain ⟨-, rfl⟩ := (save_eq_ok_iff spelled).mp saved
    exact ⟨rfl, load_encode.trans read⟩

/-- A name with quotes, a backslash, line breaks, control characters and letters beyond ASCII, over
a file that held something else, in the format of the library. -/
theorem load_saved_hard :
    let s : Settings :=
      { codec := ⟨true, false⟩
        transfer := ⟨false, 4294967295⟩
        logging := ⟨"'\"\"\"\\\r\n\t\u0000\u007fé漢😀", .trace, false, true⟩ }
    ∃ written, s.save (.file [0xff]) = .ok written ∧ load written = .ok s := by
  intro s
  obtain ⟨text, -, -, -, -, free, loaded⟩ :=
    load_saved Toml.format_faithful Level.format_faithful s
  obtain ⟨written, saved⟩ := free (.file [0xff]) (.inr ⟨[0xff], rfl⟩)
  exact ⟨written, saved, (loaded _ _ saved).2⟩

end Settings
end Tftp
