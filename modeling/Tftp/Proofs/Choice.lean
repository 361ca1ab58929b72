import Mathlib.Data.List.Find
import Mathlib.Data.List.Nodup
import Tftp.Proofs.Document.Format
import Tftp.Settings.Storage

/-! # Documents that set some of the settings

A `Choice` says which sections a document has and which settings it sets. What comes of such a
document depends on nothing else, neither on how it is spelled nor on any order in it:

* an entry overrides its setting (`Part.readEntry_entry`), and overrides add up
  (`Settings.foldlM_override_names`), so a section overrides what it sets and nothing else, unless it
  lacks a required setting (`Choice.readTable_of_perm`);
* so do the sections of a document that lack nothing (`Choice.foldlM_of_complete`), and one that
  lacks something ends it (`Choice.foldlM_of_missing`).

So the defaults complete the rules, but not the logging settings (`Settings.ofText_of_choice`),
even if all that is left out there has a default (`Settings.level_lost`). -/

namespace Tftp

open Toml (Table Node SameDocument)

/-! ### Overrides -/

namespace Settings

/-- The settings, with those that are chosen taken from `v`. -/
def override (s : Settings) (on : Setting → Bool) (v : Settings) : Settings where
  codec :=
    { strictText := if on .strictText then v.codec.strictText else s.codec.strictText
      rejectRequestOptions :=
        if on .rejectRequestOptions then v.codec.rejectRequestOptions
        else s.codec.rejectRequestOptions }
  transfer :=
    { allowRollover :=
        if on .allowRollover then v.transfer.allowRollover else s.transfer.allowRollover
      maxBlocks := if on .maxBlocks then v.transfer.maxBlocks else s.transfer.maxBlocks }
  logging :=
    { appName := if on .appName then v.logging.appName else s.logging.appName
      level := if on .level then v.logging.level else s.logging.level
      toConsole := if on .toConsole then v.logging.toConsole else s.logging.toConsole
      jsonFormat := if on .jsonFormat then v.logging.jsonFormat else s.logging.jsonFormat }

theorem ext_get {s t : Settings} (h : ∀ k : Setting, k.get s = k.get t) : s = t := by
  obtain ⟨⟨strictText, rejectRequestOptions⟩, ⟨allowRollover, maxBlocks⟩,
    ⟨appName, level, toConsole, jsonFormat⟩⟩ := s
  obtain rfl : strictText = _ := h .strictText
  obtain rfl : rejectRequestOptions = _ := h .rejectRequestOptions
  obtain rfl : allowRollover = _ := h .allowRollover
  obtain rfl : maxBlocks = _ := h .maxBlocks
  obtain rfl : appName = _ := h .appName
  obtain rfl : level = _ := h .level
  obtain rfl : toConsole = _ := h .toConsole
  obtain rfl : jsonFormat = _ := h .jsonFormat
  rfl

variable (s v : Settings)

theorem get_override (on : Setting → Bool) (k : Setting) :
    k.get (s.override on v) = if on k then k.get v else k.get s := by
  cases k <;> rfl

theorem override_override (on on' : Setting → Bool) :
    (s.override on v).override on' v = s.override (fun k => on k || on' k) v := by
  refine ext_get fun k => ?_
  simp only [get_override]
  cases on k <;> cases on' k <;> rfl

theorem override_of_none {on : Setting → Bool} (none : ∀ k, on k = false) :
    s.override on v = s :=
  ext_get fun k => by rw [get_override, none k, if_neg Bool.false_ne_true]

theorem override_of_all {on : Setting → Bool} (all : ∀ k, on k = true) : s.override on v = v :=
  ext_get fun k => by rw [get_override, if_pos (all k)]

/-- What overrides settings step by step overrides all that one of the steps does. -/
theorem foldlM_override {α : Type} {f : Settings → α → Except DocumentFault Settings}
    {on : α → Setting → Bool} {as : List α}
    (step : ∀ a ∈ as, ∀ s, f s a = .ok (s.override (on a) v)) :
    as.foldlM f s = .ok (s.override (fun k => as.any fun a => on a k) v) := by
  induction as generalizing s with
  | nil => exact congrArg Except.ok (s.override_of_none v fun _ => rfl).symm
  | cons a as ih =>
    rw [List.forall_mem_cons] at step
    have rest := ih (s.override (on a) v) step.2
    rw [override_override] at rest
    rw [List.foldlM_cons, step.1 s]
    exact rest

/-- If an entry overrides what has its name, then entries override what has one of their names. -/
theorem foldlM_override_names {f : Settings → String × Node → Except DocumentFault Settings}
    {name : Setting → String} {own : Setting → Prop} [DecidablePred own] {es : Table}
    (step : ∀ e ∈ es, ∀ s, f s e = .ok (s.override (fun k => name k = e.1 ∧ own k) v)) :
    es.foldlM f s = .ok (s.override (fun k => name k ∈ es.map Prod.fst ∧ own k) v) := by
  rw [foldlM_override s v step]
  congr 2
  funext k
  rw [Bool.eq_iff_iff]
  simp only [List.any_eq_true, decide_eq_true_eq, List.mem_map]
  constructor
  · rintro ⟨e, mem, name, own⟩
    exact ⟨⟨e, mem, name.symm⟩, own⟩
  · rintro ⟨⟨e, mem, name⟩, own⟩
    exact ⟨e, mem, name.symm, own⟩

end Settings

theorem Setting.set_get (s v : Settings) (k : Setting) :
    k.set s (k.get v) = s.override (· = k) v := by
  cases k <;> rfl

/-! ### Single settings -/

theorem Part.bare_name (p : Part) : Toml.Bare p.name := by
  cases p <;> exact ⟨by decide, List.all_eq_true.mp (by decide)⟩

theorem Part.name_injective : Function.Injective Part.name := by
  intro p q h
  cases p <;> cases q <;> first | rfl | exact absurd h (by decide)

theorem Part.find?_name (p : Part) : Part.all.find? (fun q => q.name = p.name) = some p := by
  cases p <;> rfl

theorem Setting.bare_key (k : Setting) : Toml.Bare k.key := by
  cases k <;> exact ⟨by decide, List.all_eq_true.mp (by decide)⟩

theorem Setting.key_injective : Function.Injective key := by
  intro k l h
  cases k <;> cases l <;> first | rfl | exact absurd h (by decide)

theorem Setting.find?_key (k : Setting) :
    k.part.settings.find? (fun j => j.key = k.key) = some k := by
  cases k <;> rfl

theorem Part.mem_settings_iff (p : Part) (k : Setting) : k ∈ p.settings ↔ k.part = p := by
  have mem : k ∈ Setting.all := by cases k <;> decide
  simp [settings, mem]

theorem countOf_integer (n : UInt32) : countOf (.integer n.toNat) = .ok n := by
  have := n.toNat_lt
  rw [countOf, if_pos (by omega)]
  simp

theorem Kind.isSingle_toNode (levels : Level.Format) (kind : Kind) (a : kind.Value) :
    (kind.toNode levels a).IsSingle := by
  cases kind with
  | count =>
    have := UInt32.toNat_lt a
    change 0 ≤ (UInt32.toNat a : Int) ∧ (UInt32.toNat a : Int) < 0x8000000000000000
    omega
  | _ => trivial

section

variable {levels : Level.Format} (named : levels.Faithful) (v : Settings)
include named

theorem levelOf_levelText (l : Level) : levelOf levels (.text (levelText levels l)) = .ok l := by
  have same : Text.equalIgnoringCase (levelText levels l) (levels.name l) = true := by
    rw [Text.equalIgnoringCase_iff, levelText, String.toList_ofList, Text.lower_lower]
  simp only [levelOf, textOf, bind, Except.bind, named.parse?_name l _ same]
  rfl

theorem Kind.ofNode_toNode (kind : Kind) (a : kind.Value) :
    kind.ofNode levels (kind.toNode levels a) = .ok a := by
  cases kind with
  | flag => rfl
  | count => exact countOf_integer a
  | text => rfl
  | level => exact levelOf_levelText named a

theorem Part.readEntry_entry (s : Settings) (k : Setting) :
    k.part.readEntry levels s (k.entry levels v) = .ok (s.override (· = k) v) := by
  rw [readEntry, Setting.entry, k.find?_key]
  simp only [Setting.read, Kind.ofNode_toNode named, bind, Except.bind, Setting.set_get]
  rfl

/-- The entries of a section override what they set, in whatever order they come. -/
theorem Part.foldlM_readEntry {p : Part} {es : Table}
    (own : ∀ e ∈ es, ∃ k : Setting, k.part = p ∧ k.entry levels v = e) (s : Settings) :
    es.foldlM (p.readEntry levels) s =
      .ok (s.override (fun k => k.key ∈ es.map Prod.fst ∧ k.part = p) v) := by
  refine Settings.foldlM_override_names s v fun e mem s => ?_
  obtain ⟨k, rfl, rfl⟩ := own e mem
  rw [readEntry_entry named v s k]
  congr 2
  funext j
  rw [decide_eq_decide]
  exact ⟨fun same => same ▸ ⟨rfl, rfl⟩, fun same => Setting.key_injective same.1⟩

end

/-! ### Choices -/

/-- Which sections a document has, and which settings it sets in them. -/
structure Choice where
  has : Part → Bool
  sets : Setting → Bool
  own : ∀ k, sets k → has k.part

namespace Choice

variable (c : Choice)

/-- What the section of a document that sets `v` holds. -/
def entries (levels : Level.Format) (v : Settings) (p : Part) : Table :=
  (p.settings.filter c.sets).map (Setting.entry levels v)

/-- The root table of a document that sets `v`. -/
def table (levels : Level.Format) (v : Settings) : Table :=
  (Part.all.filter c.has).map fun p => (p.name, .table (c.entries levels v p))

/-- The defaults, with the settings that are set taken from `v`. -/
def override (v : Settings) : Settings := ({} : Settings).override c.sets v

/-- The first required setting of the section that is not set. -/
def missing? (p : Part) : Option Setting := p.settings.find? fun k => k.required && !c.sets k

theorem keys_entries (levels : Level.Format) (v : Settings) (p : Part) :
    (c.entries levels v p).map Prod.fst = (p.settings.filter c.sets).map Setting.key := by
  rw [entries, List.map_map]
  rfl

theorem names_table (levels : Level.Format) (v : Settings) :
    (c.table levels v).map Prod.fst = (Part.all.filter c.has).map Part.name := by
  rw [table, List.map_map]
  rfl

/-- The table of a choice is one that every faithful format can hold. -/
theorem isDocument_table (levels : Level.Format) (v : Settings) :
    Toml.IsDocument (c.table levels v) where
  keys := by
    constructor
    · rw [table, List.forall_mem_map]
      exact fun p _ => p.bare_name
    · have all : Part.all.Nodup := by decide
      rw [names_table]
      exact List.Nodup.map Part.name_injective (all.filter _)
  sections := by
    rw [table, List.forall_mem_map]
    refine fun p _ => ⟨⟨?_, ?_⟩, ?_⟩
    · rw [entries, List.forall_mem_map]
      exact fun k _ => k.bare_key
    · have all : Setting.all.Nodup := by decide
      rw [keys_entries]
      exact List.Nodup.map Setting.key_injective ((all.filter _).filter _)
    · rw [entries, List.forall_mem_map]
      exact fun k _ => k.kind.isSingle_toNode levels _

/-! ### Sections -/

section

variable {c} {levels : Level.Format} (named : levels.Faithful) (v : Settings)

theorem own_of_perm {p : Part} {es : Table} (perm : (c.entries levels v p).Perm es) :
    ∀ e ∈ es, ∃ k : Setting, k.part = p ∧ k.entry levels v = e := by
  intro e mem
  rw [← perm.mem_iff, entries, List.mem_map] at mem
  obtain ⟨k, mem, e⟩ := mem
  exact ⟨k, (p.mem_settings_iff k).mp (List.mem_filter.mp mem).1, e⟩

theorem key_mem_iff_of_perm {p : Part} {es : Table} (perm : (c.entries levels v p).Perm es)
    {k : Setting} (own : k.part = p) : k.key ∈ es.map Prod.fst ↔ c.sets k := by
  rw [← (perm.map Prod.fst).mem_iff, keys_entries, List.mem_map_of_injective Setting.key_injective,
    List.mem_filter, p.mem_settings_iff]
  exact and_iff_right own

include named

/-- A section overrides what it sets, whatever the order of its entries, or it lacks a required
setting. -/
theorem readTable_of_perm {p : Part} {es : Table} (perm : (c.entries levels v p).Perm es)
    (s : Settings) :
    p.readTable levels s es =
      match c.missing? p with
      | none => .ok (s.override (fun k => c.sets k ∧ k.part = p) v)
      | some k => .error (.missing k.key) := by
  have lacks : p.settings.find? (fun k => k.required ∧ k.key ∉ es.map Prod.fst) = c.missing? p := by
    refine List.find?_congr fun k mem => ?_
    simp [key_mem_iff_of_perm v perm ((p.mem_settings_iff k).mp mem)]
  have sets : (fun k : Setting => decide (k.key ∈ es.map Prod.fst ∧ k.part = p)) =
      fun k => decide (c.sets k ∧ k.part = p) := by
    funext k
    rw [decide_eq_decide]
    exact and_congr_left fun own => key_mem_iff_of_perm v perm own
  rw [Part.readTable, Part.foldlM_readEntry named v (own_of_perm v perm), sets]
  simp only [bind, Except.bind]
  rw [lacks]
  cases c.missing? p <;> rfl

/-! ### Documents -/

/-- The entry is a section of the choice, with its entries in any order. -/
def IsPart (c : Choice) (levels : Level.Format) (v : Settings) (e : String × Node) : Prop :=
  ∃ p es, e = (Part.name p, .table es) ∧ c.has p ∧ (c.entries levels v p).Perm es

omit named in
theorem isPart_of_same {d : Table} (same : SameDocument (c.table levels v) d) :
    ∀ e ∈ d, c.IsPart levels v e := by
  rintro ⟨name, node⟩ mem
  obtain ⟨_, part, rfl, same⟩ := same.sections _ mem
  obtain ⟨p, chosen, rfl⟩ := List.mem_map.mp part
  cases same with
  | intro perm => exact ⟨p, _, rfl, (List.mem_filter.mp chosen).2, perm⟩

omit named in
theorem name_mem_iff_of_same {d : Table} (same : SameDocument (c.table levels v) d) (p : Part) :
    p.name ∈ d.map Prod.fst ↔ c.has p := by
  have mem : p ∈ Part.all := by cases p <;> decide
  rw [same.names.mem_iff, names_table, List.mem_map_of_injective Part.name_injective,
    List.mem_filter]
  exact and_iff_right mem

theorem readEntry_section {p : Part} {es : Table} (perm : (c.entries levels v p).Perm es)
    (s : Settings) :
    s.readEntry levels (p.name, .table es) =
      match c.missing? p with
      | none => .ok (s.override (fun k => c.sets k ∧ k.part = p) v)
      | some k => .error (.missing k.key) := by
  rw [Settings.readEntry, p.find?_name]
  exact readTable_of_perm named v perm s

/-- Sections that lack nothing override what they set, in whatever order they come. -/
theorem foldlM_of_complete (complete : ∀ p, c.has p → c.missing? p = none) {d : Table}
    (parts : ∀ e ∈ d, c.IsPart levels v e) (s : Settings) :
    d.foldlM (Settings.readEntry levels) s =
      .ok (s.override (fun k => k.part.name ∈ d.map Prod.fst ∧ c.sets k) v) := by
  refine Settings.foldlM_override_names s v fun e mem s => ?_
  obtain ⟨p, es, rfl, has, perm⟩ := parts e mem
  have own (k : Setting) : k.part.name = p.name ↔ k.part = p := Part.name_injective.eq_iff
  rw [readEntry_section named v perm s, complete p has]
  simp only [own, and_comm]

/-- The first section that lacks a setting ends the document, if no other one can lack any. -/
theorem foldlM_of_missing {p : Part} {k : Setting} (lacks : c.missing? p = some k)
    (others : ∀ q, q ≠ p → c.missing? q = none) {d : Table}
    (parts : ∀ e ∈ d, c.IsPart levels v e) (mem : p.name ∈ d.map Prod.fst) (s : Settings) :
    d.foldlM (Settings.readEntry levels) s = .error (.missing k.key) := by
  induction d generalizing s with
  | nil => cases mem
  | cons e d ih =>
    rw [List.forall_mem_cons] at parts
    obtain ⟨⟨q, es, rfl, has, perm⟩, parts⟩ := parts
    have first := readEntry_section named v perm s
    rw [List.foldlM_cons, first]
    by_cases same : q = p
    · rw [same, lacks]
      rfl
    · rw [List.map_cons, List.mem_cons, Part.name_injective.eq_iff] at mem
      rw [others q same]
      exact ih parts (mem.resolve_left (Ne.symm same)) _

end

/-! ### What is missing -/

theorem missing?_logging : c.missing? .logging = Part.logging.settings.find? fun k => !c.sets k :=
  List.find?_congr fun k mem => by
    have own := (Part.logging.mem_settings_iff k).mp mem
    cases k <;> first | rfl | cases own

theorem missing?_of_ne {p : Part} (other : p ≠ .logging) : c.missing? p = none := by
  rw [missing?, List.find?_eq_none]
  intro k mem
  have own := (p.mem_settings_iff k).mp mem
  cases k <;> first | exact absurd own.symm other | exact Bool.false_ne_true

theorem missing?_eq_none_of_complete
    (complete : ¬c.has .logging ∨ ∀ k : Setting, k.part = .logging → c.sets k) {p : Part}
    (has : c.has p) : c.missing? p = none := by
  by_cases logging : p = .logging
  · rw [logging, missing?_logging, List.find?_eq_none]
    intro k mem
    rcases complete with absent | all
    · exact absurd (logging ▸ has) absent
    · simp [all k ((Part.logging.mem_settings_iff k).mp mem)]
  · exact c.missing?_of_ne logging

end Choice

/-! ### Settings of a document -/

namespace Settings

section

variable {format : Toml.Format} {levels : Level.Format} {c : Choice} {v : Settings} {text : String}
  {d : Table} (named : levels.Faithful) (read : format.read text = some d)
  (same : SameDocument (c.table levels v) d)
include named read same

theorem ofText_of_complete (complete : ∀ p, c.has p → c.missing? p = none) :
    ofText format levels text = .ok (c.override v) := by
  have sets : (fun k : Setting => decide (k.part.name ∈ d.map Prod.fst ∧ c.sets k)) = c.sets := by
    funext k
    rw [Bool.eq_iff_iff, decide_eq_true_iff, Choice.name_mem_iff_of_same v same]
    exact and_iff_right_of_imp (c.own k)
  have settings : ofTable levels d = .ok (c.override v) := by
    rw [ofTable, Choice.foldlM_of_complete named v complete (Choice.isPart_of_same v same), sets]
    rfl
  rw [ofText, read]
  simp only [settings]

theorem ofText_of_missing {k : Setting} (has : c.has .logging)
    (lacks : c.missing? .logging = some k) :
    ofText format levels text = .error (.settings (.document (.missing k.key))) := by
  have fault : ofTable levels d = .error (.missing k.key) :=
    Choice.foldlM_of_missing named v lacks (fun _ => c.missing?_of_ne)
      (Choice.isPart_of_same v same) ((Choice.name_mem_iff_of_same v same .logging).mpr has) {}
  rw [ofText, read]
  simp only [fault]

end

/-- **Defaults complete the rules, but not the logging settings.** Take any choice of sections and
of settings in them, and any settings `v`. There is a document that sets just these, to their values
in `v`; and for every such document, however it is spelled and in whatever order, the following
holds. If it has no logging section, or a complete one, then it gives `v` where it sets something
and the defaults elsewhere. If it has an incomplete one, then it is refused for the first logging
setting that is absent there, and nothing else matters. -/
theorem ofText_of_choice {format : Toml.Format} {levels : Level.Format}
    (faithful : format.Faithful) (named : levels.Faithful) (v : Settings) (c : Choice) :
    (∃ text d, format.write (c.table levels v) = some text ∧ format.read text = some d ∧
      SameDocument (c.table levels v) d) ∧
    (∀ text d, format.read text = some d → SameDocument (c.table levels v) d →
      (¬c.has .logging ∨ (∀ k : Setting, k.part = .logging → c.sets k) →
        ofText format levels text = .ok (c.override v)) ∧
      (c.has .logging → ∀ k ∈ Part.logging.settings.find? fun k => !c.sets k,
        ofText format levels text = .error (.settings (.document (.missing k.key))))) ∧
    ∀ k : Setting, k.get (c.override v) = if c.sets k then k.get v else k.get {} := by
  refine ⟨?_, ?_, get_override {} v c.sets⟩
  · have document := c.isDocument_table levels v
    obtain ⟨text, written⟩ := faithful.writes document
    obtain ⟨d, read, same⟩ := faithful.reads document written
    exact ⟨text, d, written, read, same⟩
  · intro text d read same
    constructor
    · intro complete
      exact ofText_of_complete named read same fun p => c.missing?_eq_none_of_complete complete
    · intro has k first
      rw [← c.missing?_logging] at first
      exact ofText_of_missing named read same has first

/-- One rule of transfer, no rule of decoding though the section is there, and no logging section, in
two spellings; and a logging section that lacks two settings. -/
theorem ofText_of_choice_partial :
    let v : Settings :=
      { transfer := { allowRollover := false, maxBlocks := 7 }, logging := { appName := "a\nb" } }
    let c : Choice := ⟨(· ≠ .logging), (· = .maxBlocks), by intro k; cases k <;> decide⟩
    let c' : Choice :=
      ⟨(· = .logging), fun k => k = .jsonFormat ∨ k = .appName, by intro k; cases k <;> decide⟩
    let s : Settings := { transfer := { allowRollover := true, maxBlocks := 7 } }
    c.override v = s ∧
    ofToml "[transfer]\nmax_blocks = 7\n\n[codec]\n" = .ok s ∧
    ofToml "codec = \x7b\x7d\ntransfer.max_blocks = 7\n" = .ok s ∧
    ∃ text, Toml.format.write (c'.table Level.format v) = some text ∧
      ofToml text = .error (.settings (.document (.missing "log_level"))) := by
  intro v c c' s
  have override : c.override v = s := rfl
  have absent : ¬c.has .logging := by decide
  obtain ⟨-, read, -⟩ := ofText_of_choice Toml.format_faithful Level.format_faithful v c
  obtain ⟨⟨text, d, written, refused, same'⟩, read', -⟩ :=
    ofText_of_choice Toml.format_faithful Level.format_faithful v c'
  have headers : Toml.parse? "[transfer]\nmax_blocks = 7\n\n[codec]\n" =
      some [("transfer", .table .header [("max_blocks", .integer 7)]),
        ("codec", .table .header [])] := rfl
  have braces : Toml.parse? "codec = \x7b\x7d\ntransfer.max_blocks = 7\n" =
      some [("codec", .table .inline []),
        ("transfer", .table .dotted [("max_blocks", .integer 7)])] := rfl
  have same : SameDocument (c.table Level.format v)
      [("codec", .table []), ("transfer", .table [("max_blocks", .integer 7)])] :=
    (c.isDocument_table Level.format v).same
  exact ⟨override,
    (read _ _ (Toml.read_of_parse? headers) (same.trans_perm (.swap ..))).1 (.inl absent),
    (read _ _ (Toml.read_of_parse? braces) same).1 (.inl absent), text, written,
    (read' text d refused same').2 rfl .level rfl⟩

/-- A document that only sets the log level is refused, although everything else in its section has
a default. -/
theorem level_lost :
    let v : Settings := { logging := { level := .debug } }
    let c : Choice := ⟨(· = .logging), (· = .level), by intro k; cases k <;> decide⟩
    let text := "[logging]\nlog_level = \"debug\"\n"
    Toml.format.read text = some (c.table Level.format v) ∧
    c.override v = v ∧
    ofToml text = .error (.settings (.document (.missing "app_name"))) ∧
    ofToml text ≠ .ok (c.override v) := by
  intro v c text
  have document := c.isDocument_table Level.format v
  have written : Toml.format.write (c.table Level.format v) = some text := by decide +kernel
  obtain ⟨text', written', read⟩ := Toml.exists_write_read document
  obtain rfl : text = text' := Option.some.inj (written.symm.trans written')
  have refused : ofToml text = .error (.settings (.document (.missing "app_name"))) :=
    ofText_of_missing Level.format_faithful read document.same (k := .appName) rfl rfl
  refine ⟨read, rfl, refused, ?_⟩
  rw [refused]
  exact nofun

end Settings
end Tftp
