import Tftp.Proofs.Refusal
import Tftp.Proofs.Words

/-! # Overrides by the environment

Four variables decide on one setting each. A variable may be unset, have a text that it accepts, or
be faulty (`Environment.Faulty`), and what they do together comes from what each does by itself:

* settings are had exactly if no variable is faulty (`Environment.exists_settings_eq_ok_iff`), and
  then each variable decides its own setting alone (`Environment.settings_eq_ok_iff`);
* otherwise the first faulty variable is reported (`Environment.settings_eq_error_iff`), whatever
  the other variables hold, as long as none before it becomes faulty
  (`Environment.settings_eq_error_iff_of_same`).

Which texts stand for levels is left to a `Level.Format`. -/

namespace Tftp

/-! ### Single variables -/

/-- The variables that override a setting. -/
inductive Variable where
  | strictText
  | rejectRequestOptions
  | allowRollover
  | level
  deriving DecidableEq, Repr

namespace Variable

/-- The name in the environment. -/
def name : Variable → String
  | strictText => "TFTP_WIRE_STRICT_TEXT"
  | rejectRequestOptions => "TFTP_WIRE_REJECT_REQUEST_OPTIONS"
  | allowRollover => "TFTP_WIRE_ALLOW_BLOCK_ROLLOVER"
  | level => "TFTP_WIRE_LOG_LEVEL"

/-- The place in the order of reading. -/
def place : Variable → Nat
  | strictText => 0
  | rejectRequestOptions => 1
  | allowRollover => 2
  | level => 3

/-- The text is a value for the variable. -/
def Accepts (levels : Level.Format) : Variable → String → Prop
  | level, text => ∃ l, levels.parse? text = some l
  | _, text => ∃ b, FlagText text b

/-- The fault of a text that is no value for the variable. -/
def fault (x : Variable) (text : String) : Fault :=
  match x with
  | level => .settings (.invalidLevel x.name text)
  | _ => .settings (.invalidFlag x.name text)

theorem accepts_flag_iff {levels : Level.Format} {x : Variable} (flag : x ≠ .level)
    (text : String) : x.Accepts levels text ↔ ∃ b, FlagText text b := by
  cases x with
  | level => exact absurd rfl flag
  | _ => exact Iff.rfl

theorem eq_of_fault_eq {x y : Variable} {text other : String}
    (h : x.fault text = y.fault other) : x = y := by
  cases x <;> cases y <;> first | rfl | simp [fault, name] at h

theorem message_fault (x : Variable) (text : String) :
    (x.fault text).message =
      "Configuration error: Invalid " ++
        (if x = .level then x.name else "boolean for " ++ x.name) ++ ": " ++ text := by
  cases x <;> rfl

end Variable

namespace Environment

variable (env : Environment) (levels : Level.Format)

/-- The fault that the variable has by itself. -/
def Reports (x : Variable) (f : Fault) : Prop :=
  ∃ text, env.text? x.name = some text ∧ ¬x.Accepts levels text ∧ f = x.fault text

/-- The variable is set to something that is no value for it. -/
def Faulty (x : Variable) : Prop := ∃ f, env.Reports levels x f

theorem not_faulty_iff (x : Variable) :
    ¬env.Faulty levels x ↔ ∀ text, env.text? x.name = some text → x.Accepts levels text := by
  constructor
  · intro sound text set
    by_contra refused
    exact sound ⟨_, text, set, refused, rfl⟩
  · rintro accepts ⟨f, text, set, refused, -⟩
    exact refused (accepts text set)

/-- The variable has the same text in both environments, or none in both. -/
def Same (env env' : Environment) (x : Variable) : Prop := env.text? x.name = env'.text? x.name

/-- The variable decides on `a`: by what its text means, or by the default if it is not set. -/
def Gives {α : Type} (x : Variable) (Means : String → α → Prop) (default a : α) : Prop :=
  match env.text? x.name with
  | none => a = default
  | some text => Means text a

/-- A variable read by `parse`. -/
def readAs {α : Type} (x : Variable) (parse : String → Option α) (default : α) : Except Fault α :=
  match env.text? x.name with
  | none => .ok default
  | some text =>
    match parse text with
    | some a => .ok a
    | none => .error (x.fault text)

section

variable {env levels} {α : Type} {x : Variable} {parse : String → Option α}
  {Means : String → α → Prop} {d : α} (spec : ∀ text a, parse text = some a ↔ Means text a)
include spec

theorem readAs_eq_ok_iff (a : α) : env.readAs x parse d = .ok a ↔ env.Gives x Means d a := by
  rw [readAs, Gives]
  cases env.text? x.name with
  | none => exact ⟨fun h => (Except.ok.inj h).symm, fun h => h ▸ rfl⟩
  | some text =>
    dsimp only
    rw [← spec]
    cases parse text with
    | none => exact iff_of_false nofun nofun
    | some b => exact ⟨fun h => congrArg some (Except.ok.inj h), fun h => Option.some.inj h ▸ rfl⟩

theorem readAs_eq_error_iff (accepts : ∀ text, x.Accepts levels text ↔ ∃ a, Means text a)
    (f : Fault) : env.readAs x parse d = .error f ↔ env.Reports levels x f := by
  rw [readAs, Reports]
  cases env.text? x.name with
  | none => exact iff_of_false nofun nofun
  | some text =>
    simp only [accepts, ← spec, Option.some.injEq, exists_eq_left']
    cases parse text with
    | none => simp [eq_comm]
    | some b => simp

theorem exists_readAs_eq_ok_iff (accepts : ∀ text, x.Accepts levels text ↔ ∃ a, Means text a) :
    (∃ a, env.readAs x parse d = .ok a) ↔ ¬env.Faulty levels x := by
  simp only [Faulty, ← readAs_eq_error_iff (d := d) spec accepts]
  cases env.readAs x parse d <;> simp

theorem gives_unique {env' : Environment} (same : env.Same env' x) {a b : α}
    (h : env.Gives x Means d a) (h' : env'.Gives x Means d b) : a = b := by
  have read : env.readAs x parse d = env'.readAs x parse d := by rw [readAs, readAs, same]
  rw [(readAs_eq_ok_iff spec a).mpr h, (readAs_eq_ok_iff spec b).mpr h'] at read
  exact Except.ok.inj read

end

theorem flag_eq_readAs {x : Variable} (flag : x ≠ .level) (default : Bool) :
    env.flag x.name default = env.readAs x flagOf? default := by
  rw [Environment.flag, readAs]
  cases env.text? x.name with
  | none => rfl
  | some text =>
    dsimp only
    cases flagOf? text with
    | some b => rfl
    | none =>
      cases x with
      | level => exact absurd rfl flag
      | _ => rfl

theorem level_eq_readAs (default : Level) :
    env.level levels Variable.level.name default = env.readAs .level levels.parse? default := by
  rw [Environment.level, readAs]
  cases env.text? Variable.level.name with
  | none => rfl
  | some text =>
    dsimp only
    cases levels.parse? text <;> rfl

end Environment

/-! ### All variables -/

/-- Each variable decides on its own setting, and all other settings have their defaults. -/
structure Environment.Overrides (env : Environment) (levels : Level.Format) (s : Settings) :
    Prop where
  strictText : env.Gives .strictText FlagText false s.codec.strictText
  rejectRequestOptions :
    env.Gives .rejectRequestOptions FlagText false s.codec.rejectRequestOptions
  allowRollover : env.Gives .allowRollover FlagText true s.transfer.allowRollover
  level : env.Gives .level (fun text l => levels.parse? text = some l) .info s.logging.level
  maxBlocks : s.transfer.maxBlocks = 0
  appName : s.logging.appName = "tftp-wire"
  toConsole : s.logging.toConsole = true
  jsonFormat : s.logging.jsonFormat = false

namespace Environment

variable (env : Environment) {levels : Level.Format}

theorem settings_eq :
    env.settings levels = (do
      let strictText ← env.readAs .strictText flagOf? false
      let rejectRequestOptions ← env.readAs .rejectRequestOptions flagOf? false
      let allowRollover ← env.readAs .allowRollover flagOf? true
      let level ← env.readAs .level levels.parse? .info
      return ⟨⟨strictText, rejectRequestOptions⟩, { allowRollover }, { level }⟩) := by
  rw [← env.flag_eq_readAs (x := .strictText) (by decide),
    ← env.flag_eq_readAs (x := .rejectRequestOptions) (by decide),
    ← env.flag_eq_readAs (x := .allowRollover) (by decide), ← env.level_eq_readAs]
  rfl

variable {env}

theorem settings_eq_ok_iff (s : Settings) :
    env.settings levels = .ok s ↔ env.Overrides levels s := by
  simp only [settings_eq, Reading.bind_eq_ok_iff, Reading.pure_eq_ok_iff,
    readAs_eq_ok_iff flagOf?_eq_some_iff, readAs_eq_ok_iff fun _ _ => Iff.rfl]
  constructor
  · rintro ⟨a, strictText, b, rejectRequestOptions, c, allowRollover, l, level, rfl⟩
    exact ⟨strictText, rejectRequestOptions, allowRollover, level, rfl, rfl, rfl, rfl⟩
  · obtain ⟨⟨a, b⟩, ⟨c, maxBlocks⟩, ⟨appName, l, toConsole, jsonFormat⟩⟩ := s
    rintro ⟨strictText, rejectRequestOptions, allowRollover, level, rfl, rfl, rfl, rfl⟩
    exact ⟨a, strictText, b, rejectRequestOptions, c, allowRollover, l, level, rfl⟩

/-- Every variable is read only if those before it are not faulty. -/
theorem settings_eq_error_iff_cascade (f : Fault) :
    env.settings levels = .error f ↔
      env.Reports levels .strictText f ∨ ¬env.Faulty levels .strictText ∧
        (env.Reports levels .rejectRequestOptions f ∨ ¬env.Faulty levels .rejectRequestOptions ∧
          (env.Reports levels .allowRollover f ∨ ¬env.Faulty levels .allowRollover ∧
            env.Reports levels .level f)) := by
  have flagFails {x : Variable} (flag : x ≠ .level) (default : Bool) :
      env.readAs x flagOf? default = .error f ↔ env.Reports levels x f :=
    readAs_eq_error_iff flagOf?_eq_some_iff (Variable.accepts_flag_iff flag) f
  have levelFails (default : Level) :
      env.readAs .level levels.parse? default = .error f ↔ env.Reports levels .level f :=
    readAs_eq_error_iff (fun _ _ => Iff.rfl) (fun _ => Iff.rfl) f
  have flagHolds {x : Variable} (flag : x ≠ .level) (default : Bool) :
      (∃ b, env.readAs x flagOf? default = .ok b) ↔ ¬env.Faulty levels x :=
    exists_readAs_eq_ok_iff flagOf?_eq_some_iff (Variable.accepts_flag_iff flag)
  have done (s : Settings) : (pure s : Except Fault Settings) ≠ .error f := nofun
  rw [settings_eq]
  simp only [Reading.bind_eq_error_iff, done, and_false, exists_false, or_false, levelFails,
    exists_and_right, flagFails (x := .strictText) (by decide),
    flagFails (x := .rejectRequestOptions) (by decide),
    flagFails (x := .allowRollover) (by decide), flagHolds (x := .strictText) (by decide),
    flagHolds (x := .rejectRequestOptions) (by decide),
    flagHolds (x := .allowRollover) (by decide)]

theorem settings_eq_error_iff (f : Fault) :
    env.settings levels = .error f ↔
      ∃ x, env.Reports levels x f ∧ ∀ y : Variable, y.place < x.place → ¬env.Faulty levels y := by
  rw [settings_eq_error_iff_cascade]
  constructor
  · rintro (h | ⟨strictText, h | ⟨rejectRequestOptions, h | ⟨allowRollover, h⟩⟩⟩)
    all_goals
      refine ⟨_, h, fun y before => ?_⟩
      cases y <;> first | assumption | exact absurd before (by decide)
  · rintro ⟨x, h, earlier⟩
    cases x with
    | strictText => exact .inl h
    | rejectRequestOptions => exact .inr ⟨earlier _ (by decide), .inl h⟩
    | allowRollover =>
      exact .inr ⟨earlier _ (by decide), .inr ⟨earlier _ (by decide), .inl h⟩⟩
    | level =>
      exact .inr ⟨earlier _ (by decide), .inr ⟨earlier _ (by decide), .inr
        ⟨earlier _ (by decide), h⟩⟩⟩

theorem exists_settings_eq_ok_iff :
    (∃ s, env.settings levels = .ok s) ↔ ∀ x, ¬env.Faulty levels x := by
  have total : (∃ s, env.settings levels = .ok s) ↔ ∀ f, ¬env.settings levels = .error f := by
    cases env.settings levels <;> simp
  rw [total]
  simp only [settings_eq_error_iff_cascade]
  constructor
  · intro h
    -- In the order of reading: a fault counts only if the variables before it are sound.
    have strictText : ¬env.Faulty levels .strictText := fun ⟨f, reports⟩ => h f (.inl reports)
    have rejectRequestOptions : ¬env.Faulty levels .rejectRequestOptions :=
      fun ⟨f, reports⟩ => h f (.inr ⟨strictText, .inl reports⟩)
    have allowRollover : ¬env.Faulty levels .allowRollover :=
      fun ⟨f, reports⟩ => h f (.inr ⟨strictText, .inr ⟨rejectRequestOptions, .inl reports⟩⟩)
    have level : ¬env.Faulty levels .level := fun ⟨f, reports⟩ =>
      h f (.inr ⟨strictText, .inr ⟨rejectRequestOptions, .inr ⟨allowRollover, reports⟩⟩⟩)
    intro x
    cases x <;> assumption
  · rintro h f (reports | ⟨-, reports | ⟨-, reports | ⟨-, reports⟩⟩⟩) <;> exact h _ ⟨f, reports⟩

/-- A fault goes on being reported as long as its variable is not touched and no variable before it
becomes faulty. -/
theorem settings_eq_error_iff_of_same {env' : Environment} {x : Variable} {f : Fault}
    (reports : env.Reports levels x f) (same : env.Same env' x) :
    env'.settings levels = .error f ↔
      ∀ y : Variable, y.place < x.place → ¬env'.Faulty levels y := by
  have reports' : env'.Reports levels x f := by rwa [Reports, ← same]
  rw [settings_eq_error_iff]
  constructor
  · rintro ⟨x', ⟨text, -, -, fault⟩, earlier⟩
    obtain ⟨text', -, -, fault'⟩ := reports
    obtain rfl := Variable.eq_of_fault_eq (fault'.symm.trans fault)
    exact earlier
  · exact fun earlier => ⟨x, reports', earlier⟩

/-- **Overrides are independent, and all or nothing.** Settings are had exactly if every variable
that is set has a value that it accepts. Then each of them decides on its own setting and on nothing
else. Otherwise the first variable with another value is reported, by its name and with its value as
it is. Nothing that is done to the other variables changes this report unless a variable before it
becomes faulty. That changing or removing a valid variable does not change the report is said last,
and there the variable is meant to stay valid: one before the reported variable that is given a
value it does not accept is itself the first then, and is reported. -/
theorem settings_overrides (levels : Level.Format) (env : Environment) :
    ((∃ s, env.settings levels = .ok s) ↔
      ∀ (x : Variable) text, env.text? x.name = some text → x.Accepts levels text) ∧
    (∀ s, env.settings levels = .ok s ↔ env.Overrides levels s) ∧
    (∀ (env' : Environment) s s', env.settings levels = .ok s → env'.settings levels = .ok s' →
      (env.Same env' .strictText → s.codec.strictText = s'.codec.strictText) ∧
      (env.Same env' .rejectRequestOptions →
        s.codec.rejectRequestOptions = s'.codec.rejectRequestOptions) ∧
      (env.Same env' .allowRollover → s.transfer.allowRollover = s'.transfer.allowRollover) ∧
      (env.Same env' .level → s.logging.level = s'.logging.level)) ∧
    (∀ f, env.settings levels = .error f ↔
      ∃ x, env.Reports levels x f ∧ ∀ y : Variable, y.place < x.place → ¬env.Faulty levels y) ∧
    (∀ (x : Variable) text, (x.fault text).message =
      "Configuration error: Invalid " ++
        (if x = .level then x.name else "boolean for " ++ x.name) ++ ": " ++ text) ∧
    (∀ (env' : Environment) x f, env.Reports levels x f → env.Same env' x →
      (env'.settings levels = .error f ↔
        ∀ y : Variable, y.place < x.place → ¬env'.Faulty levels y)) ∧
    (∀ (env' : Environment) f, env.settings levels = .error f →
      (∀ x, env.Faulty levels x → env.Same env' x) →
      (∀ x, ¬env.Faulty levels x → ¬env'.Faulty levels x) → env'.settings levels = .error f) := by
  refine ⟨?_, settings_eq_ok_iff, ?_, settings_eq_error_iff, Variable.message_fault,
    fun _ _ _ => settings_eq_error_iff_of_same, ?_⟩
  · rw [exists_settings_eq_ok_iff]
    exact forall_congr' (env.not_faulty_iff levels)
  · intro env' s s' h h'
    have own := (settings_eq_ok_iff s).mp h
    have own' := (settings_eq_ok_iff s').mp h'
    have flag := flagOf?_eq_some_iff
    exact ⟨fun same => gives_unique flag same own.strictText own'.strictText,
      fun same => gives_unique flag same own.rejectRequestOptions own'.rejectRequestOptions,
      fun same => gives_unique flag same own.allowRollover own'.allowRollover,
      fun same => gives_unique (fun _ _ => Iff.rfl) same own.level own'.level⟩
  · intro env' f h kept sound
    obtain ⟨x, reports, earlier⟩ := (settings_eq_error_iff f).mp h
    exact (settings_eq_error_iff_of_same reports (kept x ⟨f, reports⟩)).mpr
      fun y before => sound y (earlier y before)

/-- Two faulty variables, of which the flag is reported; and still is, with a good value for the
other and a word for the flag before it. -/
theorem settings_overrides_maybe :
    let env : Environment :=
      [("TFTP_WIRE_LOG_LEVEL", Utf8.encode "loud"),
        ("TFTP_WIRE_REJECT_REQUEST_OPTIONS", Utf8.encode " maybe")]
    let env' : Environment :=
      [("TFTP_WIRE_LOG_LEVEL", Utf8.encode "+03"),
        ("TFTP_WIRE_REJECT_REQUEST_OPTIONS", Utf8.encode " maybe"),
        ("TFTP_WIRE_STRICT_TEXT", Utf8.encode "\u3000YeS\t")]
    let f : Fault := .settings (.invalidFlag "TFTP_WIRE_REJECT_REQUEST_OPTIONS" " maybe")
    Settings.ofEnvironment env = .error f ∧ Settings.ofEnvironment env' = .error f := by
  intro env env' f
  obtain ⟨-, -, -, reported, -, stays, -⟩ := settings_overrides Level.format env
  have refused : ¬Variable.rejectRequestOptions.Accepts Level.format " maybe" := by
    rintro ⟨b, meant⟩
    have none : flagOf? " maybe" = none := by decide +kernel
    rw [← flagOf?_eq_some_iff, none] at meant
    cases meant
  have reports : env.Reports Level.format .rejectRequestOptions f :=
    ⟨" maybe", by decide +kernel, refused, rfl⟩
  have unset : env.text? Variable.strictText.name = none := by decide +kernel
  have before (env : Environment) (sound : ¬env.Faulty Level.format .strictText) (y : Variable)
      (before : y.place < Variable.rejectRequestOptions.place) : ¬env.Faulty Level.format y := by
    cases y with
    | strictText => exact sound
    | _ => exact absurd before (by decide)
  constructor
  · refine (reported f).mpr ⟨_, reports, before env ?_⟩
    rw [env.not_faulty_iff, unset]
    exact nofun
  · refine (stays env' _ f reports (by unfold Same; decide +kernel)).mpr (before env' ?_)
    have set : env'.text? Variable.strictText.name = some "\u3000YeS\t" := by decide +kernel
    have yes : flagOf? "\u3000YeS\t" = some true := by decide +kernel
    rw [env'.not_faulty_iff, set]
    rintro text ⟨⟩
    exact ⟨true, (flagOf?_eq_some_iff _ _).mp yes⟩

end Environment
end Tftp
