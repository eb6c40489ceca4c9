import ConnectionCatalog.Log.Configuration
import ConnectionCatalog.Proofs.Settings.Levels
import Mathlib.Data.List.Forall2

/-! # Proofs.Log.Configuration — settings and the logger that they configure

Settings accept the level of the log from any text that names one, and any settings that were
accepted configure the logger, whatever it was before.  So nothing is left of earlier
configurations, of handlers that others put there, or of a level and a way to other loggers.

Main statement: `configurations_forget`.
-/

namespace ConnectionCatalog.Log

namespace Logger

/-- The outcomes of some configurations, one after the other; each is given with the number of its
new handler. -/
def configurations : List (Settings × Nat) → Logger → List (Except Failure Unit × Logger)
  | [], _ => []
  | (s, number) :: calls, l =>
    let outcome := l.configure s number
    outcome :: configurations calls outcome.2

/-- What a configuration comes to. -/
structure Configured (call : Settings × Nat) (outcome : Except Failure Unit × Logger) : Prop where
  succeeds : outcome.1 = .ok ()
  /-- There is the new handler and no other, with the format that the settings ask for. -/
  handlers_eq : outcome.2.handlers =
    [⟨call.2, some (if call.1.logFormat = .json then .json else .text consoleTemplate)⟩]
  stays : outcome.2.propagates = false
  enabled_iff : ∀ level, outcome.2.enabled level = true ↔ call.1.logLevel.level ≤ level

/-- What has no level lies below all levels that can be set. -/
theorem reaches_level_iff (l : LogLevel) (level : Level) :
    reaches l.level level = true ↔ l.level ≤ level := by
  have hpositive : 0 < l.level := by cases l <;> decide
  rw [reaches, Bool.and_eq_true, decide_eq_true_eq, decide_eq_true_eq]
  exact ⟨fun h => h.2, fun h => ⟨Int.lt_of_lt_of_le hpositive h, h⟩⟩

/-- One configuration, of any logger. -/
theorem configured_configure (s : Settings) (number : Nat) (l : Logger) :
    Configured (s, number) (l.configure s number) := by
  have hformat : Formatter.ofFormat s.logFormat =
      if s.logFormat = .json then .json else .text consoleTemplate := by
    cases s.logFormat <;> rfl
  rw [configure_eq, hformat]
  exact ⟨rfl, rfl, rfl, fun level => reaches_level_iff s.logLevel level⟩

/-- Each of some configurations, from any logger on. -/
theorem configured_configurations (calls : List (Settings × Nat)) (l : Logger) :
    List.Forall₂ Configured calls (configurations calls l) := by
  induction calls generalizing l with
  | nil => exact .nil
  | cons call calls ih =>
    obtain ⟨s, number⟩ := call
    exact .cons (configured_configure s number l) (ih _)

end Logger

/-- Wherever the other settings are accepted, a text that is offered as the level of the log is
accepted exactly if it names one, apart from blanks around it and from letter case, and its name is
stored; it is all the same which source it comes from.  Whatever settings were accepted, they
configure whatever logger there is, and nothing is left of those that configured it before. -/
theorem configurations_forget :
    (∀ given environment file? base, Settings.IsBase given environment file? base →
      Settings.ReadsLevels (Settings.offering given environment file?) base) ∧
    (∀ given environment file? s,
      (Settings.sourced given environment file?).get? "LOG_LEVEL" = some (.text s) →
        Settings.ofSources given environment file? =
          Settings.offering given environment file? s) ∧
    ∀ (calls : List (Settings × Nat)) (l : Logger),
      List.Forall₂ Logger.Configured calls (l.configurations calls) :=
  ⟨fun _ _ _ _ h => Settings.readsLevels h, fun _ _ _ _ h => Settings.ofSources_eq_offering h,
    Logger.configured_configurations⟩

/-- A level in the environment, with a dotless i for each i and blanks around it, and a logger with
three handlers, two of which write alike; it is configured for text lines and then for JSON. -/
theorem configurations_forget_dotless :
    let given : Fields := .ofList [("LOG_FORMAT", .text "json")]
    let environment : TextMap String := .ofList [("LOG_LEVEL", "\u00A0Cr\u0131t\u0131cal\n")]
    let base : Settings := { Settings.defaults with logFormat := .json }
    let l : Logger :=
      ⟨"wrangler", [⟨4, none⟩, ⟨2, some .json⟩, ⟨3, some .json⟩], 5, true⟩
    Settings.IsBase given environment none base ∧
      (∃ t, Settings.ofSources given environment none = .ok t ∧
        t.fields.get? "LOG_LEVEL" = some (.text "CRITICAL") ∧
        Settings.offering given environment none "CRITICAL" = .ok t) ∧
      List.Forall₂ Logger.Configured [(.defaults, 7), (base, 8)]
        (l.configurations [(.defaults, 7), (base, 8)]) := by
  intro given environment base l
  obtain ⟨reads, offered, configured⟩ := configurations_forget
  have hbase : Settings.IsBase given environment none base := .inr ⟨"info", by rfl⟩
  have hname : String.ofList (Text.upperCase (Text.trim "\u00A0Cr\u0131t\u0131cal\n".toList)) =
      "CRITICAL" := by decide +kernel
  have hsourced := offered given environment none "\u00A0Cr\u0131t\u0131cal\n" (by rfl)
  have hlevels := reads given environment none base hbase
  obtain ⟨t, ht⟩ := (hlevels.accepted_iff "\u00A0Cr\u0131t\u0131cal\n").2 (by rw [hname]; decide)
  have hstored : t.fields.get? "LOG_LEVEL" = some (.text "CRITICAL") := by
    rw [(hlevels.stored _ t ht).1, hname]
  exact ⟨hbase, ⟨t, hsourced.trans ht, hstored, hlevels.again _ t _ ht hstored⟩, configured _ l⟩

end ConnectionCatalog.Log
