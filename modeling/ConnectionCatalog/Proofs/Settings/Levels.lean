import ConnectionCatalog.Proofs.Connection.Decoding
import ConnectionCatalog.Proofs.Text.Trimming
import ConnectionCatalog.Settings.Basic

/-! # Proofs.Settings.Levels — the level of the log among the settings

A text that is offered as the level of the log is trimmed and raised before it is compared with the
names of the levels.  What else is set does not matter, as far as it is accepted: the level alone
decides whether the settings are refused, and replaces the level that they would have otherwise.

Main statements: `Settings.offering_eq`, `Settings.readsLevels` and `Settings.ofSources_eq_offering`.
-/

namespace ConnectionCatalog

/-! ## Names of levels -/

namespace LogLevel

/-- Blanks around a text and the case of its letters in ASCII do not show in the name that is
looked up. -/
theorem normalized_padded {front back core core' : List Char}
    (hfront : ∀ b ∈ front, Text.isBlank b = true) (hback : ∀ b ∈ back, Text.isBlank b = true)
    (hcase : core.map Char.toUpper = core'.map Char.toUpper) :
    normalized (String.ofList (front ++ core ++ back)) = normalized (String.ofList core') := by
  have hraised : ∀ cs, Text.upperCase (Text.trim cs) =
      Text.upperCase (Text.trim (cs.map Char.toUpper)) := by
    intro cs
    rw [Text.trim_map_toUpper, Text.upperCase_map_toUpper]
  rw [normalized, normalized, String.toList_ofList, String.toList_ofList,
    Text.trim_padded hfront hback, hraised core, hcase, ← hraised core']

theorem normalized_name (l : LogLevel) : normalized l.name = l.name := by
  cases l <;> decide

theorem ofText?_eq_some_iff {s : String} {l : LogLevel} :
    ofText? s = some l ↔ normalized s = l.name := by
  constructor
  · intro h
    have hname := List.find?_some h
    exact (beq_iff_eq.1 hname).symm
  · intro h
    rw [← ofText?_name l, ofText?, ofText?, h, normalized_name]

theorem mem_names_iff {name : String} :
    name ∈ ["DEBUG", "INFO", "WARNING", "ERROR", "CRITICAL"] ↔ ∃ l : LogLevel, name = l.name := by
  constructor
  · intro h
    have hnames : ["DEBUG", "INFO", "WARNING", "ERROR", "CRITICAL"] = all.map LogLevel.name := rfl
    rw [hnames] at h
    obtain ⟨l, -, rfl⟩ := List.mem_map.1 h
    exact ⟨l, rfl⟩
  · rintro ⟨l, rfl⟩
    cases l <;> decide

end LogLevel

/-! ## Settings that a level is offered to -/

namespace Settings

variable {given : Fields} {environment : TextMap String} {file? : Option String}

/-- The settings that the sources give where a text is given as the level of the log. -/
def offering (given : Fields) (environment : TextMap String) (file? : Option String) (s : String) :
    Except Invalid Settings :=
  ofSources (given.insert "LOG_LEVEL" (.text s)) environment file?

/-- What is given goes before all other sources. -/
theorem sourced_insert {name : String} (h : name ∈ names) (v : Value) :
    sourced (given.insert name v) environment file? =
      (sourced given environment file?).insert name v := by
  refine TextMap.ext_get? fun k => ?_
  rw [TextMap.get?_insert]
  unfold sourced
  rw [TextMap.get?_ofList_filterMap, TextMap.get?_ofList_filterMap]
  by_cases hk : k = name
  · subst hk
    simp [h, lookup?]
  · simp [hk, lookup?, TextMap.get?_insert]

/-- Whatever source sets the level of the log, it is as if it had been given. -/
theorem ofSources_eq_offering {s : String}
    (h : (sourced given environment file?).get? "LOG_LEVEL" = some (.text s)) :
    ofSources given environment file? = offering given environment file? s := by
  rw [offering, ofSources, ofSources, sourced_insert (by decide), TextMap.insert_of_get? h]

/-- Settings that the sources give as they are, or where a text is given as the level. -/
def IsBase (given : Fields) (environment : TextMap String) (file? : Option String)
    (base : Settings) : Prop :=
  ofSources given environment file? = .ok base ∨
    ∃ s, offering given environment file? s = .ok base

theorem setting_insert_self {α : Type} (fs : Fields) (name : String) (v : Value) (absent : α)
    (check : Value → Except FieldFault α) :
    setting (fs.insert name v) name absent check = .atPath [name] (check v) := by
  rw [setting, Fields.optional, TextMap.get?_insert_self]

theorem setting_insert_of_ne {α : Type} {name other : String} (h : other ≠ name) (fs : Fields)
    (v : Value) (absent : α) (check : Value → Except FieldFault α) :
    setting (fs.insert name v) other absent check = setting fs other absent check := by
  rw [setting, setting, Fields.optional, Fields.optional, TextMap.get?_insert_of_ne h]

/-- Where settings are accepted, any other value takes the place of their level, or is what is
wrong with them. -/
theorem check_insert_level {fs : Fields} {base : Settings} (h : check fs = .ok base) (v : Value) :
    check (fs.insert "LOG_LEVEL" v) =
      (Checked.atPath ["LOG_LEVEL"] (checkLogLevel v)).map fun l =>
        { base with logLevel := l } := by
  have hother : ∀ {α : Type} {name : String} (_ : name ≠ "LOG_LEVEL") (absent : α)
      (c : Value → Except FieldFault α),
      setting (fs.insert "LOG_LEVEL" v) name absent c = setting fs name absent c :=
    fun hname => setting_insert_of_ne hname fs v
  rw [check, Checked.map_eq_ok_iff] at h
  obtain ⟨⟨environment, debug, level, format, url, echo, ping⟩, hall, rfl⟩ := h
  simp only [Checked.both_eq_ok_iff] at hall
  obtain ⟨henvironment, hdebug, -, hformat, hurl, hecho, hping⟩ := hall
  -- the other six settings are read as they were, so only the level can be refused
  rw [check, setting_insert_self, hother (by decide), hother (by decide), hother (by decide),
    hother (by decide), hother (by decide), hother (by decide), henvironment, hdebug, hformat,
    hurl, hecho, hping]
  cases checkLogLevel v with
  | ok l => rfl
  | error fault => rfl

theorem checkLogLevel_text (s : String) :
    checkLogLevel (.text s) =
      match LogLevel.ofText? s with
      | some l => .ok l
      | none => .error (.unknownLevel s) := by
  cases h : LogLevel.ofText? s with
  | some l => simp only [checkLogLevel, checkText_text, h]
  | none => simp only [checkLogLevel, checkText_text, h]

/-- Where the other settings are accepted, an offered level decides alone: the settings have it, or
are refused for the text as it was offered. -/
theorem offering_eq {base : Settings} (h : IsBase given environment file? base) (s : String) :
    offering given environment file? s =
      match LogLevel.ofText? s with
      | some l => .ok { base with logLevel := l }
      | none => .error ⟨recordName, [⟨["LOG_LEVEL"], .unknownLevel s⟩]⟩ := by
  have hcheck : check ((sourced given environment file?).insert "LOG_LEVEL" (.text s)) =
      (Checked.atPath ["LOG_LEVEL"] (checkLogLevel (.text s))).map fun l =>
        { base with logLevel := l } := by
    -- the base was accepted with the level of the sources, or with another text in its place
    rcases h with h | ⟨s₀, h⟩
    · exact check_insert_level (Checked.forRecord_eq_ok_iff.1 h) _
    · rw [offering, ofSources, sourced_insert (by decide)] at h
      rw [← check_insert_level (Checked.forRecord_eq_ok_iff.1 h), TextMap.insert_insert]
  rw [offering, ofSources, sourced_insert (by decide), ofFields, hcheck, checkLogLevel_text]
  cases LogLevel.ofText? s with
  | some l => rfl
  | none => rfl

/-- Settings hold the name of their level. -/
theorem get?_fields_level (t : Settings) :
    t.fields.get? "LOG_LEVEL" = some (.text t.logLevel.name) := by
  simp [fields, TextMap.ofList, TextMap.get?_insert]

/-- How settings read the texts that are offered as their level, where `base` is what they are
otherwise. -/
structure ReadsLevels (offer : String → Except Invalid Settings) (base : Settings) : Prop where
  /-- A text is accepted exactly if, trimmed and raised, it is the name of a level. -/
  accepted_iff : ∀ s, (∃ t, offer s = .ok t) ↔
    String.ofList (Text.upperCase (Text.trim s.toList)) ∈
      ["DEBUG", "INFO", "WARNING", "ERROR", "CRITICAL"]
  /-- The name is stored, and nothing else depends on the text. -/
  stored : ∀ s t, offer s = .ok t →
    t.fields.get? "LOG_LEVEL" =
        some (.text (String.ofList (Text.upperCase (Text.trim s.toList)))) ∧
      t = { base with logLevel := t.logLevel }
  /-- The stored name is accepted again, unchanged. -/
  again : ∀ s t name, offer s = .ok t → t.fields.get? "LOG_LEVEL" = some (.text name) →
    offer name = .ok t
  /-- Any other text is what is wrong, as it was offered. -/
  refused : ∀ s, (∀ t, offer s ≠ .ok t) →
    offer s = .error ⟨recordName, [⟨["LOG_LEVEL"], .unknownLevel s⟩]⟩
  /-- Blanks around a text and the case of its letters in ASCII do not matter. -/
  blind : ∀ front back core core' : List Char, (∀ b ∈ front, Text.isBlank b = true) →
    (∀ b ∈ back, Text.isBlank b = true) → core.map Char.toUpper = core'.map Char.toUpper →
    ∀ t, offer (.ofList (front ++ core ++ back)) = .ok t ↔ offer (.ofList core') = .ok t

/-- A text is accepted as the level that it names, and only so. -/
theorem offering_eq_ok_iff {base : Settings} (h : IsBase given environment file? base)
    {s : String} {t : Settings} :
    offering given environment file? s = .ok t ↔
      ∃ l : LogLevel, LogLevel.normalized s = l.name ∧ t = { base with logLevel := l } := by
  -- a text has at most one level
  rw [offering_eq h]
  cases hl : LogLevel.ofText? s with
  | some l =>
    have hname := LogLevel.ofText?_eq_some_iff.1 hl
    constructor
    · rintro ⟨⟩
      exact ⟨l, hname, rfl⟩
    · rintro ⟨l', hname', rfl⟩
      have hsame : l = l' := by
        rw [← Option.some_inj, ← hl]
        exact LogLevel.ofText?_eq_some_iff.2 hname'
      rw [hsame]
  | none =>
    constructor
    · rintro ⟨⟩
    · rintro ⟨l, hname, -⟩
      rw [LogLevel.ofText?_eq_some_iff.2 hname] at hl
      cases hl

theorem readsLevels {base : Settings} (h : IsBase given environment file? base) :
    ReadsLevels (offering given environment file?) base where
  accepted_iff s := by
    rw [LogLevel.mem_names_iff, ← LogLevel.normalized]
    constructor
    · rintro ⟨t, ht⟩
      obtain ⟨l, hname, -⟩ := (offering_eq_ok_iff h).1 ht
      exact ⟨l, hname⟩
    · rintro ⟨l, hname⟩
      exact ⟨_, (offering_eq_ok_iff h).2 ⟨l, hname, rfl⟩⟩
  stored s t ht := by
    obtain ⟨l, hname, rfl⟩ := (offering_eq_ok_iff h).1 ht
    rw [LogLevel.normalized] at hname
    rw [hname]
    exact ⟨get?_fields_level _, rfl⟩
  again s t name ht hname := by
    obtain ⟨l, -, rfl⟩ := (offering_eq_ok_iff h).1 ht
    rw [get?_fields_level, Option.some_inj, Value.text.injEq] at hname
    subst hname
    exact (offering_eq_ok_iff h).2 ⟨l, l.normalized_name, rfl⟩
  refused s hs := by
    have hnone : LogLevel.ofText? s = none := by
      cases hl : LogLevel.ofText? s with
      | none => rfl
      | some l =>
        have hname := LogLevel.ofText?_eq_some_iff.1 hl
        exact absurd ((offering_eq_ok_iff h).2 ⟨l, hname, rfl⟩) (hs _)
    rw [offering_eq h, hnone]
  blind front back core core' hfront hback hcase t := by
    rw [offering_eq_ok_iff h, offering_eq_ok_iff h,
      LogLevel.normalized_padded hfront hback hcase]

end Settings
end ConnectionCatalog
