/-
EmbeddedGo.Proofs.SettledOptions — options that are read again.

A document may spell a value in several ways, and reading it settles on one. The options that are read
can be written down as a document themselves, every value under its name (`entries`), and that document
is read as the same options, exactly if their base ends in a slash (`ofEntries_entries_iff`). What has
been read has such a base, so reading again changes nothing (`ofEntries_settles`).

The values that are read are fit for the rest of the program: the base can be put in front of a name, the
compiler knows the level, and a count of days is not below zero. Level and days are those that the
document gives, however it spells them.

  §1 options as a document
  §2 one value
  §3 all values
-/
import EmbeddedGo.Options

namespace EmbeddedGo.Options

/-! ## §1 Documents -/

/-- A count of days as a value. -/
def daysValue : Option Nat → Value
  | none => .null
  | some n => .int n

/-- The options as the entries of a document. -/
def entries (o : Options) : List (Value × Value) := [
  (.text "tinygo_path", .text o.tinygoPath),
  (.text "build_dir", .text o.buildDirectory),
  (.text "optimization", .text o.optimization.text),
  (.text "generate_types", .bool o.generateTypes),
  (.text "validate_exports", .bool o.validateExports),
  (.text "cleanup_days", daysValue o.cleanupDays),
  (.text "base", .text o.base)]

/-- The levels that the compiler knows, by their names. -/
def levelNames : List Text := ["0", "1", "2", "s", "z"]

/-- What a document says about the level, and the name that is settled on: that of the smallest binary
where it says nothing, and otherwise the name or the number that it gives. -/
inductive SettlesLevel : Option Value → Text → Prop where
  | absent : SettlesLevel none "z"
  | name (s : Text) : SettlesLevel (some (.text s)) s
  | number (i : Int) : SettlesLevel (some (.int i)) (Text.ofInt i)

/-- What a document says about days, and the count that is settled on: none where it says nothing, and
otherwise the whole number that it spells, if that is not below zero. -/
inductive SettlesDays : Option Value → Value → Prop where
  | absent : SettlesDays none .null
  | null : SettlesDays (some .null) .null
  | count {v : Value} {i : Int} (hv : readInt v = .ok i) (hi : 0 ≤ i) : SettlesDays (some v) (.int i)

/-! ## §2 One value -/

variable {α : Type} {es : List (Value × Value)} {name : Text} {d a : α} {v : Value} {o : Options}
  {read : Value → Except (Flaw × Value) α}

/-- A name is settled without an issue if it does not occur, or if its value is read. -/
theorem field_eq_iff : field es name d read = (a, []) ↔
    (Value.lookup? name es = none ∧ a = d) ∨
      ∃ v, Value.lookup? name es = some v ∧ read v = .ok a := by
  unfold field
  cases hv : Value.lookup? name es with
  | none => simp [eq_comm]
  | some v =>
    cases hr : read v with
    | error e => simp [hr]
    | ok b => simp [hr]

theorem text_mem_levelNames (level : Optimization) : level.text ∈ levelNames := by
  cases level <;> decide

theorem readLevelName_eq_ok_iff {s : Text} {level : Optimization} :
    readLevelName (.text s) = .ok level ↔ s = level.text := by
  rw [← Optimization.ofText?_eq_some_iff, readLevelName]
  cases Optimization.ofText? s with
  | none => simp
  | some found => simp

theorem readLevel_text (level : Optimization) : readLevel (.text level.text) = .ok level :=
  readLevelName_eq_ok_iff.2 rfl

/-- A level is read only from its name or its number. -/
theorem settlesLevel_of_readLevel {level : Optimization} (h : readLevel v = .ok level) :
    SettlesLevel (some v) level.text := by
  cases v with
  | int i =>
    simp only [readLevel] at h
    split at h
    · cases h
    · rw [← readLevelName_eq_ok_iff.1 h]
      exact .number i
  | text s =>
    have hname : readLevelName (.text s) = .ok level := h
    rw [← readLevelName_eq_ok_iff.1 hname]
    exact .name s
  | _ => cases h

theorem readDays_daysValue (days : Option Nat) : readDays (daysValue days) = .ok days := by
  cases days with
  | none => rfl
  | some n =>
    have hread : readInt (.int n) = .ok (n : Int) := rfl
    simp [daysValue, readDays, hread]

/-- A count of days is read only from a whole number that is one. -/
theorem settlesDays_of_readDays {days : Option Nat} (h : readDays v = .ok days) :
    SettlesDays (some v) (daysValue days) := by
  unfold readDays at h
  split at h
  · cases h
    exact .null
  · split at h
    · cases h
    · next i hi =>
      split at h
      · cases h
      · next hneg =>
        cases h
        have hcount : SettlesDays (some v) (.int i) := .count hi (by omega)
        have hnat : (i.toNat : Int) = i := Int.toNat_of_nonneg (by omega)
        rwa [← hnat] at hcount

theorem endsWith_withSlash (s : Text) : Text.endsWith (withSlash s) "/" = true := by
  unfold withSlash
  split
  · assumption
  · rw [Text.endsWith_iff]
    exact List.suffix_append s _

theorem withSlash_of_endsWith {s : Text} (h : Text.endsWith s "/" = true) : withSlash s = s :=
  if_pos h

/-! ## §3 All values -/

/-- The options that a document spells, each by its name. -/
structure Spells (es : List (Value × Value)) (o : Options) : Prop where
  tinygoPath : field es "tinygo_path" "tinygo".toList readString = (o.tinygoPath, [])
  buildDirectory : field es "build_dir" ".use-golang".toList readString = (o.buildDirectory, [])
  optimization : field es "optimization" .smallest readLevel = (o.optimization, [])
  generateTypes : field es "generate_types" false readBool = (o.generateTypes, [])
  validateExports : field es "validate_exports" false readBool = (o.validateExports, [])
  cleanupDays : field es "cleanup_days" none readDays = (o.cleanupDays, [])
  base : ∃ base, field es "base" "/".toList readString = (base, []) ∧ o.base = withSlash base

/-- What is read from a document without an issue is what it spells. -/
theorem ofEntries_eq_ok_iff : ofEntries es = .ok o ↔ Spells es o := by
  unfold ofEntries
  dsimp only
  constructor
  · intro h
    split at h
    · next hissues =>
      cases h
      simp only [List.append_eq_nil_iff] at hissues
      obtain ⟨⟨⟨⟨⟨⟨h1, h2⟩, h3⟩, h4⟩, h5⟩, h6⟩, h7⟩ := hissues
      exact ⟨Prod.ext rfl h1, Prod.ext rfl h2, Prod.ext rfl h3, Prod.ext rfl h4, Prod.ext rfl h5,
        Prod.ext rfl h6, _, Prod.ext rfl h7, rfl⟩
    · cases h
  · intro h
    obtain ⟨base, hbase, hslash⟩ := h.base
    simp only [h.tinygoPath, h.buildDirectory, h.optimization, h.generateTypes, h.validateExports,
      h.cleanupDays, hbase, List.append_nil, ← hslash]

/-- Whatever base a document gives, the one that it spells ends in a slash. -/
theorem Spells.endsWith_base (h : Spells es o) : Text.endsWith o.base "/" = true := by
  obtain ⟨base, -, hbase⟩ := h.base
  rw [hbase]
  exact endsWith_withSlash base

/-- Options are read back from their own document exactly if their base ends in a slash. -/
theorem ofEntries_entries_iff : ofEntries o.entries = .ok o ↔ Text.endsWith o.base "/" = true := by
  rw [ofEntries_eq_ok_iff]
  refine ⟨Spells.endsWith_base, fun h => ?_⟩
  exact {
    tinygoPath := field_eq_iff.2 (.inr ⟨_, rfl, rfl⟩)
    buildDirectory := field_eq_iff.2 (.inr ⟨_, rfl, rfl⟩)
    optimization := field_eq_iff.2 (.inr ⟨_, rfl, readLevel_text _⟩)
    generateTypes := field_eq_iff.2 (.inr ⟨_, rfl, rfl⟩)
    validateExports := field_eq_iff.2 (.inr ⟨_, rfl, rfl⟩)
    cleanupDays := field_eq_iff.2 (.inr ⟨_, rfl, readDays_daysValue _⟩)
    base := ⟨o.base, field_eq_iff.2 (.inr ⟨_, rfl, rfl⟩), (withSlash_of_endsWith h).symm⟩ }

/-- The level that is read is the one that the document settles on. -/
theorem Spells.settlesLevel (h : Spells es o) :
    SettlesLevel (Value.lookup? "optimization" es) o.optimization.text := by
  rcases field_eq_iff.1 h.optimization with ⟨hnone, hlevel⟩ | ⟨v, hv, hlevel⟩
  · rw [hnone, hlevel]
    exact .absent
  · rw [hv]
    exact settlesLevel_of_readLevel hlevel

/-- The count of days that is read is the one that the document settles on. -/
theorem Spells.settlesDays (h : Spells es o) :
    SettlesDays (Value.lookup? "cleanup_days" es) (daysValue o.cleanupDays) := by
  rcases field_eq_iff.1 h.cleanupDays with ⟨hnone, hdays⟩ | ⟨v, hv, hdays⟩
  · rw [hnone, hdays]
    exact .absent
  · rw [hv]
    exact settlesDays_of_readDays hdays

/-- Options that have been read are read again as themselves. Their base ends in a slash. Their level is
one that the compiler knows by its name, and the one that the document names. Their days are none, or the
whole number that the document spells, which is not below zero. -/
theorem ofEntries_settles (h : ofEntries es = .ok o) :
    ofEntries o.entries = .ok o ∧
      Text.endsWith o.base "/" = true ∧
      (∃ level, Value.lookup? "optimization" o.entries = some (.text level) ∧
        level ∈ levelNames ∧ Optimization.ofText? level = some o.optimization ∧
        SettlesLevel (Value.lookup? "optimization" es) level) ∧
      ∃ days, Value.lookup? "cleanup_days" o.entries = some days ∧
        SettlesDays (Value.lookup? "cleanup_days" es) days := by
  have hspells : Spells es o := ofEntries_eq_ok_iff.1 h
  have hslash : Text.endsWith o.base "/" = true := hspells.endsWith_base
  have hknown : Optimization.ofText? o.optimization.text = some o.optimization :=
    Optimization.ofText?_text o.optimization
  exact ⟨ofEntries_entries_iff.2 hslash, hslash,
    ⟨_, rfl, text_mem_levelNames _, hknown, hspells.settlesLevel⟩, ⟨_, rfl, hspells.settlesDays⟩⟩

/-- A document with other spellings of its values than the plain ones, and a name without a meaning. -/
def spelled : List (Value × Value) := [
  (.text "cleanup_days", .text " +1_0.00\n"),
  (.text "optimization", .int 2),
  (.text "generate_types", .text "YES"),
  (.text "colour", .list [.null]),
  (.text "validate_exports", .real (.finite false 1 0)),
  (.text "base", .text "/static")]

/-- What the document settles on. -/
def settled : Options :=
  { optimization := .full, generateTypes := true, validateExports := true, cleanupDays := some 10,
    base := "/static/" }

theorem ofEntries_settles_spelled :
    ofEntries spelled = .ok settled ∧ ofEntries settled.entries = .ok settled ∧
      Text.endsWith settled.base "/" = true ∧
      (∃ level, Value.lookup? "optimization" settled.entries = some (.text level) ∧
        level ∈ levelNames ∧ Optimization.ofText? level = some settled.optimization ∧
        SettlesLevel (Value.lookup? "optimization" spelled) level) ∧
      ∃ days, Value.lookup? "cleanup_days" settled.entries = some days ∧
        SettlesDays (Value.lookup? "cleanup_days" spelled) days := by
  have hlevel : readLevel (.int 2) = .ok .full := by
    have hshort : isUnwritable (.int 2) = false := by decide +kernel
    rw [readLevel, hshort]
    rfl
  have hspells : Spells spelled settled :=
    { tinygoPath := rfl
      buildDirectory := rfl
      optimization := field_eq_iff.2 (.inr ⟨_, rfl, hlevel⟩)
      generateTypes := rfl
      validateExports := rfl
      cleanupDays := rfl
      base := ⟨_, rfl, rfl⟩ }
  have hread : ofEntries spelled = .ok settled := ofEntries_eq_ok_iff.2 hspells
  exact ⟨hread, ofEntries_settles hread⟩

end EmbeddedGo.Options
