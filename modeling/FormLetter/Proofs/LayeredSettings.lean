import FormLetter.Configuration.Load
import FormLetter.Proofs.SourceEntries

/-!
# Settings are decided key by key

Settings come from the environment and what an environment file adds to it, from
the file for the run mode, from the file for all run modes, and from the built-in
defaults. The first of these that sets a setting decides about it, and nothing
else does: settings can be loaded exactly if the values that decide can be
converted, and then each of them is its own value converted.

The formats of the files are a parameter: which of them are registered, and in
which order they are tried where a path leaves it open.

Specification: `Key` names the settings, `setting?` is what a source sets one to,
and `effective` the value that decides. `IsOrderly` says that a source sets every
setting at most once and to a scalar, and that it makes sections tables. The
environment is one source. `IsReadFrom` says what the settings have to be.

Results:

* `holds_combine`: the last of the sources that set a setting decides about it.
* `readSettings_eq_ok_iff`: the settings that are read from a configuration.
* `fullEnvironment_eq_append`: an environment file adds new variables behind the
  others.
* `load_decided_by_key`: the settings that are loaded.
-/

namespace FormLetter.Configuration

/-! ## Specification -/

/-- A setting. -/
inductive Key
  | host
  | port
  | maxBodyBytes
  | unsubscribeBase
  | maxBatchSize
  | maxOutputBytes
  | logFormat
  deriving DecidableEq, Repr

namespace Scalar

/-- The port that a scalar stands for. -/
def port? (s : Scalar) : Option ℕ := s.natural?.filter (· < 65536)

/-- The log format that a scalar stands for. -/
def logFormat? : Scalar → Option LogFormat
  | text t => logFormatOf? t
  | _ => none

end Scalar

namespace Key

/-- All settings. -/
def all : List Key :=
  [host, port, maxBodyBytes, unsubscribeBase, maxBatchSize, maxOutputBytes, logFormat]

theorem mem_all (key : Key) : key ∈ all := by
  cases key <;> decide

instance (p : Key → Prop) [DecidablePred p] : Decidable (∀ key, p key) :=
  decidable_of_iff (∀ key ∈ all, p key) ⟨fun h key => h key (mem_all key), fun h key _ => h key⟩

/-- The section of a setting. -/
def sectionName : Key → Text
  | host | port | maxBodyBytes => "server".toList
  | unsubscribeBase | maxBatchSize | maxOutputBytes => "merge".toList
  | logFormat => "log".toList

/-- The name of a setting in its section. -/
def field : Key → Text
  | host => "host".toList
  | port => "port".toList
  | maxBodyBytes => "max_body_bytes".toList
  | unsubscribeBase => "unsubscribe_base".toList
  | maxBatchSize => "max_batch_size".toList
  | maxOutputBytes => "max_output_bytes".toList
  | logFormat => "format".toList

/-- The built-in default of a setting. -/
def builtin : Key → Scalar
  | host => .text "0.0.0.0".toList
  | port => .integer 8081
  | maxBodyBytes => .integer 10485760
  | unsubscribeBase => .text "https://example.com/unsubscribe".toList
  | maxBatchSize => .integer 10000
  | maxOutputBytes => .integer 67108864
  | logFormat => .text "text".toList

/-- Whether a scalar can be converted to the type of a setting. -/
def converts : Key → Scalar → Bool
  | host, s | unsubscribeBase, s => s.text?.isSome
  | port, s => s.port?.isSome
  | maxBodyBytes, s | maxBatchSize, s | maxOutputBytes, s => s.natural?.isSome
  | logFormat, s => s.logFormat?.isSome

end Key

/-- The values to which a source sets a setting. -/
def settingsAt (key : Key) (source : List (Text × Value)) : List Value :=
  valuesAt key.sectionName key.field source

/-- The scalar to which a source sets a setting. -/
def setting? (key : Key) (source : List (Text × Value)) : Option Scalar :=
  (settingsAt key source).head?.bind Value.scalar?

/-- What a source has to be for its settings to be told: sections are tables, and
every setting is set to a scalar, and not twice. -/
structure IsOrderly (source : List (Text × Value)) : Prop where
  tables : ∀ key : Key, ∀ entry ∈ source, (entriesIn? key.sectionName entry).isSome
  scalars : ∀ key : Key, ∀ v ∈ settingsAt key source, v.scalar?.isSome
  once : ∀ key : Key, (settingsAt key source).length ≤ 1

instance (source : List (Text × Value)) : Decidable (IsOrderly source) :=
  decidable_of_iff
    ((∀ key : Key, ∀ entry ∈ source, (entriesIn? key.sectionName entry).isSome) ∧
      (∀ key : Key, ∀ v ∈ settingsAt key source, v.scalar?.isSome) ∧
      ∀ key : Key, (settingsAt key source).length ≤ 1)
    ⟨fun h => ⟨h.1, h.2.1, h.2.2⟩, fun h => ⟨h.tables, h.scalars, h.once⟩⟩

/-- The value of a setting in the first source that sets it, or else the built-in
default. -/
def effective (sources : List (List (Text × Value))) (key : Key) : Scalar :=
  (sources.findSome? (setting? key)).getD key.builtin

/-- The variables that the environment file adds to the environment. -/
def addedVariables (env : Environment) (files : Files) : Environment :=
  (fullEnvironment env files).drop env.length

/-- Each setting is its own value converted. -/
structure IsReadFrom (value : Key → Scalar) (s : Settings) : Prop where
  host : (value .host).text? = some s.server.host
  port : (value .port).port? = some s.server.port
  maxBodyBytes : (value .maxBodyBytes).natural? = some s.server.maxBodyBytes
  unsubscribeBase : (value .unsubscribeBase).text? = some s.merge.unsubscribeBase
  maxBatchSize : (value .maxBatchSize).natural? = some s.merge.maxBatchSize
  maxOutputBytes : (value .maxOutputBytes).natural? = some s.merge.maxOutputBytes
  logFormat : (value .logFormat).logFormat? = some s.log.format

instance (value : Key → Scalar) (s : Settings) : Decidable (IsReadFrom value s) :=
  decidable_of_iff
    ((value .host).text? = some s.server.host ∧ (value .port).port? = some s.server.port ∧
      (value .maxBodyBytes).natural? = some s.server.maxBodyBytes ∧
      (value .unsubscribeBase).text? = some s.merge.unsubscribeBase ∧
      (value .maxBatchSize).natural? = some s.merge.maxBatchSize ∧
      (value .maxOutputBytes).natural? = some s.merge.maxOutputBytes ∧
      (value .logFormat).logFormat? = some s.log.format)
    ⟨fun ⟨hhost, hport, hbytes, hbase, hsize, houtput, hformat⟩ =>
        ⟨hhost, hport, hbytes, hbase, hsize, houtput, hformat⟩,
      fun h => ⟨h.host, h.port, h.maxBodyBytes, h.unsubscribeBase, h.maxBatchSize,
        h.maxOutputBytes, h.logFormat⟩⟩

/-! ## Sources one after the other -/

/-- A configuration has a scalar for a setting. -/
def Value.Holds (value : Value) (key : Key) (s : Scalar) : Prop :=
  ∃ origin, value.field? key.sectionName key.field = some (.scalar origin s)

theorem Value.exists_of_scalar? {value : Value} {s : Scalar} (h : value.scalar? = some s) :
    ∃ origin, value = .scalar origin s := by
  cases value with
  | scalar origin s' =>
    rw [scalar?] at h
    split_ifs at h with hnothing
    obtain rfl := Option.some.inj h
    exact ⟨origin, rfl⟩
  | list origin items => cases h
  | table origin entries => cases h

/-- What a source can do with a setting. -/
theorem IsOrderly.cases {source : List (Text × Value)} (h : IsOrderly source) (key : Key) :
    (settingsAt key source = [] ∧ setting? key source = none) ∨
    ∃ origin s, settingsAt key source = [.scalar origin s] ∧ setting? key source = some s := by
  have hscalars := h.scalars key
  have honce := h.once key
  rw [setting?]
  match settingsAt key source, hscalars, honce with
  | [], _, _ => exact .inl ⟨rfl, rfl⟩
  | [v], hscalars, _ =>
    obtain ⟨s, hs⟩ := Option.isSome_iff_exists.mp (hscalars v List.mem_cons_self)
    obtain ⟨origin, rfl⟩ := Value.exists_of_scalar? hs
    exact .inr ⟨origin, s, rfl, hs⟩
  | _ :: _ :: rest, _, honce =>
    rw [List.length_cons, List.length_cons] at honce
    omega

/-- A source is orderly if all that it sets are scalars, one for a setting. -/
theorem IsOrderly.of_settingsAt {source : List (Text × Value)} {origin : Option Text}
    {assigned? : Key → Option Scalar}
    (htables : ∀ key : Key, ∀ entry ∈ source, (entriesIn? key.sectionName entry).isSome)
    (h : ∀ key, settingsAt key source = ((assigned? key).map (Value.scalar origin)).toList)
    (hscalars : ∀ key s, assigned? key = some s → s ≠ .nothing) :
    IsOrderly source ∧ ∀ key, setting? key source = assigned? key := by
  have hscalar {key : Key} {s : Scalar} (hs : assigned? key = some s) :
      (Value.scalar origin s).scalar? = some s := by
    rw [Value.scalar?, if_neg (hscalars key s hs)]
  refine ⟨⟨htables, fun key v hv => ?_, fun key => ?_⟩, fun key => ?_⟩
  · rw [h, Option.mem_toList, Option.map_eq_some_iff] at hv
    obtain ⟨s, hs, rfl⟩ := hv
    rw [hscalar hs]
    rfl
  · rw [h]
    exact Option.length_toList_le
  · rw [setting?, h]
    cases hs : assigned? key with
    | none => rfl
    | some s => exact hscalar hs

/-- A source decides about the settings that it sets, and leaves the others. -/
theorem holds_applySource {source : List (Text × Value)} (h : IsOrderly source) {value : Value}
    {key : Key} {s : Scalar} (hvalue : value.Holds key s) :
    (value.applySource source).Holds key ((setting? key source).getD s) := by
  have hfield := field?_applySource (h.tables key) (h.scalars key) value
  rw [Value.Holds, hfield]
  change ∃ origin, (settingsAt key source).getLast?.or _ = _
  rcases h.cases key with ⟨hvalues, hsetting⟩ | ⟨origin, s', hvalues, hsetting⟩
  · rw [hvalues, hsetting]
    exact hvalue
  · rw [hvalues, hsetting]
    exact ⟨origin, rfl⟩

/-- The induction is on the sources, the earlier ones first. -/
theorem holds_foldl_applySource {sources : List (List (Text × Value))}
    (h : ∀ source ∈ sources, IsOrderly source) {value : Value} {key : Key} {s : Scalar}
    (hvalue : value.Holds key s) :
    (sources.foldl Value.applySource value).Holds key
      ((sources.reverse.findSome? (setting? key)).getD s) := by
  induction sources generalizing value s with
  | nil => exact hvalue
  | cons source sources ih =>
    obtain ⟨hsource, hsources⟩ := List.forall_mem_cons.mp h
    rw [List.foldl_cons, List.reverse_cons, List.findSome?_append, Option.getD_or,
      List.findSome?_singleton]
    exact ih hsources (holds_applySource hsource hvalue)

theorem holds_defaults (key : Key) : (combine [defaults]).Holds key key.builtin := by
  have hdefault : ∀ key : Key,
      ((combine [defaults]).field? key.sectionName key.field).bind Value.scalar? =
        some key.builtin := by
    decide +kernel
  obtain ⟨v, hv, hscalar⟩ := Option.bind_eq_some_iff.mp (hdefault key)
  obtain ⟨origin, rfl⟩ := Value.exists_of_scalar? hscalar
  exact ⟨origin, hv⟩

/-- The last of the sources that set a setting decides about it. -/
theorem holds_combine {sources : List (List (Text × Value))}
    (h : ∀ source ∈ sources, IsOrderly source) (key : Key) :
    (combine (defaults :: sources)).Holds key (effective sources.reverse key) := by
  have hcombine : combine (defaults :: sources) =
      sources.foldl Value.applySource (combine [defaults]) := by
    rw [combine, List.foldl_cons, combine, List.foldl_cons, List.foldl_nil]
  rw [hcombine, effective]
  exact holds_foldl_applySource h (holds_defaults key)

theorem setting?_append {source others : List (Text × Value)} (h : IsOrderly (source ++ others))
    (key : Key) :
    setting? key (source ++ others) = (setting? key source).or (setting? key others) := by
  have happend : settingsAt key (source ++ others) =
      settingsAt key source ++ settingsAt key others :=
    List.flatMap_append
  have hscalars := h.scalars key
  rw [happend] at hscalars
  rw [setting?, happend, setting?, setting?]
  match settingsAt key source, hscalars with
  | [], _ => rfl
  | v :: _, hscalars =>
    obtain ⟨s, hs⟩ := Option.isSome_iff_exists.mp (hscalars v List.mem_cons_self)
    rw [List.cons_append, List.head?_cons, List.head?_cons, Option.bind_some, hs, Option.some_or]

/-- The two parts of an orderly source may be told apart. -/
theorem effective_append {source others : List (Text × Value)} (h : IsOrderly (source ++ others))
    (rest : List (List (Text × Value))) :
    effective ((source ++ others) :: rest) = effective (source :: others :: rest) := by
  funext key
  rw [effective, effective, List.findSome?_cons, List.findSome?_cons, List.findSome?_cons,
    setting?_append h]
  cases setting? key source <;> rfl

/-! ## Reading -/

theorem bind_eq_ok {ε α β : Type} {x : Except ε α} {f : α → Except ε β} {b : β} :
    x >>= f = .ok b ↔ ∃ a, x = .ok a ∧ f a = .ok b := by
  cases x with
  | error e => exact ⟨fun h => (by cases h), fun ⟨a, ha, _⟩ => (by cases ha)⟩
  | ok a => exact ⟨fun h => ⟨a, rfl, h⟩, fun ⟨a', ha, h⟩ => Except.ok.inj ha ▸ h⟩

theorem readText_eq_ok_iff {key t : Text} {origin : Option Text} {s : Scalar} :
    readText key (.scalar origin s) = .ok t ↔ s.text? = some t := by
  cases h : s.text? <;> simp [readText, h]

theorem readNatural_eq_ok_iff {key : Text} {n : ℕ} {origin : Option Text} {s : Scalar} :
    readNatural key (.scalar origin s) = .ok n ↔ s.natural? = some n := by
  cases h : s.natural? <;> simp [readNatural, h]

theorem readPort_eq_ok_iff {key : Text} {n : ℕ} {origin : Option Text} {s : Scalar} :
    readPort key (.scalar origin s) = .ok n ↔ s.port? = some n := by
  rw [readPort, bind_eq_ok, Scalar.port?, Option.filter_eq_some_iff]
  constructor
  · rintro ⟨n', hn', hport⟩
    split_ifs at hport with hlt
    obtain rfl := Except.ok.inj hport
    exact ⟨readNatural_eq_ok_iff.mp hn', decide_eq_true hlt⟩
  · rintro ⟨hn, hlt⟩
    exact ⟨n, readNatural_eq_ok_iff.mpr hn, if_pos (of_decide_eq_true hlt)⟩

theorem readLogFormat_eq_ok_iff {key : Text} {format : LogFormat} {origin : Option Text}
    {s : Scalar} :
    readLogFormat key (.scalar origin s) = .ok format ↔ s.logFormat? = some format := by
  cases s with
  | text t => cases h : logFormatOf? t <;> simp [readLogFormat, Scalar.logFormat?, h]
  | _ => simp [readLogFormat, Scalar.logFormat?]

/-- A section that has a field is a table, and its fields are read one by one. -/
theorem exists_fieldsOf {value v : Value} {sectionName field : Text}
    (h : value.field? sectionName field = some v) (expected : Text) (names : List Text) :
    ∃ fields, fieldsOf sectionName expected names (value.get? sectionName) = .ok fields ∧
      ∀ {α : Type} {i : ℕ} {name : Text} {new : Value} (absent : α)
        (read : Text → Value → Except Fault α), names[i]? = some name →
          value.field? sectionName name = some new →
            readField fields i absent read = read (sectionName ++ '.' :: name) new := by
  obtain ⟨target, htarget, hget⟩ := Option.bind_eq_some_iff.mp h
  cases target with
  | scalar origin s => cases hget
  | list origin items => cases hget
  | table origin entries =>
    refine ⟨names.map fun name => (sectionName ++ '.' :: name, entries.lookup name), ?_, ?_⟩
    · rw [htarget, fieldsOf]
    · intro α i name new absent read hname hnew
      have hlookup : entries.lookup name = some new := by
        rwa [Value.field?, htarget, Option.bind_some] at hnew
      rw [readField, List.getElem?_map, hname, Option.map_some, hlookup]

variable {value : Value} {scalars : Key → Scalar}

theorem readServer_eq_ok_iff (h : ∀ key, value.Holds key (scalars key)) (server : ServerSettings) :
    readServer (value.get? "server".toList) = .ok server ↔
      (scalars .host).text? = some server.host ∧ (scalars .port).port? = some server.port ∧
        (scalars .maxBodyBytes).natural? = some server.maxBodyBytes := by
  obtain ⟨_, hhost⟩ := h .host
  obtain ⟨_, hport⟩ := h .port
  obtain ⟨_, hbytes⟩ := h .maxBodyBytes
  obtain ⟨fields, hfields, hread⟩ := exists_fieldsOf hhost "struct ServerConfig".toList
    ["host".toList, "port".toList, "max_body_bytes".toList]
  change fieldsOf "server".toList _ _ (value.get? "server".toList) = _ at hfields
  rw [readServer, hfields]
  change (do
    let host ← readField fields 0 _ readText
    let port ← readField fields 1 _ readPort
    let bytes ← readField fields 2 _ readNatural
    .ok (ServerSettings.mk host port bytes)) = _ ↔ _
  rw [hread _ _ rfl hhost, hread _ _ rfl hport, hread _ _ rfl hbytes]
  simp only [bind_eq_ok, readText_eq_ok_iff, readPort_eq_ok_iff, readNatural_eq_ok_iff]
  constructor
  · rintro ⟨_, hhost, _, hport, _, hbytes, hserver⟩
    obtain rfl := Except.ok.inj hserver
    exact ⟨hhost, hport, hbytes⟩
  · rintro ⟨hhost, hport, hbytes⟩
    exact ⟨_, hhost, _, hport, _, hbytes, rfl⟩

theorem readMerge_eq_ok_iff (h : ∀ key, value.Holds key (scalars key)) (merge : MergeSettings) :
    readMerge (value.get? "merge".toList) = .ok merge ↔
      (scalars .unsubscribeBase).text? = some merge.unsubscribeBase ∧
        (scalars .maxBatchSize).natural? = some merge.maxBatchSize ∧
        (scalars .maxOutputBytes).natural? = some merge.maxOutputBytes := by
  obtain ⟨_, hbase⟩ := h .unsubscribeBase
  obtain ⟨_, hsize⟩ := h .maxBatchSize
  obtain ⟨_, hbytes⟩ := h .maxOutputBytes
  obtain ⟨fields, hfields, hread⟩ := exists_fieldsOf hbase "struct MergeConfig".toList
    ["unsubscribe_base".toList, "max_batch_size".toList, "max_output_bytes".toList]
  change fieldsOf "merge".toList _ _ (value.get? "merge".toList) = _ at hfields
  rw [readMerge, hfields]
  change (do
    let base ← readField fields 0 _ readText
    let size ← readField fields 1 _ readNatural
    let bytes ← readField fields 2 _ readNatural
    .ok (MergeSettings.mk base size bytes)) = _ ↔ _
  rw [hread _ _ rfl hbase, hread _ _ rfl hsize, hread _ _ rfl hbytes]
  simp only [bind_eq_ok, readText_eq_ok_iff, readNatural_eq_ok_iff]
  constructor
  · rintro ⟨_, hbase, _, hsize, _, hbytes, hmerge⟩
    obtain rfl := Except.ok.inj hmerge
    exact ⟨hbase, hsize, hbytes⟩
  · rintro ⟨hbase, hsize, hbytes⟩
    exact ⟨_, hbase, _, hsize, _, hbytes, rfl⟩

theorem readLog_eq_ok_iff (h : ∀ key, value.Holds key (scalars key)) (log : LogSettings) :
    readLog (value.get? "log".toList) = .ok log ↔
      (scalars .logFormat).logFormat? = some log.format := by
  obtain ⟨_, hformat⟩ := h .logFormat
  obtain ⟨fields, hfields, hread⟩ := exists_fieldsOf hformat "struct LogConfig".toList
    ["format".toList]
  change fieldsOf "log".toList _ _ (value.get? "log".toList) = _ at hfields
  rw [readLog, hfields]
  change (do
    let format ← readField fields 0 _ readLogFormat
    .ok (LogSettings.mk format)) = _ ↔ _
  rw [hread _ _ rfl hformat]
  simp only [bind_eq_ok, readLogFormat_eq_ok_iff]
  constructor
  · rintro ⟨_, hformat, hlog⟩
    obtain rfl := Except.ok.inj hlog
    exact hformat
  · intro hformat
    exact ⟨_, hformat, rfl⟩

/-- Where every setting has a scalar, settings are read from these. -/
theorem readSettings_eq_ok_iff (h : ∀ key, value.Holds key (scalars key)) (s : Settings) :
    readSettings value = .ok s ↔ IsReadFrom scalars s := by
  rw [readSettings]
  simp only [bind_eq_ok, readServer_eq_ok_iff h, readMerge_eq_ok_iff h, readLog_eq_ok_iff h]
  constructor
  · rintro ⟨_, ⟨hhost, hport, hbytes⟩, _, ⟨hbase, hsize, houtput⟩, _, hformat, hs⟩
    obtain rfl := Except.ok.inj hs
    exact ⟨hhost, hport, hbytes, hbase, hsize, houtput, hformat⟩
  · rintro ⟨hhost, hport, hbytes, hbase, hsize, houtput, hformat⟩
    exact ⟨_, ⟨hhost, hport, hbytes⟩, _, ⟨hbase, hsize, houtput⟩, _, hformat, rfl⟩

/-- There are such settings exactly if every scalar can be converted. -/
theorem exists_isReadFrom_iff {scalars : Key → Scalar} :
    (∃ s, IsReadFrom scalars s) ↔ ∀ key : Key, key.converts (scalars key) = true := by
  constructor
  · rintro ⟨s, h⟩ key
    cases key with
    | host => exact Option.isSome_of_eq_some h.host
    | port => exact Option.isSome_of_eq_some h.port
    | maxBodyBytes => exact Option.isSome_of_eq_some h.maxBodyBytes
    | unsubscribeBase => exact Option.isSome_of_eq_some h.unsubscribeBase
    | maxBatchSize => exact Option.isSome_of_eq_some h.maxBatchSize
    | maxOutputBytes => exact Option.isSome_of_eq_some h.maxOutputBytes
    | logFormat => exact Option.isSome_of_eq_some h.logFormat
  · intro h
    obtain ⟨host, hhost⟩ := Option.isSome_iff_exists.mp (h .host)
    obtain ⟨port, hport⟩ := Option.isSome_iff_exists.mp (h .port)
    obtain ⟨bytes, hbytes⟩ := Option.isSome_iff_exists.mp (h .maxBodyBytes)
    obtain ⟨base, hbase⟩ := Option.isSome_iff_exists.mp (h .unsubscribeBase)
    obtain ⟨size, hsize⟩ := Option.isSome_iff_exists.mp (h .maxBatchSize)
    obtain ⟨output, houtput⟩ := Option.isSome_iff_exists.mp (h .maxOutputBytes)
    obtain ⟨format, hformat⟩ := Option.isSome_iff_exists.mp (h .logFormat)
    exact ⟨⟨⟨host, port, bytes⟩, ⟨base, size, output⟩, ⟨format⟩⟩,
      hhost, hport, hbytes, hbase, hsize, houtput, hformat⟩

/-! ## The environment -/

namespace Environment

theorem source_append (env others : Environment) :
    source (env ++ others) = source env ++ source others :=
  List.filterMap_append

/-- An environment has the variables of another one, and only new ones behind them. -/
def Extends (full env : Environment) : Prop :=
  ∃ added, full = env ++ added ∧ ∀ v ∈ added, env.get? v.1 = none

theorem Extends.refl (env : Environment) : Extends env env :=
  ⟨[], (List.append_nil env).symm, fun _ hv => absurd hv List.not_mem_nil⟩

theorem Extends.trans {full middle env : Environment} (h : Extends full middle)
    (h' : Extends middle env) : Extends full env := by
  obtain ⟨later, rfl, hlater⟩ := h
  obtain ⟨added, rfl, hadded⟩ := h'
  refine ⟨added ++ later, List.append_assoc env added later, ?_⟩
  refine List.forall_mem_append.mpr ⟨hadded, fun v hv => ?_⟩
  have hnone := hlater v hv
  rw [get?, List.lookup_append, Option.or_eq_none_iff] at hnone
  exact hnone.1

theorem addNew_extends (env : Environment) (name text : Text) :
    Extends (env.addNew name text) env := by
  rw [addNew]
  split_ifs with h
  · exact Extends.refl env
  · refine ⟨[(name, text)], rfl, List.forall_mem_singleton.mpr ?_⟩
    exact Option.not_isSome_iff_eq_none.mp h

end Environment

/-- The induction is on the lines, and the environment grows with them. -/
theorem DotEnv.addLines_extends (lines : List (Option Text)) (env : Environment) :
    (addLines env lines).Extends env := by
  induction lines generalizing env with
  | nil => exact Environment.Extends.refl env
  | cons line rest ih =>
    cases line with
    | none => exact Environment.Extends.refl env
    | some line =>
      rw [addLines]
      match statement? env line with
      | none => exact Environment.Extends.refl env
      | some .nothing => exact ih env
      | some (.assign name text) => exact (ih _).trans (Environment.addNew_extends env name text)

theorem fullEnvironment_extends (env : Environment) (files : Files) :
    (fullEnvironment env files).Extends env := by
  rw [fullEnvironment]
  cases files.lookup dotEnvPath with
  | some file => exact DotEnv.addLines_extends _ env
  | none => exact Environment.Extends.refl env

theorem fullEnvironment_eq_append (env : Environment) (files : Files) :
    fullEnvironment env files = env ++ addedVariables env files ∧
      ∀ v ∈ addedVariables env files, env.get? v.1 = none := by
  obtain ⟨added, hfull, hnew⟩ := fullEnvironment_extends env files
  have hadded : addedVariables env files = added := by
    rw [addedVariables, hfull, List.drop_left]
  rw [hadded]
  exact ⟨hfull, hnew⟩

/-! ## Loading -/

theorem settingsOf_eq_ok_iff {value : Value} {s : Settings} :
    settingsOf value = .ok s ↔ readSettings value = .ok s := by
  rw [settingsOf]
  cases readSettings value <;> simp [Except.mapError]

/-- The environment has its own variables in front of those that the environment
file adds, and these are new. Settings can be loaded exactly if the value that
decides about each of them can be converted, and are what it converts to. The
formats of the files may be any, and may be tried in any order. -/
theorem load_decided_by_key {env : Environment} {files : Files} {formats : List FileFormat}
    {common special : List (Text × Value)}
    (hcommon : fileSource files (filePath "default".toList) formats = .ok common)
    (hspecial : fileSource files (filePath (runMode (fullEnvironment env files))) formats =
      .ok special)
    (hcommonOrderly : IsOrderly common) (hspecialOrderly : IsOrderly special)
    (henvOrderly : IsOrderly (fullEnvironment env files).source) :
    (fullEnvironment env files = env ++ addedVariables env files ∧
      ∀ v ∈ addedVariables env files, env.get? v.1 = none) ∧
    let value := effective [env.source, (addedVariables env files).source, special, common]
    ((∃ s, load env files formats = .ok s) ↔ ∀ key : Key, key.converts (value key) = true) ∧
    ∀ s, load env files formats = .ok s ↔ IsReadFrom value s := by
  have hfull := fullEnvironment_eq_append env files
  refine ⟨hfull, ?_⟩
  intro value
  have hvalue : value = effective [(fullEnvironment env files).source, special, common] := by
    rw [hfull.1, Environment.source_append] at henvOrderly ⊢
    exact (effective_append henvOrderly _).symm
  have horderly : ∀ source ∈ [common, special, (fullEnvironment env files).source],
      IsOrderly source := by
    simp [hcommonOrderly, hspecialOrderly, henvOrderly]
  have hholds (key : Key) :
      (combine [defaults, common, special, (fullEnvironment env files).source]).Holds key
        (value key) := by
    rw [hvalue]
    exact holds_combine horderly key
  have hload (s : Settings) : load env files formats = .ok s ↔ IsReadFrom value s := by
    rw [← readSettings_eq_ok_iff hholds, ← settingsOf_eq_ok_iff]
    simp only [load, sources, hcommon, hspecial]
    rfl
  refine ⟨?_, hload⟩
  rw [← exists_isReadFrom_iff]
  exact exists_congr hload

theorem eq_ok_of_isSome {ε α : Type} {x : Except ε α} (h : x.toOption.isSome) :
    x = .ok (x.toOption.get h) := by
  cases x with
  | error e => cases h
  | ok a => rfl

/-- The environment file names the run mode. Values that no conversion takes
stand behind others: a port and a log format. The file for all run modes is in
a format of its own, with a single assignment. -/
theorem load_decided_by_key_shadowed :
    let plain : FileFormat :=
      ⟨["txt".toList, "text".toList], fun path file =>
        some [(file.takeWhile (· != '='), .scalar (some path)
          (.text ((file.dropWhile (· != '=')).drop 1)))]⟩
    let env : Environment :=
      [("MAILMERGE_SERVER__PORT".toList, "9000".toList),
        ("MAILMERGE_MERGE__NOTE".toList, "x".toList)]
    let files : Files :=
      [(".env".toList,
          "RUN_MODE=live\nMAILMERGE_SERVER__PORT=none\nMAILMERGE_LOG__FORMAT=JSON\n".toList),
        ("config/default.text".toList, "server.host=letters".toList),
        ("config/live.json".toList,
          "\x7b\"merge\": \x7b\"max_batch_size\": true\x7d, \"log.format\": false\x7d".toList)]
    load env files (plain :: fileFormats) = .ok
      { server := { host := "letters".toList, port := 9000 }
        merge := { maxBatchSize := 1 }
        log := { format := .json } } := by
  intro plain env files
  have hcommon := eq_ok_of_isSome
    (x := fileSource files (filePath "default".toList) (plain :: fileFormats)) (by decide +kernel)
  have hspecial := eq_ok_of_isSome
    (x := fileSource files (filePath (runMode (fullEnvironment env files))) (plain :: fileFormats))
    (by decide +kernel)
  have hdecided := load_decided_by_key hcommon hspecial (by decide +kernel) (by decide +kernel)
    (by decide +kernel)
  exact (hdecided.2.2 _).mpr (by decide +kernel)

end FormLetter.Configuration
