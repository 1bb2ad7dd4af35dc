/-
Settings that were resolved are valid, faithful to their configuration,
and a fixed point of resolving.

`Faithful` says for each field where it comes from: the value found
under its key as it converts, or the default where nothing is found
there, and for the driver and the table also where what is found is
blank. Resolving comes to settings exactly when they are faithful and
pass the checks (`resolve_iff`); so a value that is there and cannot be
used is never passed over for a default (`Unfit.not_resolved`).

# Writing settings back

A configuration spells settings when under each of the eleven keys it
holds the field as a text, a flag or a number. Resolving such a
configuration reads every field back as it is: texts convert to
themselves, numbers fit, and what was trimmed once is not changed by
trimming it again. That there is such a configuration over any other one
is the business of layering (`spells_overlay`).
-/
import FileDepot.Proofs.Blank
import FileDepot.Proofs.Connecting
import FileDepot.Proofs.Layer
import Mathlib.Algebra.Group.Nat.Defs

namespace FileDepot

-- ====================================================== faithfulness

namespace Settings

variable {α : Type} {config : Config.Entries} {s : Settings}

/-- A value is what is set under a key: what is found there as it
converts, or the default where nothing is found. -/
def Holds (config : Config.Entries) (name : String)
    (read : String → Config.Setting → Except Config.Misfit α)
    (standard a : α) : Prop :=
  match setting? config name with
  | none => a = standard
  | some v => read (key name) v = .ok a

/-- Every field of settings comes from the configuration. A text of
blanks stands for the default of the driver and of the table. -/
structure Faithful (config : Config.Entries) (s : Settings) : Prop where
  url : ∃ v url, setting? config "url" = some v
    ∧ v.asText (key "url") = .ok url
    ∧ Text.allBlank url = false ∧ s.url = Text.trim url
  driver : ∃ driver, Holds config "driver" Config.Setting.asText
      defaultDriver driver
    ∧ s.driver = if Text.allBlank driver then defaultDriver else driver
  table : ∃ table, Holds config "table_name" Config.Setting.asText
      defaultTable table
    ∧ s.table = if (Text.trim table).isEmpty then defaultTable
        else Text.trim table
  username : Holds config "username" Config.Setting.asText "" s.username
  password : Holds config "password" Config.Setting.asText "" s.password
  autoCreate : Holds config "auto_create_table" Config.Setting.asFlag
    false s.autoCreate
  atomicOverwrite : Holds config "atomic_overwrite" Config.Setting.asFlag
    false s.atomicOverwrite
  maxFileBytes : Holds config "max_file_bytes" Config.Setting.asNumber
    defaultMaxFileBytes s.maxFileBytes
  chunkBytes : Holds config "download_chunk_bytes" Config.Setting.asNumber
    defaultChunkBytes s.chunkBytes
  busyTimeout : Holds config "busy_timeout_ms" Config.Setting.asNumber
    defaultBusyTimeout s.busyTimeout
  connectionTimeout : Holds config "connection_timeout_ms"
    Config.Setting.asNumber defaultConnectionTimeout s.connectionTimeout

/-- A value is read exactly where it is found and converts. -/
theorem optional_some_iff {name : String}
    {read : String → Config.Setting → Except Config.Misfit α} {a : α} :
    optional config name read = .ok (some a)
      ↔ ∃ v, setting? config name = some v ∧ read (key name) v = .ok a := by
  unfold optional
  cases setting? config name with
  | none => exact ⟨nofun, nofun⟩
  | some v =>
    dsimp only
    constructor
    · intro h
      split at h
      · next hread =>
        cases h
        exact ⟨v, rfl, hread⟩
      · cases h
    · rintro ⟨w, hw, hread⟩
      cases hw
      rw [hread]

/-- A value is held exactly when it is read, with the default where
nothing is. -/
theorem holds_iff {name : String}
    {read : String → Config.Setting → Except Config.Misfit α}
    {standard a : α} :
    Holds config name read standard a
      ↔ ∃ a?, optional config name read = .ok a? ∧ a?.getD standard = a := by
  unfold Holds optional
  cases setting? config name with
  | none =>
    constructor
    · intro h
      exact ⟨none, rfl, h.symm⟩
    · rintro ⟨a?, h, rfl⟩
      cases h
      rfl
  | some v =>
    dsimp only
    cases read (key name) v with
    | error m => exact ⟨nofun, nofun⟩
    | ok b =>
      constructor
      · intro h
        cases h
        exact ⟨some _, rfl, rfl⟩
      · rintro ⟨a?, h, rfl⟩
        cases h
        rfl

/-- A number is held exactly when it is read as one that is not
negative. -/
theorem holds_natural_iff {name : String} {standard n : Nat} :
    Holds config name Config.Setting.asNumber (standard : Int) (n : Int)
      ↔ ∃ n?, natural config name = .ok n? ∧ n?.getD standard = n := by
  rw [holds_iff]
  unfold natural
  constructor
  · rintro ⟨m?, hm, hn⟩
    rw [hm]
    cases m? with
    | none => exact ⟨none, rfl, Int.ofNat.inj hn⟩
    | some m =>
      cases hn
      have hstep : (if (n : Int) < 0 then .error (.negative (key name) n)
          else .ok (some (n : Int).toNat) : Except ConfigFault (Option Nat))
            = .ok (some n) := if_neg (by omega)
      exact ⟨some n, hstep, rfl⟩
  · rintro ⟨n?, h, rfl⟩
    obtain ⟨m?, hm, h⟩ := bind_ok h
    refine ⟨m?, hm, ?_⟩
    cases m? with
    | none =>
      cases h
      rfl
    | some m =>
      dsimp only at h
      split at h
      · cases h
      · cases h
        show m = (m.toNat : Int)
        omega

/-- A text that is read and then changed is a change of what is held. -/
theorem text_map_iff {name standard : String} (f : String → String)
    {t : String} :
    (text config name >>= fun t? => .ok (f (t?.getD standard))) = .ok t
      ↔ ∃ held, Holds config name Config.Setting.asText standard held
          ∧ t = f held := by
  constructor
  · intro h
    obtain ⟨t?, ht, h⟩ := bind_ok h
    exact ⟨_, holds_iff.mpr ⟨t?, ht, rfl⟩, (Except.ok.inj h).symm⟩
  · rintro ⟨held, hheld, rfl⟩
    obtain ⟨t?, ht, rfl⟩ := holds_iff.mp hheld
    rw [text, ht, ok_bind]

/-- The driver that is read. -/
theorem driverOf_iff {driver : String} :
    driverOf config = .ok driver
      ↔ ∃ held, Holds config "driver" Config.Setting.asText defaultDriver
          held
        ∧ driver = if Text.allBlank held then defaultDriver else held :=
  text_map_iff fun held =>
    if Text.allBlank held then defaultDriver else held

/-- The table that is read. -/
theorem tableOf_iff {table : String} :
    tableOf config = .ok table
      ↔ ∃ held, Holds config "table_name" Config.Setting.asText
          defaultTable held
        ∧ table = if (Text.trim held).isEmpty then defaultTable
            else Text.trim held :=
  text_map_iff fun held =>
    if (Text.trim held).isEmpty then defaultTable else Text.trim held

/-- Resolved settings are faithful. -/
theorem faithful_of_resolve (h : resolve config = .ok (some s)) :
    Faithful config s := by
  obtain ⟨url, hurl, hblank, hfor⟩ := resolve_ok h
  obtain ⟨v, hv, hread⟩ := optional_some_iff.mp hurl
  unfold resolveFor at hfor
  obtain ⟨driver, hdriver, hfor⟩ := bind_ok hfor
  obtain ⟨-, -, hfor⟩ := bind_ok hfor
  obtain ⟨table, htable, hfor⟩ := bind_ok hfor
  obtain ⟨-, -, hfor⟩ := bind_ok hfor
  obtain ⟨chunk?, hchunk, hfor⟩ := bind_ok hfor
  dsimp only at hfor
  split at hfor
  · cases hfor
  obtain ⟨username, husername, hfor⟩ := bind_ok hfor
  obtain ⟨password, hpassword, hfor⟩ := bind_ok hfor
  obtain ⟨autoCreate, hauto, hfor⟩ := bind_ok hfor
  obtain ⟨max?, hmax, hfor⟩ := bind_ok hfor
  obtain ⟨atomic, hatomic, hfor⟩ := bind_ok hfor
  obtain ⟨busy?, hbusy, hfor⟩ := bind_ok hfor
  obtain ⟨connection?, hconnection, hfor⟩ := bind_ok hfor
  cases hfor
  exact
    { url := ⟨v, url, hv, hread, hblank, rfl⟩
      driver := driverOf_iff.mp hdriver
      table := tableOf_iff.mp htable
      username := holds_iff.mpr ⟨username, husername, rfl⟩
      password := holds_iff.mpr ⟨password, hpassword, rfl⟩
      autoCreate := holds_iff.mpr ⟨autoCreate, hauto, rfl⟩
      atomicOverwrite := holds_iff.mpr ⟨atomic, hatomic, rfl⟩
      maxFileBytes := holds_natural_iff.mpr ⟨max?, hmax, rfl⟩
      chunkBytes := holds_natural_iff.mpr ⟨chunk?, hchunk, rfl⟩
      busyTimeout := holds_natural_iff.mpr ⟨busy?, hbusy, rfl⟩
      connectionTimeout :=
        holds_natural_iff.mpr ⟨connection?, hconnection, rfl⟩ }

/-- Faithful settings that pass the checks are resolved. -/
theorem resolve_of_faithful (hf : Faithful config s) (ha : s.Accepted) :
    resolve config = .ok (some s) := by
  obtain ⟨v, url, hv, hread, hblank, htrim⟩ := hf.url
  have hurl : text config "url" = .ok (some url) :=
    optional_some_iff.mpr ⟨v, hv, hread⟩
  have hdriver := driverOf_iff.mpr hf.driver
  have htable := tableOf_iff.mpr hf.table
  obtain ⟨dialect, hdialect⟩ := ha.dialect
  obtain ⟨name, hname⟩ := ha.table
  obtain ⟨username, husername, husername'⟩ := holds_iff.mp hf.username
  obtain ⟨password, hpassword, hpassword'⟩ := holds_iff.mp hf.password
  obtain ⟨autoCreate, hauto, hauto'⟩ := holds_iff.mp hf.autoCreate
  obtain ⟨atomic, hatomic, hatomic'⟩ := holds_iff.mp hf.atomicOverwrite
  obtain ⟨max?, hmax, hmax'⟩ := holds_natural_iff.mp hf.maxFileBytes
  obtain ⟨chunk?, hchunk, hchunk'⟩ := holds_natural_iff.mp hf.chunkBytes
  obtain ⟨busy?, hbusy, hbusy'⟩ := holds_natural_iff.mp hf.busyTimeout
  obtain ⟨connection?, hconnection, hconnection'⟩ :=
    holds_natural_iff.mp hf.connectionTimeout
  have hfor : resolveFor config (Text.trim url) = .ok s := by
    unfold resolveFor
    rw [hdriver, ok_bind, hdialect, ok_bind, htable, ok_bind, hname, ok_bind,
      hchunk, ok_bind]
    dsimp only
    rw [hchunk', if_neg (Nat.ne_of_gt ha.chunkBytes)]
    unfold text flag
    rw [husername, ok_bind, hpassword, ok_bind, hauto, ok_bind, hmax,
      ok_bind, hatomic, ok_bind, hbusy, ok_bind, hconnection, ok_bind]
    rw [husername', hpassword', hauto', hmax', hatomic', hbusy',
      hconnection', ← htrim]
  unfold resolve
  rw [hurl, ok_bind]
  dsimp only
  rw [hblank, if_neg Bool.false_ne_true, hfor]
  rfl

/-- Resolving comes to settings exactly where they are faithful and pass
the checks. -/
theorem resolve_iff :
    resolve config = .ok (some s) ↔ Faithful config s ∧ s.Accepted :=
  ⟨fun h => ⟨faithful_of_resolve h, accepted_of_resolve h⟩,
    fun ⟨hf, ha⟩ => resolve_of_faithful hf ha⟩

-- ======================================================== validity

/-- A configuration has a url: something is found under its key, and it
is not a text of blanks. -/
def HasUrl (config : Config.Entries) : Prop :=
  ∃ v, setting? config "url" = some v
    ∧ ∀ origin url, v = .scalar origin (.text url) →
        Text.allBlank url = false

/-- What a url that is there is read as is not blank. -/
theorem HasUrl.reads (h : HasUrl config) :
    ∃ v, setting? config "url" = some v
      ∧ ∀ url, v.asText (key "url") = .ok url →
          Text.allBlank url = false := by
  obtain ⟨v, hv, hblank⟩ := h
  refine ⟨v, hv, fun url hread => ?_⟩
  cases v with
  | scalar origin value =>
    unfold Config.Setting.asText Config.Setting.asScalar at hread
    dsimp only at hread
    cases htext : value.text? with
    | error found => rw [htext] at hread; cases hread
    | ok t =>
      rw [htext] at hread
      cases hread
      refine Config.Scalar.allBlank_text htext ?_
      rintro s rfl
      exact hblank origin s rfl
  | list origin items => cases hread
  | table entries => cases hread

/-- Under a url resolving is refused or comes to settings. -/
theorem HasUrl.resolves (h : HasUrl config) :
    (∃ fault, resolve config = .error fault)
      ∨ ∃ s, resolve config = .ok (some s) := by
  obtain ⟨v, hv, hblank⟩ := h.reads
  have hnone : resolve config ≠ .ok none := by
    intro h
    unfold resolve at h
    obtain ⟨url?, hurl, h⟩ := bind_ok h
    cases url? with
    | none =>
      unfold text optional at hurl
      rw [hv] at hurl
      dsimp only at hurl
      split at hurl <;> cases hurl
    | some url =>
      obtain ⟨w, hw, hread⟩ := optional_some_iff.mp hurl
      cases hv.symm.trans hw
      dsimp only at h
      rw [hblank url hread, if_neg Bool.false_ne_true] at h
      cases hfor : resolveFor config (Text.trim url) with
      | error fault => rw [hfor] at h; cases h
      | ok s => rw [hfor] at h; cases h
  cases hr : resolve config with
  | error fault => exact .inl ⟨fault, rfl⟩
  | ok s? =>
    cases s? with
    | none => exact absurd hr hnone
    | some s => exact .inr ⟨s, rfl⟩

/-- Settings are normal: the url and the table are trimmed and not empty,
and the driver is not blank. -/
structure Normal (s : Settings) : Prop where
  url_trim : Text.trim s.url = s.url
  url_blank : Text.allBlank s.url = false
  driver_blank : Text.allBlank s.driver = false
  table_trim : Text.trim s.table = s.table
  table_empty : s.table.isEmpty = false

/-- Faithful settings are normal, the defaults included. -/
theorem Faithful.normal (hf : Faithful config s) : s.Normal := by
  obtain ⟨-, url, -, -, hurl, hurl'⟩ := hf.url
  obtain ⟨driver, -, hdriver⟩ := hf.driver
  obtain ⟨table, -, htable⟩ := hf.table
  have hdriver' : Text.allBlank s.driver = false := by
    rw [hdriver]
    cases hblank : Text.allBlank driver with
    | true => rw [if_pos rfl]; decide
    | false => exact hblank
  have htable' : Text.trim s.table = s.table ∧ s.table.isEmpty = false := by
    rw [htable]
    cases hempty : (Text.trim table).isEmpty with
    | true => rw [if_pos rfl]; decide
    | false => exact ⟨Text.trim_trim table, hempty⟩
  exact
    { url_trim := by rw [hurl', Text.trim_trim]
      url_blank := by rw [hurl', Text.allBlank_trim hurl]
      driver_blank := hdriver'
      table_trim := htable'.1
      table_empty := htable'.2 }

-- ========================================================== refusals

/-- The names of the settings that are texts. -/
def textNames : List String :=
  ["url", "driver", "table_name", "username", "password"]

/-- The names of the settings that are flags. -/
def flagNames : List String := ["auto_create_table", "atomic_overwrite"]

/-- The names of the settings that are numbers. -/
def numberNames : List String :=
  ["max_file_bytes", "download_chunk_bytes", "busy_timeout_ms",
    "connection_timeout_ms"]

/-- A configuration holds a value that cannot be used: one that does not
convert, a negative number, or no bytes to a slice. -/
inductive Unfit (config : Config.Entries) : Prop
  | text {name : String} {v : Config.Setting} {m : Config.Misfit}
      (hname : name ∈ textNames) (hv : setting? config name = some v)
      (hread : v.asText (key name) = .error m)
  | flag {name : String} {v : Config.Setting} {m : Config.Misfit}
      (hname : name ∈ flagNames) (hv : setting? config name = some v)
      (hread : v.asFlag (key name) = .error m)
  | number {name : String} {v : Config.Setting} {m : Config.Misfit}
      (hname : name ∈ numberNames) (hv : setting? config name = some v)
      (hread : v.asNumber (key name) = .error m)
  | negative {name : String} {v : Config.Setting} {n : Int}
      (hname : name ∈ numberNames) (hv : setting? config name = some v)
      (hread : v.asNumber (key name) = .ok n) (hneg : n < 0)
  | noChunk {v : Config.Setting}
      (hv : setting? config "download_chunk_bytes" = some v)
      (hread : v.asNumber (key "download_chunk_bytes") = .ok 0)

/-- What is found converts to what is held. -/
theorem Holds.reads {name : String}
    {read : String → Config.Setting → Except Config.Misfit α}
    {standard a : α} (h : Holds config name read standard a)
    {v : Config.Setting} (hv : setting? config name = some v) :
    read (key name) v = .ok a := by
  unfold Holds at h
  rwa [hv] at h

/-- A text that is found converts. -/
theorem Faithful.texts (hf : Faithful config s) {name : String}
    (hname : name ∈ textNames) {v : Config.Setting}
    (hv : setting? config name = some v) :
    ∃ t, v.asText (key name) = .ok t := by
  obtain ⟨w, url, hw, hurl, -, -⟩ := hf.url
  obtain ⟨driver, hdriver, -⟩ := hf.driver
  obtain ⟨table, htable, -⟩ := hf.table
  simp only [textNames, List.mem_cons, List.not_mem_nil, or_false] at hname
  rcases hname with rfl | rfl | rfl | rfl | rfl
  · cases hv.symm.trans hw
    exact ⟨url, hurl⟩
  · exact ⟨driver, hdriver.reads hv⟩
  · exact ⟨table, htable.reads hv⟩
  · exact ⟨s.username, hf.username.reads hv⟩
  · exact ⟨s.password, hf.password.reads hv⟩

/-- A flag that is found converts. -/
theorem Faithful.flags (hf : Faithful config s) {name : String}
    (hname : name ∈ flagNames) {v : Config.Setting}
    (hv : setting? config name = some v) :
    ∃ b, v.asFlag (key name) = .ok b := by
  simp only [flagNames, List.mem_cons, List.not_mem_nil, or_false] at hname
  rcases hname with rfl | rfl
  · exact ⟨s.autoCreate, hf.autoCreate.reads hv⟩
  · exact ⟨s.atomicOverwrite, hf.atomicOverwrite.reads hv⟩

/-- A number that is found converts to one that is not negative. -/
theorem Faithful.numbers (hf : Faithful config s) {name : String}
    (hname : name ∈ numberNames) {v : Config.Setting}
    (hv : setting? config name = some v) :
    ∃ n : Nat, v.asNumber (key name) = .ok (n : Int) := by
  simp only [numberNames, List.mem_cons, List.not_mem_nil, or_false]
    at hname
  rcases hname with rfl | rfl | rfl | rfl
  · exact ⟨s.maxFileBytes, hf.maxFileBytes.reads hv⟩
  · exact ⟨s.chunkBytes, hf.chunkBytes.reads hv⟩
  · exact ⟨s.busyTimeout, hf.busyTimeout.reads hv⟩
  · exact ⟨s.connectionTimeout, hf.connectionTimeout.reads hv⟩

/-- A value that cannot be used is refused, never passed over for a
default. -/
theorem Unfit.not_resolved (h : Unfit config) :
    resolve config ≠ .ok (some s) := by
  intro hr
  obtain ⟨hf, ha⟩ := resolve_iff.mp hr
  cases h with
  | text hname hv hread =>
    obtain ⟨t, ht⟩ := hf.texts hname hv
    cases hread.symm.trans ht
  | flag hname hv hread =>
    obtain ⟨b, hb⟩ := hf.flags hname hv
    cases hread.symm.trans hb
  | number hname hv hread =>
    obtain ⟨n, hn⟩ := hf.numbers hname hv
    cases hread.symm.trans hn
  | negative hname hv hread hneg =>
    obtain ⟨n, hn⟩ := hf.numbers hname hv
    cases hread.symm.trans hn
    omega
  | noChunk hv hread =>
    have hpos := ha.chunkBytes
    have hzero := Except.ok.inj (hread.symm.trans (hf.chunkBytes.reads hv))
    omega

-- ======================================================= writing back

/-- The fields of settings under their keys: texts, flags and numbers. -/
def fields (s : Settings) : List (String × Config.Scalar) :=
  [("driver", .text s.driver),
    ("url", .text s.url),
    ("username", .text s.username),
    ("password", .text s.password),
    ("auto_create_table", .flag s.autoCreate),
    ("table_name", .text s.table),
    ("max_file_bytes", .number s.maxFileBytes),
    ("download_chunk_bytes", .number s.chunkBytes),
    ("atomic_overwrite", .flag s.atomicOverwrite),
    ("busy_timeout_ms", .number s.busyTimeout),
    ("connection_timeout_ms", .number s.connectionTimeout)]

/-- A configuration spells settings: each field is found under its key,
wherever it was read from. -/
def Spells (config : Config.Entries) (s : Settings) : Prop :=
  ∀ e ∈ s.fields,
    ∃ origin, setting? config e.1 = some (.scalar origin e.2)

/-- A source with settings under their keys. -/
def written (s : Settings) : Config.Entries :=
  [("storage", .table [("dfs", .table [("db",
    .table (s.fields.map fun e => (e.1, .scalar none e.2)))])])]

/-- Settings that are written over a configuration are spelt by it,
whatever it says otherwise. -/
theorem spells_overlay (s : Settings) (base : Config.Entries) :
    Spells (Config.overlay s.written base) s := by
  intro e he
  have hplain : ∀ e ∈ s.written, Config.keyPath e.1 = [.name e.1] := by
    intro e he
    cases List.mem_singleton.mp he
    show Config.keyPath "storage" = [.name "storage"]
    decide
  have hnames : ((s.fields.map fun e =>
      (e.1, Config.Setting.scalar none e.2)).map Prod.fst).Nodup := by
    show ["driver", "url", "username", "password", "auto_create_table",
      "table_name", "max_file_bytes", "download_chunk_bytes",
      "atomic_overwrite", "busy_timeout_ms",
      "connection_timeout_ms"].Nodup
    decide
  have hfields : Config.Leads [e.1] (.scalar none e.2)
      (s.fields.map fun e => (e.1, .scalar none e.2)) :=
    .here hnames (List.mem_map.mpr ⟨e, he, rfl⟩)
  refine ⟨none, ?_⟩
  rw [Config.overlay_eq_layAll hplain]
  exact Config.find_layAll
    (((hfields.alone "db").alone "dfs").alone "storage") base

/-- What is spelt is held, where it converts to itself. -/
theorem Spells.holds (hs : Spells config s) {name : String}
    (value : Config.Scalar) (hmem : (name, value) ∈ s.fields)
    {read : String → Config.Setting → Except Config.Misfit α} {a : α}
    (hread : ∀ origin, read (key name) (.scalar origin value) = .ok a)
    (standard : α) : Holds config name read standard a := by
  obtain ⟨origin, hv⟩ := hs _ hmem
  unfold Holds
  rw [hv]
  exact hread origin

/-- A text is held as it is spelt. -/
theorem Spells.holds_text (hs : Spells config s) {name t : String}
    (hmem : (name, .text t) ∈ s.fields) (standard : String) :
    Holds config name Config.Setting.asText standard t :=
  hs.holds _ hmem (fun _ => rfl) standard

/-- A flag is held as it is spelt. -/
theorem Spells.holds_flag (hs : Spells config s) {name : String} {b : Bool}
    (hmem : (name, .flag b) ∈ s.fields) (standard : Bool) :
    Holds config name Config.Setting.asFlag standard b :=
  hs.holds _ hmem (fun _ => rfl) standard

/-- A number that fits is held as it is spelt. -/
theorem Spells.holds_number (hs : Spells config s) {name : String}
    {n : Nat} (hmem : (name, .number n) ∈ s.fields) (hfits : Fits n)
    (standard : Int) :
    Holds config name Config.Setting.asNumber standard n := by
  refine hs.holds _ hmem (fun origin => ?_) standard
  have hle : (n : Int) ≤ Text.maxSigned := hfits
  unfold Config.Setting.asNumber Config.Setting.asScalar
    Config.Scalar.number?
  dsimp only
  rw [if_pos hle]

/-- Spelt settings are faithful, where they are normal and accepted. -/
theorem Spells.faithful (hs : Spells config s) (hn : s.Normal)
    (ha : s.Accepted) : Faithful config s := by
  obtain ⟨origin, hurl⟩ := hs ("url", .text s.url) (by simp [fields])
  obtain ⟨hmax, hchunk, hbusy, hconnection, -⟩ := by
    simpa only [List.forall_mem_cons] using ha.fits
  exact
    { url := ⟨_, s.url, hurl, rfl, hn.url_blank, hn.url_trim.symm⟩
      driver := ⟨s.driver, hs.holds_text (by simp [fields]) _, by
        rw [hn.driver_blank, if_neg Bool.false_ne_true]⟩
      table := ⟨s.table, hs.holds_text (by simp [fields]) _, by
        rw [hn.table_trim, hn.table_empty, if_neg Bool.false_ne_true]⟩
      username := hs.holds_text (by simp [fields]) _
      password := hs.holds_text (by simp [fields]) _
      autoCreate := hs.holds_flag (by simp [fields]) _
      atomicOverwrite := hs.holds_flag (by simp [fields]) _
      maxFileBytes := hs.holds_number (by simp [fields]) hmax _
      chunkBytes := hs.holds_number (by simp [fields]) hchunk _
      busyTimeout := hs.holds_number (by simp [fields]) hbusy _
      connectionTimeout := hs.holds_number (by simp [fields]) hconnection _ }

-- ======================================================= fixed point

/-- Settings are the outcome of resolving any configuration that spells
them, once they have been resolved from one. -/
theorem Spells.resolve {config' : Config.Entries}
    (hs : Spells config' s) (h : Settings.resolve config = .ok (some s)) :
    Settings.resolve config' = .ok (some s) := by
  obtain ⟨hf, ha⟩ := resolve_iff.mp h
  exact resolve_iff.mpr ⟨hs.faithful hf.normal ha, ha⟩

/-- Resolved settings are valid, faithful and a fixed point. Under a url
that is found and not blank, resolving is refused or comes to settings,
and a value that cannot be used is always refused. Settings it comes to
are faithful to the configuration, normal and accepted, fit into 63
bits, and are resolved again from every configuration that spells them:
from the source they are written to, over any base. -/
theorem resolved_fixed (hurl : HasUrl config) :
    ((∃ fault, Settings.resolve config = .error fault)
        ∨ ∃ s, Settings.resolve config = .ok (some s))
      ∧ (Unfit config → ∃ fault, Settings.resolve config = .error fault)
      ∧ ∀ s, Settings.resolve config = .ok (some s) →
          Faithful config s
          ∧ (Text.trim s.url = s.url ∧ s.url ≠ "")
          ∧ (∃ d, Dialect.ofDriver s.driver = .ok d)
          ∧ (∃ t, TableName.ofText s.table = .ok t)
          ∧ 1 ≤ s.chunkBytes
          ∧ (∀ n ∈ [s.maxFileBytes, s.chunkBytes, s.busyTimeout,
              s.connectionTimeout], n < 2 ^ 63)
          ∧ s.options = ⟨s.maxFileBytes, s.chunkBytes, s.atomicOverwrite⟩
          ∧ (∀ config', Spells config' s →
              Settings.resolve config' = .ok (some s))
          ∧ ∀ base, Settings.resolve (Config.overlay s.written base)
              = .ok (some s) := by
  have hresolves := hurl.resolves
  refine ⟨hresolves, fun hunfit => ?_, fun s h => ?_⟩
  · obtain hfault | ⟨s, hs⟩ := hresolves
    · exact hfault
    · exact absurd hs hunfit.not_resolved
  · obtain ⟨hf, ha⟩ := resolve_iff.mp h
    have hn := hf.normal
    refine ⟨hf, ⟨hn.url_trim, ?_⟩, ha.dialect, ha.table, ha.chunkBytes, ?_,
      ?_, fun config' hs => hs.resolve h,
      fun base => (spells_overlay s base).resolve h⟩
    · intro hempty
      have hblank := hn.url_blank
      rw [hempty] at hblank
      cases hblank
    · intro n hmem
      have hle : (n : Int) ≤ 9223372036854775807 := ha.fits n hmem
      omega
    · have hchunk : max s.chunkBytes 1 = s.chunkBytes :=
        Nat.max_eq_left ha.chunkBytes
      unfold options
      rw [hchunk]

/-- A configuration with a url between blanks, a driver of another
spelling, and numbers and flags of other types. -/
def mixed (chunk : Int) : Config.Entries :=
  [("storage", .table [("dfs", .table [("db", .table
    [("url", .scalar none (.text "  files.db ")),
      ("driver", .scalar none (.text "SQLite3")),
      ("auto_create_table", .scalar none (.text "Yes")),
      ("max_file_bytes", .scalar none (.text "10")),
      ("download_chunk_bytes", .scalar none (.number chunk))])])])]

/-- What a configuration of many types is resolved to is resolved again
from where it is written. A slice of no bytes is refused. -/
theorem resolved_fixed_mixed :
    HasUrl (mixed 5)
      ∧ (∃ s, Settings.resolve (mixed 5) = .ok (some s) ∧ s.url = "files.db"
        ∧ s.maxFileBytes = 10
        ∧ Settings.resolve (Config.overlay s.written (mixed 7))
          = .ok (some s))
      ∧ ∃ fault, Settings.resolve (mixed 0) = .error fault := by
  have hurl : ∀ chunk, HasUrl (mixed chunk) := by
    intro chunk
    refine ⟨.scalar none (.text "  files.db "), rfl, fun _ url htext => ?_⟩
    cases htext
    decide
  refine ⟨hurl 5, ?_, (resolved_fixed (hurl 0)).2.1 (.noChunk rfl rfl)⟩
  obtain ⟨s, hs, hs', hmax⟩ : ∃ s, Settings.resolve (mixed 5) = .ok (some s)
      ∧ s.url = "files.db" ∧ s.maxFileBytes = 10 := ⟨_, rfl, rfl, rfl⟩
  obtain ⟨-, -, -, -, -, -, -, -, hover⟩ :=
    (resolved_fixed (hurl 5)).2.2 s hs
  exact ⟨s, hs, hs', hmax, hover _⟩

end Settings

end FileDepot
