/-
What a configuration that was accepted can lead to when it is put to
use.

`Accepted` is everything the resolver checks, as it is needed later: a
driver and a table that are known to be good, slices of at least one
byte, and numbers that leave room in a 64-bit word for what is added to
them. One thing is not among it. A connection timeout of zero is let
through, although the pool is stopped by it, and so each way to use a
configuration ends in a panic exactly there (`accepted_panics_iff`):
behind a url that is good enough for the pool to be built.
-/
import FileDepot.Proofs.Chain
import FileDepot.Run

namespace FileDepot

-- ========================================================== numbers

/-- A float becomes no larger number than a signed 64-bit word holds. -/
theorem Binary64.toInt64_le (x : Binary64) : x.toInt64 ≤ maxInt := by
  have hmin : minInt ≤ maxInt := by decide
  unfold toInt64
  split
  · decide
  · exact hmin
  · exact Int.le_refl _
  · exact Int.max_le.mpr ⟨hmin, Int.min_le_left _ _⟩

/-- A text spells no larger signed number than a 64-bit word holds. -/
theorem Text.le_of_signed {text : String} {n : Int}
    (h : signed? text = some n) : n ≤ maxSigned := by
  unfold signed? at h
  dsimp only at h
  split at h
  · cases h
  · obtain ⟨hrange, hn⟩ := Option.ite_none_right_eq_some.mp h
    rw [← Option.some.inj hn]
    exact hrange.2

namespace Config

/-- A scalar is read as no larger number than a signed 64-bit word
holds. -/
theorem Scalar.le_of_number {value : Scalar} {n : Int}
    (h : value.number? = .ok n) : n ≤ Text.maxSigned := by
  unfold number? at h
  split at h
  · cases h
  · next b =>
    cases h
    cases b <;> decide
  · split at h
    · next hle =>
      cases h
      exact hle
    · cases h
  · next x =>
    cases h
    exact x.toInt64_le
  · dsimp only at h
    split at h
    · cases h
      decide
    · split at h
      · cases h
        decide
      · split at h
        · next hsigned =>
          cases h
          exact Text.le_of_signed hsigned
        · cases h

theorem Setting.le_of_asNumber {key : String} {setting : Setting} {n : Int}
    (h : setting.asNumber key = .ok n) : n ≤ Text.maxSigned := by
  unfold asNumber asScalar at h
  split at h
  · split at h
    · next hvalue =>
      cases h
      exact Scalar.le_of_number hvalue
    · cases h
  · cases h
  · cases h

end Config

-- ================================================ accepted settings

namespace Settings

variable {config : Config.Entries} {s : Settings}

/-- A number that a signed 64-bit word holds. -/
def Fits (n : Nat) : Prop := n ≤ Text.maxSigned

instance (n : Nat) : Decidable (Fits n) :=
  inferInstanceAs (Decidable (_ ≤ _))

/-- What is known of settings that the resolver accepted. -/
structure Accepted (s : Settings) : Prop where
  dialect : ∃ d, Dialect.ofDriver s.driver = .ok d
  table : ∃ t, TableName.ofText s.table = .ok t
  chunkBytes : 0 < s.chunkBytes
  fits : ∀ n ∈ [s.maxFileBytes, s.chunkBytes, s.busyTimeout,
    s.connectionTimeout], Fits n

/-- A number setting fits, and so does what stands for a missing
one. -/
theorem fits_of_natural {name : String} {n? : Option Nat}
    (h : natural config name = .ok n?) {standard : Nat}
    (hs : Fits standard) : Fits (n?.getD standard) := by
  unfold natural at h
  obtain ⟨m?, hm, h'⟩ := bind_ok h
  cases m? with
  | none =>
      cases h'
      exact hs
  | some m =>
      dsimp only at h'
      split at h'
      · cases h'
      · cases h'
        have hle : m ≤ Text.maxSigned := by
          unfold optional at hm
          split at hm
          · cases hm
          · split at hm
            · next hread =>
              cases hm
              exact Config.Setting.le_of_asNumber hread
            · cases hm
        have hnat : 0 ≤ m := by omega
        show (m.toNat : Int) ≤ Text.maxSigned
        rwa [Int.toNat_of_nonneg hnat]

/-- What the resolver lets through is accepted. -/
theorem accepted_of_resolveFor {url : String}
    (h : resolveFor config url = .ok s) : s.Accepted := by
  unfold resolveFor at h
  obtain ⟨driver, -, h⟩ := bind_ok h
  obtain ⟨dialect, hdialect, h⟩ := bind_ok h
  obtain ⟨table, -, h⟩ := bind_ok h
  obtain ⟨name, hname, h⟩ := bind_ok h
  obtain ⟨chunk, hchunk, h⟩ := bind_ok h
  dsimp only at h
  split at h
  · cases h
  next hpos =>
  obtain ⟨username, -, h⟩ := bind_ok h
  obtain ⟨password, -, h⟩ := bind_ok h
  obtain ⟨autoCreate, -, h⟩ := bind_ok h
  obtain ⟨maxFile, hmax, h⟩ := bind_ok h
  obtain ⟨atomic, -, h⟩ := bind_ok h
  obtain ⟨busy, hbusy, h⟩ := bind_ok h
  obtain ⟨connection, hconnection, h⟩ := bind_ok h
  cases h
  refine ⟨⟨dialect, hdialect⟩, ⟨name, hname⟩, Nat.pos_of_ne_zero hpos, ?_⟩
  simp only [List.forall_mem_cons]
  exact ⟨fits_of_natural hmax (by decide), fits_of_natural hchunk (by decide),
    fits_of_natural hbusy (by decide),
    fits_of_natural hconnection (by decide), nofun⟩

/-- Settings are resolved from a url that is not blank. -/
theorem resolve_ok (h : resolve config = .ok (some s)) :
    ∃ url, text config "url" = .ok (some url) ∧ Text.allBlank url = false
      ∧ resolveFor config (Text.trim url) = .ok s := by
  unfold resolve at h
  obtain ⟨url?, hurl, h⟩ := bind_ok h
  cases url? with
  | none => cases h
  | some url =>
      dsimp only at h
      split at h
      · cases h
      · next hblank =>
        cases hfor : resolveFor config (Text.trim url) with
        | error fault =>
            rw [hfor] at h
            cases h
        | ok t =>
            rw [hfor] at h
            cases h
            exact ⟨url, hurl, by simpa using hblank, hfor⟩

theorem accepted_of_resolve (h : resolve config = .ok (some s)) :
    s.Accepted := by
  obtain ⟨url, -, -, hfor⟩ := resolve_ok h
  exact accepted_of_resolveFor hfor

/-- Settings are resolved only where a depot is wanted. -/
theorem wanted_of_resolve (h : resolve config = .ok (some s)) :
    wanted config = true := by
  obtain ⟨url, hurl, hblank, -⟩ := resolve_ok h
  unfold text optional at hurl
  unfold wanted
  split at hurl
  · cases hurl
  · split at hurl
    · next hread =>
      cases hurl
      rw [hread]
      simp [hblank]
    · cases hurl

end Settings

-- =========================================================== panics

/-- An attempt stopped the process. -/
def Attempt.Panics {α : Type} (a : Attempt α) : Prop :=
  ∃ text, a.result = .error (.panicked text)

/-- A run stopped the process. -/
def Report.Panics (r : Report) : Prop :=
  ∃ text, r.result = .error (.panicked text)

section

variable {s : Settings} {site : Site}

/-- The settings stop a pool that is built from them: it is built, as
the url is good enough, and without any time to connect in. -/
def Settings.Stops (s : Settings) : Prop :=
  s.connectionTimeout = 0 ∧ ∃ path, Address.ofUrl s.url = .ok path

namespace Depot

/-- Bringing an opened depot into use does not stop the process. -/
theorem start_not_panics (s : Settings) (m : Mounted) (site : Site) :
    ¬(start s m site).Panics := by
  rintro ⟨text, h⟩
  unfold start at h
  dsimp only at h
  split at h
  · split at h <;> cases h
  · cases h

/-- Under accepted settings the url alone decides whether a pool is
built. -/
theorem plan_ok_iff (hs : s.Accepted) :
    (∃ p, plan s = .ok p) ↔ ∃ path, Address.ofUrl s.url = .ok path := by
  obtain ⟨dialect, hdialect⟩ := hs.dialect
  obtain ⟨table, htable⟩ := hs.table
  unfold plan
  rw [hdialect, htable]
  cases Address.ofUrl s.url with
  | error fault => exact ⟨nofun, nofun⟩
  | ok path => exact ⟨fun _ => ⟨path, rfl⟩, fun _ => ⟨_, rfl⟩⟩

/-- Connecting stops the process exactly under settings that stop the
pool. -/
theorem connect_panics_iff (hs : s.Accepted) (site : Site) :
    (connect s site).Panics ↔ s.Stops := by
  -- the plan is made first, then the pool, and only then anything opened
  have hplan := plan_ok_iff hs
  unfold Settings.Stops
  rw [← hplan]
  unfold connect
  cases plan s with
  | error fault => exact ⟨nofun, nofun⟩
  | ok p =>
      by_cases hzero : s.connectionTimeout = 0
      · exact ⟨fun _ => ⟨hzero, p, rfl⟩, fun _ => ⟨timeoutPanic, by
          show (if _ then _ else _ : Attempt Mounted).result = _
          rw [if_pos hzero]⟩⟩
      · refine ⟨fun ⟨text, h⟩ => ?_, fun h => absurd h.1 hzero⟩
        change (if _ then _ else _ : Attempt Mounted).result = _ at h
        rw [if_neg hzero] at h
        split at h
        · cases h
        · exact absurd ⟨text, h⟩ (start_not_panics s _ _)

end Depot

/-- The depot is the one backend that is known, where it is wanted. -/
theorem Backend.candidates_known_eq (config : Config.Entries) :
    Backend.candidates Backend.known config
      = if Settings.wanted config then [Backend.depot] else [] := by
  unfold Backend.candidates Backend.known
  cases h : Settings.wanted config with
  | true =>
    have hfilter : [Backend.depot].filter (fun p => p.isConfigured config)
        = [Backend.depot] :=
      List.filter_cons_of_pos h
    rw [hfilter, List.mergeSort_singleton]
    rfl
  | false =>
    have hfilter : [Backend.depot].filter (fun p => p.isConfigured config)
        = [] :=
      List.filter_cons_of_neg (Bool.eq_false_iff.mp h)
    rw [hfilter, List.mergeSort_nil]
    rfl

/-- Settings that are resolved say that it is wanted. -/
theorem candidates_known {config : Config.Entries}
    (h : Settings.resolve config = .ok (some s)) :
    Backend.candidates Backend.known config = [Backend.depot] := by
  rw [Backend.candidates_known_eq, Settings.wanted_of_resolve h, if_pos rfl]

/-- Building it is connecting the depot. -/
theorem build_known {config : Config.Entries}
    (h : Settings.resolve config = .ok (some s)) (site : Site) :
    Backend.depot.build config site = Depot.connect s site := by
  show Backend.buildDepot config site = _
  unfold Backend.buildDepot
  rw [h]

/-- Choosing among the known backends stops the process exactly where
connecting does. -/
theorem choose_panics_iff {config : Config.Entries}
    (h : Settings.resolve config = .ok (some s)) (site : Site) :
    (Backend.choose Backend.known config site).toAttempt.Panics ↔ s.Stops := by
  unfold Backend.choose
  rw [candidates_known h, ← Depot.connect_panics_iff
    (Settings.accepted_of_resolve h) site]
  show (Backend.activate config site Backend.depot []).Panics ↔ _
  unfold Backend.activate Attempt.Panics
  rw [build_known h]
  dsimp only
  cases (Depot.connect s site).result with
  | ok m => exact ⟨nofun, nofun⟩
  | error stop =>
      constructor <;>
      · rintro ⟨text, h⟩
        cases h
        exact ⟨text, rfl⟩

namespace CommandLine.Command

/-- Carrying a command out does not stop the process. -/
theorem dispatch_not_panics (m : Mounted) (site : Site) (c : Command) :
    ¬(dispatch m site c).Panics := by
  have hplay : ∀ {α} (operation : Depot → Scene → Outcome α),
      ¬(play m site operation).Panics := by
    rintro α operation ⟨text, h⟩
    unfold play at h
    dsimp only at h
    split at h <;> cases h
  cases c with
  | store | download | clean => exact hplay _
  | describe l =>
      rintro ⟨text, h⟩
      unfold dispatch printDescriptor at h
      dsimp only at h
      split at h <;> cases h
  | initSchema =>
      rintro ⟨text, h⟩
      unfold dispatch printProvision at h
      dsimp only at h
      split at h <;> cases h

/-- A run that was cut short by an attempt stops the process exactly
where the attempt did. -/
theorem halt_eq_panicked {trouble : Failure → Trouble} {stop : Stop} :
    (∃ text, stop.halt trouble = .panicked text)
      ↔ ∃ text, stop = .panicked text := by
  cases stop with
  | failed failure => exact ⟨nofun, nofun⟩
  | panicked text => exact ⟨fun _ => ⟨text, rfl⟩, fun _ => ⟨text, rfl⟩⟩

/-- Running a command on the chosen backend stops the process exactly
where choosing it does. -/
theorem runOnBackend_panics_iff (c : Command) (config : Config.Entries)
    (site : Site) :
    (runOnBackend c config site).Panics
      ↔ (Backend.choose Backend.known config site).toAttempt.Panics := by
  unfold runOnBackend Report.Panics Attempt.Panics
  dsimp only
  cases (Backend.choose Backend.known config site).result with
  | ok active =>
      exact ⟨fun h => absurd h (dispatch_not_panics active.backend _ c), nofun⟩
  | error stop =>
      simp only [Except.error.injEq]
      exact halt_eq_panicked

/-- Creating the schema stops the process exactly where connecting
does. -/
theorem createSchema_panics_iff {config : Config.Entries}
    (h : Settings.resolve config = .ok (some s)) (site : Site) :
    (createSchema config site).Panics
      ↔ (Depot.connect { s with autoCreate := false } site).Panics := by
  unfold createSchema Report.Panics Attempt.Panics
  rw [h]
  dsimp only
  generalize Depot.connect { s with autoCreate := false } site = a
  cases a.result with
  | ok m =>
      have hdispatch := dispatch_not_panics m a.site .initSchema
      exact ⟨fun h => absurd h hdispatch, nofun⟩
  | error stop =>
      simp only [Except.error.injEq]
      exact halt_eq_panicked

/-- Running a command stops the process exactly under settings that stop
the pool. -/
theorem run_panics_iff {config : Config.Entries}
    (h : Settings.resolve config = .ok (some s)) (c : Command)
    (site : Site) : (c.run config site).Panics ↔ s.Stops := by
  have hs := Settings.accepted_of_resolve h
  have hs' : Settings.Accepted { s with autoCreate := false } :=
    ⟨hs.dialect, hs.table, hs.chunkBytes, hs.fits⟩
  cases c with
  | initSchema =>
      exact (createSchema_panics_iff h site).trans
        (Depot.connect_panics_iff hs' site)
  | store | download | describe | clean =>
      exact (runOnBackend_panics_iff _ config site).trans
        (choose_panics_iff h site)

end CommandLine.Command

/-- What an accepted configuration leads to: wherever it is connected,
resolved to a backend or used for a command, the process stops exactly
where no time is left to connect and the url lets a pool be built, and
else there is a result or a failure. All its numbers leave room for one
more in a 64-bit word, and a slice has at least one byte. -/
theorem accepted_panics_iff {config : Config.Entries}
    (h : Settings.resolve config = .ok (some s)) :
    s.Accepted
      ∧ (∀ site, (Depot.connect s site).Panics ↔ s.Stops)
      ∧ (∀ site, (Backend.choose Backend.known config site).toAttempt.Panics
          ↔ s.Stops)
      ∧ ∀ (c : CommandLine.Command) (site : Site),
          (c.run config site).Panics ↔ s.Stops :=
  ⟨Settings.accepted_of_resolve h,
    Depot.connect_panics_iff (Settings.accepted_of_resolve h),
    choose_panics_iff h, CommandLine.Command.run_panics_iff h⟩

/-- A configuration with a url and a connection timeout. -/
def Settings.timed (millis : Int) : Config.Entries :=
  [("storage", .table [("dfs", .table [("db", .table
    [("url", .scalar none (.text "files.db")),
      ("connection_timeout_ms", .scalar none (.number millis))])])])]

/-- With a millisecond to connect in, cleaning a bucket does not stop the
process. -/
theorem accepted_panics_iff_timed :
    ¬(CommandLine.Command.run (.clean "logs" 7) (Settings.timed 1)
      { files := {} }).Panics := by
  have hresolve : Settings.resolve (Settings.timed 1)
      = .ok (some
        { driver := "sqlite", url := "files.db", username := "",
          password := "", autoCreate := false, table := "blobvault_files",
          maxFileBytes := 64 * 1024 * 1024, chunkBytes := 1024 * 1024,
          atomicOverwrite := false, busyTimeout := 5000,
          connectionTimeout := 1 }) := rfl
  obtain ⟨-, -, -, hrun⟩ := accepted_panics_iff hresolve
  rw [hrun]
  exact fun h => absurd h.1 (by decide)

/-- A configuration without any time to connect in is accepted, and
stops the process. -/
theorem accepted_without_time :
    ∃ s, Settings.resolve (Settings.timed 0) = .ok (some s)
      ∧ (Depot.connect s { files := {} }).Panics
      ∧ (CommandLine.Command.run (.clean "logs" 7) (Settings.timed 0)
          { files := {} }).Panics := by
  have hresolve : Settings.resolve (Settings.timed 0)
      = .ok (some
        { driver := "sqlite", url := "files.db", username := "",
          password := "", autoCreate := false, table := "blobvault_files",
          maxFileBytes := 64 * 1024 * 1024, chunkBytes := 1024 * 1024,
          atomicOverwrite := false, busyTimeout := 5000,
          connectionTimeout := 0 }) := rfl
  refine ⟨_, hresolve, ⟨timeoutPanic, rfl⟩, ?_⟩
  exact (CommandLine.Command.run_panics_iff hresolve _ _).mpr
    ⟨rfl, "files.db", rfl⟩

end

end FileDepot
