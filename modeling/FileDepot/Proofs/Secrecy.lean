/-
The password does not leak.

Two runs under configurations that differ in nothing but the password
cannot be told apart. Of everything that is read the password alone is
resolved differently, and to itself (`SecretsApart.resolve`). Connecting
looks at it once, to tell whether there are credentials, so whether it is
empty shows and nothing else (`connect_password`). All that follows is
done on a depot that knows nothing of it.
-/
import FileDepot.Depot.Inspect
import FileDepot.Proofs.Activation
import FileDepot.Proofs.Resolving

namespace FileDepot

open Settings (setting? path)

variable {p p' : String} {config config' : Config.Entries} {s : Settings}

-- ======================================================== two secrets

/-- Two configurations hold the same settings but for the password, which
is one text in the one and another in the other, and empty in neither. -/
structure SecretsApart (p p' : String)
    (config config' : Config.Entries) : Prop where
  others : ∀ name, name ≠ "password" →
    setting? config' name = setting? config name
  first : ∃ origin,
    setting? config "password" = some (.scalar origin (.text p))
  second : ∃ origin,
    setting? config' "password" = some (.scalar origin (.text p'))
  first_ne : p ≠ ""
  second_ne : p' ≠ ""

namespace SecretsApart

/-- Replacing the password of a configuration sets two secrets apart. -/
theorem of_put {origin : Option String}
    (h : setting? config "password" = some (.scalar origin (.text p)))
    (hp : p ≠ "") (hp' : p' ≠ "") (origin' : Option String) :
    SecretsApart p p' config
      (Config.put (path "password") (.scalar origin' (.text p')) config) where
  others name hname := by rw [Settings.setting_put, if_neg (Ne.symm hname)]
  first := ⟨origin, h⟩
  second := ⟨origin', by rw [Settings.setting_put, if_pos rfl]⟩
  first_ne := hp
  second_ne := hp'

/-- A depot is wanted under both or neither. -/
theorem wanted (h : SecretsApart p p' config config') :
    Settings.wanted config' = Settings.wanted config := by
  unfold Settings.wanted
  rw [h.others "url" (by decide)]

/-- A password that is found as a text is read as it is. -/
theorem text_password
    (h : ∃ origin, setting? config "password"
      = some (.scalar origin (.text p))) :
    Settings.text config "password" = .ok (some p) := by
  obtain ⟨origin, h⟩ := h
  unfold Settings.text Settings.optional
  rw [h]
  rfl

/-- Both resolve to the same but for the password, or fail alike. -/
theorem resolve (h : SecretsApart p p' config config') :
    Settings.resolve config'
      = (Settings.resolve config).map
          (Option.map fun s => { s with password := p' }) :=
  Settings.resolve_credential (c := .password)
    (fun name _ hname => h.others name hname) (text_password h.first)
    (text_password h.second)

/-- What the first resolves to has the first password. -/
theorem password_eq (h : SecretsApart p p' config config')
    (hs : Settings.resolve config = .ok (some s)) : s.password = p := by
  have hself : Settings.resolve config
      = (Settings.resolve config).map
          (Option.map fun s => { s with password := p }) :=
    Settings.resolve_credential (c := .password) (fun _ _ _ => rfl)
      (text_password h.first) (text_password h.first)
  rw [hs] at hself
  exact congrArg Settings.password
    (Option.some.inj (Except.ok.inj hself))

/-- It is not empty. -/
theorem password_ne (h : SecretsApart p p' config config')
    (hs : Settings.resolve config = .ok (some s)) : s.password ≠ "" := by
  rw [h.password_eq hs]
  exact h.first_ne

end SecretsApart

-- ========================================================= connecting

/-- Connecting does not tell one password from another, where neither is
empty. -/
theorem Depot.connect_password (hs : s.password ≠ "") (hp : p ≠ "")
    (site : Site) :
    connect { s with password := p } site = connect s site := by
  have hplan : plan { s with password := p } = plan s := rfl
  have hevents : credentialEvents { s with password := p }
      = credentialEvents s := by
    unfold credentialEvents
    rw [if_pos (.inr hp), if_pos (.inr hs)]
  have hstart : start { s with password := p } = start s := rfl
  unfold connect
  rw [hplan, hevents, hstart]

namespace SecretsApart

/-- A depot is built from both alike. -/
theorem buildDepot (h : SecretsApart p p' config config') (site : Site) :
    Backend.buildDepot config' site = Backend.buildDepot config site := by
  unfold Backend.buildDepot
  rw [h.resolve]
  cases hs : Settings.resolve config with
  | error fault => rfl
  | ok s? =>
    cases s? with
    | none => rfl
    | some s =>
      exact Depot.connect_password (h.password_ne hs) h.second_ne site

/-- A choice among the known backends comes to the same. -/
theorem choose (h : SecretsApart p p' config config') (site : Site) :
    Backend.choose Backend.known config' site
      = Backend.choose Backend.known config site := by
  have hactivate : Backend.activate config' site Backend.depot []
      = Backend.activate config site Backend.depot [] := by
    have hbuild : Backend.depot.build config' site
        = Backend.depot.build config site := h.buildDepot site
    unfold Backend.activate
    rw [hbuild]
  unfold Backend.choose
  rw [Backend.candidates_known_eq, Backend.candidates_known_eq, h.wanted]
  cases Settings.wanted config with
  | false => rfl
  | true =>
    rw [if_pos rfl]
    dsimp only
    rw [hactivate]

/-- The schema is created alike. -/
theorem createSchema (h : SecretsApart p p' config config') (site : Site) :
    CommandLine.Command.createSchema config' site
      = CommandLine.Command.createSchema config site := by
  unfold CommandLine.Command.createSchema
  cases hs : Settings.resolve config with
  | error fault =>
    rw [h.resolve, hs]
    rfl
  | ok s? =>
    cases s? with
    | none =>
      rw [h.resolve, hs]
      rfl
    | some s =>
      have hne := h.password_ne hs
      have hmanual : ({ s with autoCreate := false } : Settings).password ≠ "" :=
        hne
      have hconnect := Depot.connect_password hmanual h.second_ne site
      rw [h.resolve, hs, Except.map, Option.map_some]
      dsimp only at hconnect ⊢
      rw [hconnect]

/-- A command runs alike. -/
theorem run (h : SecretsApart p p' config config')
    (c : CommandLine.Command) (site : Site) :
    c.run config' site = c.run config site := by
  have hbackend : c.runOnBackend config' site = c.runOnBackend config site := by
    unfold CommandLine.Command.runOnBackend
    rw [h.choose]
  cases c with
  | initSchema => exact h.createSchema site
  | store l file => exact hbackend
  | download l target => exact hbackend
  | describe l => exact hbackend
  | clean bucket days => exact hbackend

end SecretsApart

-- ============================================================= secrecy

/-- The password does not leak. Under two configurations that differ in
nothing but the password, empty in neither, a depot is wanted or not, a
choice among the known backends comes to the same calls, result, site and
events, and every command on every site leaves the same site, with the
same result and output and the same events. They resolve to the same but
for the password, or fail alike, and that is not seen where the settings
are written out for inspection. -/
theorem password_stays_secret (h : SecretsApart p p' config config') :
    Settings.wanted config' = Settings.wanted config
      ∧ (∀ site, Backend.choose Backend.known config' site
          = Backend.choose Backend.known config site)
      ∧ (∀ (c : CommandLine.Command) site,
          c.run config' site = c.run config site)
      ∧ Settings.resolve config'
        = (Settings.resolve config).map
            (Option.map fun s => { s with password := p' })
      ∧ ∀ s s', Settings.resolve config = .ok (some s) →
          Settings.resolve config' = .ok (some s') →
          s.password = p ∧ s' = { s with password := p' }
          ∧ s'.inspect = s.inspect ∧ s'.inspectLines = s.inspectLines := by
  refine ⟨h.wanted, h.choose, h.run, h.resolve, fun s s' hs hs' => ?_⟩
  have hapart : s' = { s with password := p' } := by
    rw [h.resolve, hs] at hs'
    exact (Option.some.inj (Except.ok.inj hs')).symm
  subst hapart
  exact ⟨h.password_eq hs, rfl, rfl, rfl⟩

/-- A configuration with a password. -/
def guarded (password : String) : Config.Entries :=
  [("storage", .table [("dfs", .table [("db", .table
    [("url", .scalar none (.text "files.db")),
      ("password", .scalar none (.text password))])])])]

/-- Two passwords of one configuration are resolved, and look the same. -/
theorem password_stays_secret_guarded :
    SecretsApart "hunter2" "letmein" (guarded "hunter2") (guarded "letmein")
      ∧ ∃ s s', Settings.resolve (guarded "hunter2") = .ok (some s)
        ∧ Settings.resolve (guarded "letmein") = .ok (some s')
        ∧ s.password = "hunter2" ∧ s'.password = "letmein"
        ∧ s'.inspect = s.inspect := by
  have h : SecretsApart "hunter2" "letmein" (guarded "hunter2")
      (guarded "letmein") :=
    .of_put rfl (by decide) (by decide) none
  obtain ⟨s, hs⟩ : ∃ s, Settings.resolve (guarded "hunter2") = .ok (some s) :=
    ⟨_, rfl⟩
  obtain ⟨s', hs'⟩ : ∃ s, Settings.resolve (guarded "letmein") = .ok (some s) :=
    ⟨_, rfl⟩
  obtain ⟨-, -, -, -, hlook⟩ := password_stays_secret h
  obtain ⟨hpassword, hapart, hinspect, -⟩ := hlook s s' hs hs'
  refine ⟨h, s, s', hs, hs', hpassword, ?_, hinspect⟩
  rw [hapart]

end FileDepot
