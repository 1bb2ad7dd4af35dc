/-
What resolving depends on.

Eleven settings are read, one after another, and the first that cannot be
used is reported. So configurations that agree in those eleven resolve to
the same. Here they need not agree in all: where they differ only in the
places that values were found in, that shows in the fault alone
(`resolve_alike`), and where they differ in a credential, it is carried
over and decides nothing (`resolve_credential`).
-/
import FileDepot.Proofs.Chain
import FileDepot.Proofs.Variables

namespace FileDepot

variable {α β : Type}

-- ============================================================ origins

/-- A misfit without the place its value was found in. -/
def Config.Misfit.unplaced (m : Misfit) : Misfit := { m with origin := none }

/-- A fault without that place. -/
def ConfigFault.unplaced : ConfigFault → ConfigFault
  | .misfit key m => .misfit key m.unplaced
  | fault => fault

/-- A setting without that place. -/
def Config.Setting.unplaced : Setting → Setting
  | .scalar _ value => .scalar none value
  | .list _ items => .list none items
  | .table entries => .table entries

/-- A setting is read the same wherever it was found. -/
theorem Config.Setting.asScalar_unplaced (key : String) (wanted : Wanted)
    (read : Scalar → Except (Found × Wanted) α) (s : Setting) :
    asScalar key wanted read s.unplaced
      = (asScalar key wanted read s).mapError Misfit.unplaced := by
  cases s with
  | scalar origin value =>
    unfold unplaced asScalar
    dsimp only
    cases read value with
    | ok a => rfl
    | error e => rfl
  | list origin items => rfl
  | table entries => rfl

/-- Two computations come to the same, up to the place in what they
report. -/
def Alike (x y : Except ConfigFault α) : Prop :=
  x.mapError ConfigFault.unplaced = y.mapError ConfigFault.unplaced

namespace Alike

theorem refl (x : Except ConfigFault α) : Alike x x := rfl

/-- What is alike to a success is the same. -/
theorem eq_ok {x : Except ConfigFault α} {a : α} (h : Alike x (.ok a)) :
    x = .ok a := by
  cases x with
  | error fault => cases h
  | ok b =>
    cases h
    rfl

/-- Chains of such computations are alike. -/
theorem bind {x y : Except ConfigFault α} {f g : α → Except ConfigFault β}
    (h : Alike x y) (hfg : ∀ a, Alike (f a) (g a)) :
    Alike (x >>= f) (y >>= g) := by
  cases x with
  | error fault =>
    cases y with
    | error fault' =>
      show Except.error _ = Except.error _
      rw [Except.error.inj h]
    | ok b => cases h
  | ok a =>
    cases y with
    | error fault' => cases h
    | ok b =>
      cases h
      exact hfg a

end Alike

namespace Settings

variable {config config' : Config.Entries}

/-- Two configurations hold the same under a name, wherever it was
found. -/
def SameUnder (name : String) (config config' : Config.Entries) : Prop :=
  (setting? config name).map Config.Setting.unplaced
    = (setting? config' name).map Config.Setting.unplaced

/-- What is read of a setting is the same then. -/
theorem optional_alike {name : String} (h : SameUnder name config config')
    (wanted : Config.Wanted)
    (read : Config.Scalar → Except (Config.Found × Config.Wanted) α) :
    Alike
      (optional config name fun key =>
        Config.Setting.asScalar key wanted read)
      (optional config' name fun key =>
        Config.Setting.asScalar key wanted read) := by
  unfold optional
  unfold SameUnder at h
  cases hs : setting? config name with
  | none =>
    cases hs' : setting? config' name with
    | none => exact .refl _
    | some s' => rw [hs, hs'] at h; cases h
  | some s =>
    cases hs' : setting? config' name with
    | none => rw [hs, hs'] at h; cases h
    | some s' =>
      rw [hs, hs'] at h
      have hread := Config.Setting.asScalar_unplaced (key name) wanted read s
      rw [Option.some.inj h, Config.Setting.asScalar_unplaced] at hread
      dsimp only
      cases hr : Config.Setting.asScalar (key name) wanted read s with
      | ok a =>
        cases hr' : Config.Setting.asScalar (key name) wanted read s' with
        | ok a' => rw [hr, hr'] at hread; cases hread; exact .refl _
        | error m' => rw [hr, hr'] at hread; cases hread
      | error m =>
        cases hr' : Config.Setting.asScalar (key name) wanted read s' with
        | ok a' => rw [hr, hr'] at hread; cases hread
        | error m' =>
          rw [hr, hr'] at hread
          have hm : m'.unplaced = m.unplaced := Except.error.inj hread
          show Except.error (ConfigFault.misfit _ m.unplaced) = _
          rw [← hm]
          rfl

theorem natural_alike {name : String} (h : SameUnder name config config') :
    Alike (natural config name) (natural config' name) :=
  (optional_alike h _ _).bind fun _ => .refl _

/-- Configurations that hold the same under every name resolve to the
same. -/
theorem resolve_alike
    (h : ∀ name ∈ names, SameUnder name config config') :
    Alike (resolve config) (resolve config') := by
  simp only [names, List.forall_mem_cons] at h
  obtain ⟨hdriver, hurl, huser, hpassword, hauto, htable, hmax, hchunk,
    hatomic, hbusy, htime, -⟩ := h
  refine (optional_alike hurl _ _).bind fun url? => ?_
  split
  · exact .refl _
  · split
    · exact .refl _
    · refine .bind ?_ fun _ => .refl _
      refine .bind ((optional_alike hdriver _ _).bind fun _ => .refl _)
        fun driver => ?_
      refine .bind (.refl _) fun _ => ?_
      refine .bind ((optional_alike htable _ _).bind fun _ => .refl _)
        fun table => ?_
      refine .bind (.refl _) fun _ => ?_
      refine (natural_alike hchunk).bind fun chunk? => ?_
      dsimp only
      split
      · exact .refl _
      · refine (optional_alike huser _ _).bind fun _ => ?_
        refine (optional_alike hpassword _ _).bind fun _ => ?_
        refine (optional_alike hauto _ _).bind fun _ => ?_
        refine (natural_alike hmax).bind fun _ => ?_
        refine (optional_alike hatomic _ _).bind fun _ => ?_
        refine (natural_alike hbusy).bind fun _ => ?_
        exact (natural_alike htime).bind fun _ => .refl _

end Settings

-- ======================================================== credentials

/-- A credential among the settings. -/
inductive Credential where
  | username
  | password
  deriving DecidableEq, Repr

namespace Credential

/-- The name of its setting. -/
def name : Credential → String
  | username => "username"
  | password => "password"

/-- The credential of settings. -/
def get : Credential → Settings → String
  | username, s => s.username
  | password, s => s.password

/-- The settings with another one. -/
def set : Credential → String → Settings → Settings
  | username, text, s => { s with username := text }
  | password, text, s => { s with password := text }

theorem get_set (c : Credential) (text : String) (s : Settings) :
    c.get (c.set text s) = text := by
  cases c <;> rfl

end Credential

/-- A computation carries over what another one comes to, changed in one
way. -/
def Carries (f : α → β) (x : Except ConfigFault α)
    (y : Except ConfigFault β) : Prop :=
  y = x.map f

namespace Carries

variable {σ τ : Type} {f : α → β}

/-- Chains that go on alike after the same step. -/
theorem bind {x y : Except ConfigFault σ} {g : σ → Except ConfigFault α}
    {h : σ → Except ConfigFault β} (hstep : y = x)
    (hrest : ∀ a, Carries f (g a) (h a)) :
    Carries f (x >>= g) (y >>= h) := by
  subst hstep
  cases y with
  | error fault => rfl
  | ok a => exact hrest a

/-- Chains that go on alike after a step of each that succeeds. -/
theorem step {x : Except ConfigFault σ} {y : Except ConfigFault τ}
    {g : σ → Except ConfigFault α} {h : τ → Except ConfigFault β} {a : σ}
    {b : τ} (hx : x = .ok a) (hy : y = .ok b)
    (hrest : Carries f (g a) (h b)) : Carries f (x >>= g) (y >>= h) := by
  subst hx hy
  exact hrest

end Carries

namespace Settings

variable {config config' : Config.Entries}

/-- What is read of a setting that two configurations share. -/
theorem optional_congr {name : String}
    (h : setting? config' name = setting? config name)
    (read : String → Config.Setting → Except Config.Misfit α) :
    optional config' name read = optional config name read := by
  unfold optional
  rw [h]

theorem natural_congr {name : String}
    (h : setting? config' name = setting? config name) :
    natural config' name = natural config name := by
  unfold natural
  rw [optional_congr h]

/-- Under a url a credential that can be read is carried over. -/
theorem resolveFor_credential {c : Credential} {t? : Option String}
    {t : String}
    (hothers : ∀ name ∈ names, name ≠ c.name →
      setting? config' name = setting? config name)
    (hread : text config c.name = .ok t?)
    (hread' : text config' c.name = .ok (some t)) (url : String) :
    Carries (c.set t) (resolveFor config url) (resolveFor config' url) := by
  have hshared : ∀ name ∈ names, name ≠ "username" → name ≠ "password" →
      setting? config' name = setting? config name := by
    intro name hname huser hpassword
    refine hothers name hname ?_
    cases c with
    | username => exact huser
    | password => exact hpassword
  have hdriver := hshared "driver" (by decide) (by decide) (by decide)
  have htable := hshared "table_name" (by decide) (by decide) (by decide)
  have hchunk := hshared "download_chunk_bytes" (by decide) (by decide)
    (by decide)
  have hauto := hshared "auto_create_table" (by decide) (by decide)
    (by decide)
  have hmax := hshared "max_file_bytes" (by decide) (by decide) (by decide)
  have hatomic := hshared "atomic_overwrite" (by decide) (by decide)
    (by decide)
  have hbusy := hshared "busy_timeout_ms" (by decide) (by decide) (by decide)
  have htime := hshared "connection_timeout_ms" (by decide) (by decide)
    (by decide)
  refine .bind (by unfold driverOf text; rw [optional_congr hdriver])
    fun driver => ?_
  refine .bind rfl fun _ => ?_
  refine .bind (by unfold tableOf text; rw [optional_congr htable])
    fun table => ?_
  refine .bind rfl fun _ => ?_
  refine .bind (natural_congr hchunk) fun chunk? => ?_
  dsimp only
  split
  · rfl
  -- the credentials come next: one is carried over, the other is shared
  cases c
  case' username =>
    have hpassword := hothers "password" (by decide) (by decide)
    refine .step hread hread' (.bind (optional_congr hpassword _) fun _ => ?_)
  case' password =>
    have huser := hothers "username" (by decide) (by decide)
    refine .bind (optional_congr huser _) fun _ => .step hread hread' ?_
  all_goals
    refine .bind (optional_congr hauto _) fun _ => ?_
    refine .bind (natural_congr hmax) fun _ => ?_
    refine .bind (optional_congr hatomic _) fun _ => ?_
    refine .bind (natural_congr hbusy) fun _ => ?_
    exact .bind (natural_congr htime) fun _ => rfl

/-- A credential that can be read is carried over. Configurations that
differ in it resolve to the same but for the field, or fail alike. -/
theorem resolve_credential {c : Credential} {t? : Option String}
    {t : String}
    (hothers : ∀ name ∈ names, name ≠ c.name →
      setting? config' name = setting? config name)
    (hread : text config c.name = .ok t?)
    (hread' : text config' c.name = .ok (some t)) :
    resolve config' = (resolve config).map (Option.map (c.set t)) := by
  have hurl : setting? config' "url" = setting? config "url" := by
    refine hothers "url" (by simp [names]) ?_
    cases c <;> decide
  show Carries _ (resolve config) (resolve config')
  refine .bind (optional_congr hurl _) fun url? => ?_
  split
  · rfl
  · split
    · rfl
    · have hfor := resolveFor_credential hothers hread hread'
      rw [hfor]
      cases resolveFor config (Text.trim _) with
      | error fault => rfl
      | ok s => rfl

end Settings

end FileDepot
