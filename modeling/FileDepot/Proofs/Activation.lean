/-
Activation follows resolution.

The url of a configuration is looked at twice, each time by a rule of its
own: before a backend is chosen, to see whether a depot is wanted, and
when the depot is built, to resolve its settings. The two rules agree on
every configuration (`wanted_eq_false_iff`), so a backend that was asked
for is never passed over, and one that is built never finds its url
missing.

That is a statement about texts as well, since texts are all that is
reported of a fault. Everything else that can go wrong lies with a value
that was found (`ConfigFault.OfValue`), and no fault of that kind reads
like one about a missing backend or a missing url (`message_ne`).
-/
import FileDepot.Proofs.Commands

namespace FileDepot

-- ============================================================= faults

namespace ConfigFault

/-- A fault lies with a value that was found in a configuration. -/
def OfValue : ConfigFault → Prop
  | .noBackend | .noUrl | .reported _ => False
  | _ => True

/-- The characters of two texts are those of the text they make up. -/
private theorem mem_append {c : Char} {a b : String} :
    c ∈ (a ++ b).toList ↔ c ∈ a.toList ∨ c ∈ b.toList := by
  rw [String.toList_append, List.mem_append]

/-- A text of a fault of a value holds a mark: it quotes what it found, or
it says after a comma what it got. -/
private theorem OfValue.marked {fault : ConfigFault} (h : fault.OfValue) :
    (∃ c ∈ ['`', ','], c ∈ fault.message.toList)
      ∨ fault ∈ [emptyUrl, inMemory, noChunk] := by
  have hquote : '`' ∈ "`".toList := by decide +kernel
  have hcomma : ',' ∈ " must not be negative, got ".toList := by
    decide +kernel
  have hname : '`' ∈ "`: expected [A-Za-z_][A-Za-z0-9_]*".toList := by
    decide +kernel
  cases fault with
  | tableName name =>
    exact .inl ⟨'`', .head _, mem_append.mpr (.inr hname)⟩
  | driver key => exact .inl ⟨'`', .head _, mem_append.mpr (.inr hquote)⟩
  | misfit key m =>
    have hmem : '`' ∈ m.message.toList :=
      mem_append.mpr (.inl (mem_append.mpr (.inr hquote)))
    exact .inl ⟨'`', .head _, mem_append.mpr (.inr hmem)⟩
  | negative key value =>
    exact .inl ⟨',', .tail _ (.head _),
      mem_append.mpr (.inl (mem_append.mpr (.inr hcomma)))⟩
  | emptyUrl | inMemory | noChunk => exact .inr (by decide)
  | noBackend | noUrl | reported text => exact h.elim

/-- A fault of a value does not read like a missing backend or a missing
url. -/
theorem OfValue.message_ne {fault : ConfigFault} (h : fault.OfValue) :
    fault.message ≠ noBackend.message ∧ fault.message ≠ noUrl.message := by
  have hquote : '`' ∉ noBackend.message.toList
      ∧ '`' ∉ noUrl.message.toList := by
    decide +kernel
  have hcomma : ',' ∉ noBackend.message.toList
      ∧ ',' ∉ noUrl.message.toList := by
    decide +kernel
  have hmarks : ∀ c ∈ ['`', ','],
      c ∉ noBackend.message.toList ∧ c ∉ noUrl.message.toList :=
    List.forall_mem_cons.mpr ⟨hquote, List.forall_mem_singleton.mpr hcomma⟩
  obtain ⟨c, hc, hmem⟩ | hplain := h.marked
  · exact ⟨fun heq => (hmarks c hc).1 (heq ▸ hmem),
      fun heq => (hmarks c hc).2 (heq ▸ hmem)⟩
  · have hplains : ∀ f ∈ [emptyUrl, inMemory, noChunk],
        f.message ≠ noBackend.message ∧ f.message ≠ noUrl.message := by
      decide +kernel
    exact hplains fault hplain

end ConfigFault

-- ============================================================== blame

/-- A computation fails over values only. -/
def BlamesValues {α : Type} (x : Except ConfigFault α) : Prop :=
  ∀ fault, x = .error fault → fault.OfValue

namespace BlamesValues

variable {α β : Type}

theorem ok (a : α) : BlamesValues (.ok a) := nofun

theorem error {fault : ConfigFault} (h : fault.OfValue) :
    BlamesValues (.error fault : Except ConfigFault α) := by
  intro fault' heq
  cases heq
  exact h

/-- A chain of such computations is one. -/
theorem bind {x : Except ConfigFault α} {f : α → Except ConfigFault β}
    (hx : BlamesValues x) (hf : ∀ a, BlamesValues (f a)) :
    BlamesValues (x >>= f) := by
  cases x with
  | error fault => exact error (hx fault rfl)
  | ok a => exact hf a

end BlamesValues

section

variable {α : Type}

theorem TableName.blames_ofText (text : String) :
    BlamesValues (TableName.ofText text) := by
  unfold TableName.ofText
  split
  · exact .ok _
  · exact .error trivial

theorem Dialect.blames_ofDriver (driver : String) :
    BlamesValues (Dialect.ofDriver driver) := by
  unfold Dialect.ofDriver
  split
  · exact .ok _
  · exact .error trivial

theorem Address.blames_ofUrl (url : String) :
    BlamesValues (Address.ofUrl url) := by
  obtain ⟨cs, hcs⟩ := Address.ofUrl_eq url
  rw [hcs]
  split
  · exact .error trivial
  · split
    · exact .error trivial
    · exact .ok _

namespace Settings

variable (config : Config.Entries)

theorem blames_optional (name : String)
    (read : String → Config.Setting → Except Config.Misfit α) :
    BlamesValues (optional config name read) := by
  unfold optional
  split
  · exact .ok _
  · split
    · exact .ok _
    · exact .error trivial

theorem blames_natural (name : String) :
    BlamesValues (natural config name) := by
  refine .bind (blames_optional config name _) fun n? => ?_
  split
  · exact .ok _
  · split
    · exact .error trivial
    · exact .ok _

/-- Resolving fails over values only. -/
theorem blames_resolveFor (url : String) :
    BlamesValues (resolveFor config url) := by
  refine .bind (.bind (blames_optional config _ _) fun _ => .ok _) fun driver => ?_
  refine .bind (Dialect.blames_ofDriver driver) fun _ => ?_
  refine .bind (.bind (blames_optional config _ _) fun _ => .ok _) fun table => ?_
  refine .bind (TableName.blames_ofText table) fun _ => ?_
  refine .bind (blames_natural config _) fun chunk? => ?_
  dsimp only
  split
  · exact .error trivial
  · refine .bind (blames_optional config _ _) fun _ => ?_
    refine .bind (blames_optional config _ _) fun _ => ?_
    refine .bind (blames_optional config _ _) fun _ => ?_
    refine .bind (blames_natural config _) fun _ => ?_
    refine .bind (blames_optional config _ _) fun _ => ?_
    refine .bind (blames_natural config _) fun _ => ?_
    exact .bind (blames_natural config _) fun _ => .ok _

theorem blames_resolve : BlamesValues (resolve config) := by
  refine .bind (blames_optional config _ _) fun url? => ?_
  split
  · exact .ok _
  · split
    · exact .ok _
    · exact .bind (blames_resolveFor config _) fun _ => .ok _

end Settings

/-- So does planning a connection. -/
theorem Depot.blames_plan (s : Settings) : BlamesValues (plan s) := by
  refine .bind (Dialect.blames_ofDriver _) fun _ => ?_
  refine .bind (TableName.blames_ofText _) fun _ => ?_
  exact .bind (Address.blames_ofUrl _) fun _ => .ok _

/-- Provisioning the table of a depot never finds its name at fault. -/
theorem Depot.provision_ne_config (d : Depot) (scene : Scene)
    (fault : ConfigFault) :
    (d.provision scene).result ≠ .error (.config fault) := by
  have hname : isTableName d.table.text = true := d.table.accepted
  unfold Depot.provision
  cases hout : scene.outage with
  | some outage =>
    rw [provision_unreached hname hout]
    nofun
  | none =>
    rw [provision_reached hname hout]
    dsimp only
    unfold Database.provision
    split
    · nofun
    · split
      · nofun
      · split <;> nofun

/-- Connecting fails over a configuration only where a value is at
fault. -/
theorem Depot.connect_blames {s : Settings} {site : Site}
    {fault : ConfigFault}
    (h : (connect s site).result = .error (.failed (.config fault))) :
    fault.OfValue := by
  unfold connect at h
  cases hplan : plan s with
  | error fault' =>
    rw [hplan] at h
    cases h
    exact blames_plan s fault hplan
  | ok p =>
    rw [hplan] at h
    change (if _ then _ else _ : Attempt Mounted).result = _ at h
    split at h
    · cases h
    · split at h
      · cases h
      · next residence opened _ =>
        unfold start Mounted.play at h
        dsimp only at h
        split at h
        · split at h
          · cases h
          · next failure hresult =>
            cases h
            exact absurd hresult (provision_ne_config _ _ fault)
        · cases h

end

-- ========================================================= activation

/-- A depot is not wanted exactly where no settings are resolved. -/
theorem Settings.wanted_eq_false_iff (config : Config.Entries) :
    wanted config = false ↔ resolve config = .ok none := by
  unfold wanted resolve text optional
  cases setting? config "url" with
  | none => exact ⟨fun _ => rfl, fun _ => rfl⟩
  | some v =>
    dsimp only
    cases v.asText (key "url") with
    | error m => exact ⟨nofun, nofun⟩
    | ok url =>
      dsimp only
      rw [ok_bind]
      dsimp only
      cases Text.allBlank url with
      | true => exact ⟨fun _ => rfl, fun _ => rfl⟩
      | false =>
        refine ⟨nofun, fun h => ?_⟩
        rw [if_neg Bool.false_ne_true] at h
        cases hfor : resolveFor config (Text.trim url) with
        | error fault => rw [hfor] at h; cases h
        | ok s => rw [hfor] at h; cases h

namespace Backend

variable {config : Config.Entries} {site : Site}

/-- A choice is refused with a text about its configuration. -/
def Choice.Refused {σ : Type} (c : Choice σ) (text : String) : Prop :=
  ∃ fault, c.result = .error (.failed (.config fault))
    ∧ fault.message = text

/-- What connecting a depot comes to as a choice: the same result under
the name of the backend, on the same site, and told to be activated after
a success. -/
def activated (a : Attempt Mounted) : Attempt (Active Mounted) where
  result := a.result.map fun m => ⟨depotName, m⟩
  site := a.site
  events := a.events ++ match a.result with
    | .ok _ => [.activated depotName depotPriority]
    | .error _ => []

/-- A choice that failed over its depot failed to connect it. -/
theorem activated_error {a : Attempt Mounted} {stop : Stop}
    (h : (activated a).result = .error stop) : a.result = .error stop := by
  obtain ⟨result, site, events⟩ := a
  cases result with
  | ok m => cases h
  | error stop' =>
    cases h
    rfl

/-- Without a url there is nothing to choose from. -/
theorem choose_of_none (h : Settings.resolve config = .ok none)
    (site : Site) :
    (choose known config site).toAttempt
      = .failed site (.config .noBackend) := by
  have hwanted := (Settings.wanted_eq_false_iff config).mpr h
  unfold choose
  rw [candidates_known_eq, hwanted]
  rfl

/-- A configuration that does not resolve is refused with the fault of
resolving it. -/
theorem choose_of_error {fault : ConfigFault}
    (h : Settings.resolve config = .error fault) (site : Site) :
    (choose known config site).toAttempt
      = .failed site (.config fault) := by
  have hwanted : Settings.wanted config = true := by
    cases hw : Settings.wanted config with
    | true => rfl
    | false => cases h.symm.trans ((Settings.wanted_eq_false_iff config).mp hw)
  have hbuild : depot.build config site = .failed site (.config fault) := by
    show buildDepot config site = _
    unfold buildDepot
    rw [h]
  unfold choose
  rw [candidates_known_eq, hwanted]
  show activate config site depot [] = _
  unfold activate
  rw [hbuild]
  rfl

/-- A configuration that resolves leads to what connecting comes to. -/
theorem choose_of_some {s : Settings}
    (h : Settings.resolve config = .ok (some s)) (site : Site) :
    (choose known config site).toAttempt
      = activated (Depot.connect s site) := by
  rw [CommandLine.Command.choose_known h site]
  generalize Depot.connect s site = a
  rfl

/-- What can be at fault when a choice is refused: there is no backend, or
a value is at fault. -/
theorem fault_of_choose {fault : ConfigFault}
    (h : (choose known config site).result
      = .error (.failed (.config fault))) :
    (fault = .noBackend ∧ Settings.resolve config = .ok none)
      ∨ fault.OfValue := by
  cases hr : Settings.resolve config with
  | error fault' =>
    rw [choose_of_error hr site] at h
    cases h
    exact .inr (Settings.blames_resolve config fault hr)
  | ok s? =>
    cases s? with
    | none =>
      rw [choose_of_none hr site] at h
      cases h
      exact .inl ⟨rfl, rfl⟩
    | some s =>
      rw [choose_of_some hr site] at h
      exact .inr (Depot.connect_blames (activated_error h))

/-- Activation and resolution never disagree. A depot is not wanted
exactly where resolving comes to no settings, and that is exactly where a
choice among the known backends is refused because there is none. Where
resolving fails, so does the choice, with the same fault and nothing done;
else it comes to what connecting under the resolved settings comes to. A
missing url is never what it is refused for. -/
theorem activation_follows_resolution (config : Config.Entries)
    (site : Site) :
    (Settings.wanted config = false ↔ Settings.resolve config = .ok none)
      ∧ ((choose known config site).Refused
            "no storage backend is configured"
          ↔ Settings.resolve config = .ok none)
      ∧ (∀ fault, Settings.resolve config = .error fault →
          (choose known config site).toAttempt
            = .failed site (.config fault))
      ∧ (∀ s, Settings.resolve config = .ok (some s) →
          (choose known config site).toAttempt
            = activated (Depot.connect s site))
      ∧ ¬(choose known config site).Refused
          "storage.dfs.db.url is not set" := by
  refine ⟨Settings.wanted_eq_false_iff config, ⟨?_, fun h => ?_⟩,
    fun fault h => choose_of_error h site,
    fun s h => choose_of_some h site, ?_⟩
  · rintro ⟨fault, hresult, hmessage⟩
    obtain ⟨-, hnone⟩ | hvalue := fault_of_choose hresult
    · exact hnone
    · exact absurd hmessage hvalue.message_ne.1
  · have hresult : (choose known config site).result
        = .error (.failed (.config .noBackend)) := by
      rw [choose_of_none h site]
      rfl
    exact ⟨.noBackend, hresult, rfl⟩
  · rintro ⟨fault, hresult, hmessage⟩
    obtain ⟨rfl, -⟩ | hvalue := fault_of_choose hresult
    · exact absurd hmessage (by decide +kernel)
    · exact hvalue.message_ne.2 hmessage

end Backend

end FileDepot
