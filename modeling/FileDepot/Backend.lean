/-
Choosing a backend. Every provider is asked once, in the order of
registration, whether it is configured. Of those that are, the one of
the lowest priority number is built, the earliest among equals; the
others are told to be shadowed by it. There is no second choice: when
the build fails, so does the choice.
-/
import FileDepot.Depot.Connect

namespace FileDepot.Backend

/-- A kind of backend: its name, its priority, when it is configured
and how it is built. -/
structure Provider (σ : Type) where
  name : String
  priority : Int
  isConfigured : Config.Entries → Bool
  build : Config.Entries → Site → Attempt σ

/-- A call of a provider. -/
inductive Call where
  | asked (provider : String)
  | built (provider : String)
  deriving DecidableEq, Repr

/-- The backend in use. -/
structure Active (σ : Type) where
  name : String
  backend : σ

/-- What a choice comes to: an attempt, and the calls it made in
order. -/
structure Choice (σ : Type) extends Attempt (Active σ) where
  calls : List Call

/-- The configured providers, the first choice first. -/
def candidates (providers : List (Provider σ)) (config : Config.Entries) :
    List (Provider σ) :=
  (providers.filter fun p => p.isConfigured config).mergeSort
    fun p q => p.priority ≤ q.priority

/-- Builds the first choice. -/
def activate (config : Config.Entries) (site : Site) (p : Provider σ)
    (shadowed : List (Provider σ)) : Attempt (Active σ) :=
  let told := shadowed.map fun q => Event.shadowed q.name p.name
  let built := p.build config site
  match built.result with
  | .ok backend =>
    ⟨.ok ⟨p.name, backend⟩, built.site,
      told ++ built.events ++ [.activated p.name p.priority]⟩
  | .error stop => ⟨.error stop, built.site, told ++ built.events⟩

/-- Chooses and builds a backend. -/
def choose (providers : List (Provider σ)) (config : Config.Entries)
    (site : Site) : Choice σ :=
  let asked := providers.map fun p => Call.asked p.name
  match candidates providers config with
  | [] => ⟨.failed site (.config .noBackend), asked⟩
  | p :: shadowed =>
    ⟨activate config site p shadowed, asked ++ [.built p.name]⟩

-- =============================================================== depots

/-- The name of the backend that keeps files in a database. -/
def depotName : String := "database"

/-- Its priority: behind everything else. -/
def depotPriority : Int := 2147483643

/-- Builds a depot from a configuration. -/
def buildDepot (config : Config.Entries) (site : Site) : Attempt Mounted :=
  match Settings.resolve config with
  | .error fault => .failed site (.config fault)
  | .ok none => .failed site (.config .noUrl)
  | .ok (some settings) => Depot.connect settings site

/-- The backend that keeps files in a database. -/
def depot : Provider Mounted where
  name := depotName
  priority := depotPriority
  isConfigured := Settings.wanted
  build := buildDepot

/-- The backends there are. -/
def known : List (Provider Mounted) := [depot]

end FileDepot.Backend
