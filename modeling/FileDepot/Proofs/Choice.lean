/-
One backend, chosen by priority.

A choice is told here as a run that leaves a trace: every provider that
is asked, every event that is told and every provider that is built, in
the order it happens, each provider with its number of registration, so
that two of one name are still two. A run comes to what the choice comes
to (`choose_eq_run`). Its trace has one shape (`run_eq`): all are asked
in the order of registration, those behind the first are shadowed, and
the first alone is built, whatever comes of it.

Who is first rests on the sort being stable. The providers are sorted by
priority only, but those of one priority keep the order of their
numbers, so that the outcome is in strict order of priority and number
(`rank_ordered`).
-/
import FileDepot.Backend
import Mathlib.Data.List.Nodup

namespace FileDepot.Backend

variable {σ : Type}

-- =============================================================== runs

/-- A provider and its number in the order of registration. -/
abbrev Registered (σ : Type) := Provider σ × Nat

/-- A thing a choice does. -/
inductive Move (σ : Type) where
  | asked (c : Registered σ)
  | told (event : Event)
  | built (c : Registered σ)

namespace Move

/-- The call of a provider a move makes, if it makes one. -/
def call? : Move σ → Option Call
  | asked c => some (.asked c.1.name)
  | told _ => none
  | built c => some (.built c.1.name)

/-- The event a move tells, if it tells one. -/
def event? : Move σ → Option Event
  | told event => some event
  | _ => none

end Move

/-- What runs with a trace of the moves made so far. -/
abbrev Tracing (σ : Type) := StateM (List (Move σ))

/-- Makes a move. -/
def move (m : Move σ) : Tracing σ Unit :=
  modify fun trace => trace ++ [m]

/-- Makes several moves. -/
def moves : List (Move σ) → Tracing σ Unit
  | [] => pure ()
  | m :: rest => do
    move m
    moves rest

/-- Asks one provider after another and returns those that are
configured. -/
def askAll (config : Config.Entries) :
    List (Registered σ) → Tracing σ (List (Registered σ))
  | [] => pure []
  | c :: rest => do
    move (.asked c)
    let configured ← askAll config rest
    return if c.1.isConfigured config then c :: configured else configured

/-- Providers by their priority, those of one priority as they come. -/
def rank (configured : List (Registered σ)) : List (Registered σ) :=
  configured.mergeSort fun c e => c.1.priority ≤ e.1.priority

/-- What is told of those a provider shadows. -/
def shadowedBy (c : Registered σ) (shadowed : List (Registered σ)) :
    List Event :=
  shadowed.map fun e => .shadowed e.1.name c.1.name

/-- Builds one provider and tells what comes of it. -/
def buildOne (config : Config.Entries) (site : Site) (c : Registered σ) :
    Tracing σ (Except Stop (Active σ) × Site) := do
  move (.built c)
  let built := c.1.build config site
  moves (built.events.map .told)
  match built.result with
  | .error stop => return (.error stop, built.site)
  | .ok backend =>
    move (.told (.activated c.1.name c.1.priority))
    return (.ok ⟨c.1.name, backend⟩, built.site)

/-- A choice, one move at a time. -/
def run (providers : List (Provider σ)) (config : Config.Entries)
    (site : Site) : Tracing σ (Except Stop (Active σ) × Site) := do
  let configured ← askAll config providers.zipIdx
  match rank configured with
  | [] => return (.error (.failed (.config .noBackend)), site)
  | c :: shadowed =>
    moves ((shadowedBy c shadowed).map .told)
    buildOne config site c

-- ============================================================= traces

/-- A run continues with what its first part returns, after its moves. -/
theorem bind_run {α β : Type} {x : Tracing σ α} {f : α → Tracing σ β}
    {a : α} {trace after : List (Move σ)} (h : x.run trace = (a, after)) :
    (x >>= f).run trace = (f a).run after := by
  rw [StateT.run_bind, h]
  rfl

/-- Several moves are made in their order. -/
theorem moves_run (ms trace : List (Move σ)) :
    (moves ms).run trace = ((), trace ++ ms) := by
  induction ms generalizing trace with
  | nil => rw [List.append_nil]; rfl
  | cons m rest ih =>
    have hfirst : (move m).run trace = ((), trace ++ [m]) := rfl
    rw [moves, bind_run hfirst, ih, List.append_assoc,
      List.singleton_append]

/-- All are asked, each once and in turn. -/
theorem askAll_run (config : Config.Entries) (cs : List (Registered σ))
    (trace : List (Move σ)) :
    (askAll config cs).run trace
      = (cs.filter fun c => c.1.isConfigured config,
          trace ++ cs.map .asked) := by
  induction cs generalizing trace with
  | nil => rw [List.map_nil, List.append_nil]; rfl
  | cons c rest ih =>
    have hfirst : (move (.asked c)).run trace
        = ((), trace ++ [.asked c]) := rfl
    rw [askAll, bind_run hfirst, bind_run (ih _), List.filter_cons,
      List.append_assoc, List.singleton_append, List.map_cons]
    rfl

/-- What becomes of the provider that is built: its backend under its
name, or its own failure. -/
def served (config : Config.Entries) (site : Site) (c : Registered σ) :
    Except Stop (Active σ) × Site :=
  ((c.1.build config site).result.map fun backend => ⟨c.1.name, backend⟩,
    (c.1.build config site).site)

/-- What a provider tells when it is built, and that it is activated if
it is. -/
def tellings (config : Config.Entries) (site : Site) (c : Registered σ) :
    List Event :=
  (c.1.build config site).events
    ++ match (c.1.build config site).result with
      | .error _ => []
      | .ok _ => [.activated c.1.name c.1.priority]

/-- One build and its moves. -/
theorem buildOne_run (config : Config.Entries) (site : Site)
    (c : Registered σ) (trace : List (Move σ)) :
    (buildOne config site c).run trace
      = (served config site c,
          trace ++ [.built c] ++ (tellings config site c).map .told) := by
  have hfirst : (move (.built c)).run trace = ((), trace ++ [.built c]) := rfl
  unfold buildOne served tellings
  rw [bind_run hfirst, bind_run (moves_run _ _), List.map_append]
  cases (c.1.build config site).result with
  | error stop => rw [List.map_nil, List.append_nil]; rfl
  | ok backend => rw [← List.append_assoc]; rfl

/-- The configured providers with their numbers. -/
def configured (providers : List (Provider σ)) (config : Config.Entries) :
    List (Registered σ) :=
  providers.zipIdx.filter fun c => c.1.isConfigured config

/-- A choice and its moves. -/
theorem run_eq (providers : List (Provider σ)) (config : Config.Entries)
    (site : Site) :
    (run providers config site).run []
      = match rank (configured providers config) with
        | [] => ((.error (.failed (.config .noBackend)), site),
            providers.zipIdx.map .asked)
        | c :: shadowed => (served config site c,
            providers.zipIdx.map .asked
              ++ (shadowedBy c shadowed).map .told
              ++ [.built c] ++ (tellings config site c).map .told) := by
  rw [run, bind_run (askAll_run _ _ _), List.nil_append]
  change (match rank (configured providers config) with
    | [] => _ | c :: shadowed => _ : Tracing σ _).run _ = _
  cases rank (configured providers config) with
  | nil => rfl
  | cons c shadowed =>
    dsimp only
    rw [bind_run (moves_run _ _), buildOne_run]

-- ============================================================= ranking

/-- One provider comes before another: it has a lower priority number,
or the same and was registered earlier. -/
def Before (c e : Registered σ) : Prop :=
  c.1.priority < e.1.priority
    ∨ c.1.priority = e.1.priority ∧ c.2 < e.2

/-- The sort goes by a total preorder. -/
theorem byPriority_trans (c e g : Registered σ)
    (hce : decide (c.1.priority ≤ e.1.priority) = true)
    (heg : decide (e.1.priority ≤ g.1.priority) = true) :
    decide (c.1.priority ≤ g.1.priority) = true := by
  rw [decide_eq_true_eq] at hce heg ⊢
  omega

/-- Any two are in order one way or the other. -/
theorem byPriority_total (c e : Registered σ) :
    (decide (c.1.priority ≤ e.1.priority)
      || decide (e.1.priority ≤ c.1.priority)) = true := by
  rw [Bool.or_eq_true, decide_eq_true_eq, decide_eq_true_eq]
  omega

/-- Ranking is by priority. -/
theorem rank_priority (cs : List (Registered σ)) :
    (rank cs).Pairwise fun c e => c.1.priority ≤ e.1.priority :=
  (List.pairwise_mergeSort byPriority_trans byPriority_total cs).imp
    fun h => of_decide_eq_true h

/-- Ranking is stable: those of one priority stay as they are. -/
theorem rank_filter (cs : List (Registered σ)) (priority : Int) :
    (rank cs).filter (fun c => c.1.priority = priority)
      = cs.filter fun c => c.1.priority = priority := by
  have hequal : (cs.filter fun c => c.1.priority = priority).Pairwise
      fun c e => decide (c.1.priority ≤ e.1.priority) = true := by
    rw [List.pairwise_iff_forall_sublist]
    intro c e hce
    have hc := (List.mem_filter.mp (hce.subset (by simp : c ∈ [c, e]))).2
    have he := (List.mem_filter.mp (hce.subset (by simp : e ∈ [c, e]))).2
    rw [decide_eq_true_eq] at hc he ⊢
    omega
  have hwhole : (cs.filter fun c => c.1.priority = priority).Sublist
      (rank cs) :=
    List.sublist_mergeSort byPriority_trans byPriority_total hequal
      List.filter_sublist
  have hsub := hwhole.filter fun c => c.1.priority = priority
  simp only [List.filter_filter, Bool.and_self] at hsub
  have hperm : (rank cs).Perm cs := List.mergeSort_perm _ _
  exact (hsub.eq_of_length (hperm.filter _).length_eq.symm).symm

/-- Providers with ascending numbers are ranked in strict order. -/
theorem rank_ordered {cs : List (Registered σ)}
    (h : cs.Pairwise fun c e => c.2 < e.2) : (rank cs).Pairwise Before := by
  rw [List.pairwise_iff_forall_sublist]
  intro c e hce
  have hle := List.pairwise_iff_forall_sublist.mp (rank_priority cs) hce
  by_cases heq : c.1.priority = e.1.priority
  · have hpair := hce.filter fun g => g.1.priority = e.1.priority
    rw [rank_filter, List.filter_eq_self.mpr (by simp [heq])] at hpair
    have hcs := hpair.trans List.filter_sublist
    exact .inr ⟨heq, List.pairwise_iff_forall_sublist.mp h hcs⟩
  · exact .inl (by omega)

/-- The numbers of registration ascend. -/
theorem zipIdx_ascending (providers : List (Provider σ)) :
    providers.zipIdx.Pairwise fun c e => c.2 < e.2 := by
  rw [← List.pairwise_map (f := Prod.snd), List.zipIdx_map_snd]
  exact List.pairwise_lt_range'

-- ============================================================= choices

/-- Without their numbers they are the configured providers. -/
theorem configured_map (providers : List (Provider σ))
    (config : Config.Entries) :
    (configured providers config).map Prod.fst
      = providers.filter fun p => p.isConfigured config := by
  conv => rhs; rw [← List.zipIdx_map_fst 0 providers, List.filter_map]
  rfl

/-- The candidates are the configured providers as they are ranked. -/
theorem rank_map (providers : List (Provider σ)) (config : Config.Entries) :
    (rank (configured providers config)).map Prod.fst
      = candidates providers config := by
  unfold candidates rank
  rw [← configured_map]
  exact List.map_mergeSort fun c _ e _ => rfl

/-- A run shows a choice: it comes to the same, and its trace has the
calls of the choice and the events it tells. -/
structure Shows (shown : (Except Stop (Active σ) × Site) × List (Move σ))
    (choice : Choice σ) : Prop where
  result : shown.1.1 = choice.result
  site : shown.1.2 = choice.site
  calls : shown.2.filterMap Move.call? = choice.calls
  events : shown.2.filterMap Move.event? = choice.events

/-- Events are no calls. -/
theorem calls_told (events : List Event) :
    (events.map (Move.told : Event → Move σ)).filterMap Move.call? = [] := by
  rw [List.filterMap_map]
  exact List.filterMap_eq_nil_iff.mpr fun _ _ => rfl

/-- The events of told events. -/
theorem events_told (events : List Event) :
    (events.map (Move.told : Event → Move σ)).filterMap Move.event?
      = events := by
  rw [List.filterMap_map]
  exact List.filterMap_some

/-- The calls of those asked, by name. -/
theorem calls_asked (providers : List (Provider σ)) :
    (providers.zipIdx.map Move.asked).filterMap Move.call?
      = providers.map fun p => Call.asked p.name := by
  rw [List.filterMap_map]
  conv => rhs; rw [← List.zipIdx_map_fst 0 providers, List.map_map]
  rw [← List.filterMap_eq_map]
  rfl

/-- Asking tells nothing. -/
theorem events_asked (cs : List (Registered σ)) :
    (cs.map Move.asked).filterMap Move.event? = [] := by
  rw [List.filterMap_map]
  exact List.filterMap_eq_nil_iff.mpr fun _ _ => rfl

/-- Activating a candidate comes to what serves and tells all there is
to tell. -/
theorem activate_eq (config : Config.Entries) (site : Site)
    (c : Registered σ) (shadowed : List (Registered σ)) :
    activate config site c.1 (shadowed.map Prod.fst)
      = ⟨(served config site c).1, (served config site c).2,
          shadowedBy c shadowed ++ tellings config site c⟩ := by
  have htold : (shadowed.map Prod.fst).map
      (fun q => Event.shadowed q.name c.1.name) = shadowedBy c shadowed := by
    rw [List.map_map]
    rfl
  unfold activate served tellings
  rw [htold]
  dsimp only
  cases (c.1.build config site).result with
  | error stop => rw [List.append_nil]; rfl
  | ok backend => rw [← List.append_assoc]; rfl

/-- The run of a choice shows it. -/
theorem run_shows (providers : List (Provider σ)) (config : Config.Entries)
    (site : Site) :
    Shows ((run providers config site).run [])
      (choose providers config site) := by
  rw [run_eq]
  unfold choose
  rw [← rank_map providers config]
  cases rank (configured providers config) with
  | nil => exact ⟨rfl, rfl, calls_asked providers, events_asked _⟩
  | cons c shadowed =>
    rw [List.map_cons]
    dsimp only
    rw [activate_eq]
    refine ⟨rfl, rfl, ?_, ?_⟩
    · rw [List.filterMap_append, List.filterMap_append,
        List.filterMap_append, calls_asked, calls_told, calls_told,
        List.append_nil, List.append_nil]
      rfl
    · rw [List.filterMap_append, List.filterMap_append,
        List.filterMap_append, events_asked, events_told, events_told,
        List.nil_append]
      show _ ++ [] ++ _ = _
      rw [List.append_nil]

/-- The candidates are in the order of their priority. -/
theorem candidates_priority (providers : List (Provider σ))
    (config : Config.Entries) :
    (candidates providers config).Pairwise
      fun p q => p.priority ≤ q.priority := by
  rw [← rank_map, List.pairwise_map]
  exact rank_priority _

/-- Without two configured providers of one priority the candidates do
not depend on the order of registration. -/
theorem candidates_perm {providers others : List (Provider σ)}
    {config : Config.Entries} (hperm : others.Perm providers)
    (hdistinct : ((providers.filter fun p => p.isConfigured config).map
      Provider.priority).Nodup) :
    candidates others config = candidates providers config := by
  have hothers : (candidates others config).Perm
      (others.filter fun p => p.isConfigured config) :=
    List.mergeSort_perm _ _
  have hproviders : (candidates providers config).Perm
      (providers.filter fun p => p.isConfigured config) :=
    List.mergeSort_perm _ _
  refine List.Perm.eq_of_pairwise ?_ (candidates_priority others config)
    (candidates_priority providers config)
    (hothers.trans ((hperm.filter _).trans hproviders.symm))
  intro p q hp hq hpq hqp
  have hp' := (hperm.filter _).mem_iff.mp (hothers.mem_iff.mp hp)
  have hq' := hproviders.mem_iff.mp hq
  exact List.inj_on_of_nodup_map hdistinct hp' hq' (by omega)

/-- Exactly one backend, chosen by priority. All providers are asked, in
the order of registration. With none configured nothing is built. With
some, all but the first in strict order of priority and registration are
told to be shadowed, then the first is built, and its own outcome is that
of the choice. Where no two of them have one priority, the order of
registration has no say. -/
theorem one_backend_by_priority (providers : List (Provider σ))
    (config : Config.Entries) (site : Site) :
    Shows ((run providers config site).run [])
      (choose providers config site)
    ∧ (∃ ranked : List (Registered σ),
        ranked.Perm (configured providers config)
        ∧ ranked.Pairwise Before
        ∧ (run providers config site).run []
          = match ranked with
            | [] => ((.error (.failed (.config .noBackend)), site),
                providers.zipIdx.map .asked)
            | c :: shadowed => (served config site c,
                providers.zipIdx.map .asked
                  ++ (shadowedBy c shadowed).map .told
                  ++ [.built c] ++ (tellings config site c).map .told))
    ∧ ∀ others : List (Provider σ), others.Perm providers →
        ((providers.filter fun p => p.isConfigured config).map
          Provider.priority).Nodup →
        (choose others config site).toAttempt
          = (choose providers config site).toAttempt := by
  refine ⟨run_shows providers config site, ?_, ?_⟩
  · have hnumbers : (configured providers config).Pairwise
        fun c e => c.2 < e.2 :=
      (zipIdx_ascending providers).sublist List.filter_sublist
    exact ⟨rank (configured providers config), List.mergeSort_perm _ _,
      rank_ordered hnumbers, run_eq providers config site⟩
  · intro others hperm hdistinct
    unfold choose
    rw [candidates_perm hperm hdistinct]
    cases candidates providers config with
    | nil => rfl
    | cons p shadowed => rfl

/-- A provider for two lists below: always configured, and built without
more ado. -/
def ready (name : String) (priority : Int) : Provider Unit where
  name := name
  priority := priority
  isConfigured := fun _ => true
  build := fun _ site => ⟨.ok (), site, []⟩

/-- Two providers of different priority, registered in either order. -/
theorem one_backend_of_two :
    let near := ready "near" 1
    let far := ready "far" 2
    [near, far].Perm [far, near]
    ∧ (([far, near].filter fun p => p.isConfigured []).map
        Provider.priority).Nodup
    ∧ (choose [near, far] [] default).toAttempt
      = (choose [far, near] [] default).toAttempt := by
  have hperm : [ready "near" 1, ready "far" 2].Perm
      [ready "far" 2, ready "near" 1] := List.Perm.swap _ _ _
  have hdistinct : (([ready "far" 2, ready "near" 1].filter
      fun p => p.isConfigured []).map Provider.priority).Nodup := by
    decide
  exact ⟨hperm, hdistinct,
    (one_backend_by_priority [ready "far" 2, ready "near" 1] []
      default).2.2 _ hperm hdistinct⟩

end FileDepot.Backend
