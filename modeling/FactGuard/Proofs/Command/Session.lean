import FactGuard.Command.Run
import FactGuard.Proofs.Fact.Cache
import FactGuard.Proofs.Success

/-!
# Proofs/Command/Session — commands that share a cache

A process may run several commands, one after the other, on registries that are remembered from one
to the next. A command takes nothing from the cache but the registry of its agent (`run_cases`), so
each of them comes out as it does when nothing is remembered (`outcomes_eq_map`).
-/

namespace FactGuard.Command

/-! ## One command -/

/-- The document of the agent that a command works on, if it is given one. -/
def agentPath? : Command → Option String
  | facts agent _ => agent
  | validateAgent agent => some agent
  | validateGuard _ factsFrom => factsFrom
  | translate _ agent => agent
  | evaluate agent _ _ => some agent
  | config => none

/-- The same settings, but registries are not remembered. -/
def forgetting (settings : Config) : Config := { settings with cacheEnabled := false }

/-- The registry that is built for an agent; without an agent, the core facts. -/
def builtFor : Option Agent → Fact.Registry
  | none => .core
  | some agent => agent.registry

/-- Without a cache, the registry is built for the job and nothing is remembered. -/
theorem registryFor_forgetting (settings : Config) (agent : Option Agent) (cache : Fact.Cache) :
    registryFor (forgetting settings) agent cache = (builtFor agent, cache) := by
  cases agent <;> rfl

/-- A file that is named must hold an agent. -/
theorem loadAgent?_some {files : Files} {path : String} {agent : Agent}
    (h : loadAgent files path = .ok agent) : loadAgent? files (some path) = .ok (some agent) := by
  rw [loadAgent?, h]
  rfl

/-- **A command takes nothing from the cache but the registry of its agent.** If that is the one that
would be built, then the command comes out as it does when nothing is remembered, and it leaves the
cache as it found it or as the look-up left it. -/
theorem run_cases {settings : Config} {files : Files} {command : Command} {cache : Fact.Cache}
    (environment : Environment) (explicit : Option String) (working : command ≠ .config)
    (current : ∀ agent, loadAgent? files command.agentPath? = .ok agent →
      (registryFor settings agent cache).1 = builtFor agent) (other : Fact.Cache) :
    (run settings files environment explicit command cache).1 =
        (run (forgetting settings) files environment explicit command other).1 ∧
      ((run settings files environment explicit command cache).2 = cache ∨
        ∃ agent, loadAgent? files command.agentPath? = .ok agent ∧
          (run settings files environment explicit command cache).2 =
            (registryFor settings agent cache).2) := by
  have hfound : ∀ agent, loadAgent? files command.agentPath? = .ok agent →
      ∃ left, registryFor settings agent cache = (builtFor agent, left) :=
    fun agent hload => ⟨_, Prod.ext (current agent hload) rfl⟩
  cases command with
  | facts path asJson =>
    rw [run, run, work, work, listFacts, listFacts]
    cases hload : loadAgent? files path with
    | error trouble => exact ⟨rfl, .inl rfl⟩
    | ok agent =>
      obtain ⟨left, hleft⟩ := hfound agent hload
      simp only [bind, Except.bind, hleft, registryFor_forgetting]
      cases asJson <;> exact ⟨rfl, .inr ⟨agent, hload, by rw [hleft]; rfl⟩⟩
  | validateAgent path =>
    rw [run, run, work, work, checkAgent, checkAgent]
    cases hload : loadAgent files path with
    | error trouble => exact ⟨rfl, .inl rfl⟩
    | ok agent =>
      obtain ⟨left, hleft⟩ := hfound _ (loadAgent?_some hload)
      simp only [bind, Except.bind, hleft, registryFor_forgetting]
      exact ⟨rfl, .inr ⟨_, loadAgent?_some hload, by rw [hleft]; rfl⟩⟩
  | validateGuard guard factsFrom =>
    rw [run, run, work, work, checkGuard, checkGuard]
    cases hload : loadAgent? files factsFrom with
    | error trouble => exact ⟨rfl, .inl rfl⟩
    | ok agent =>
      obtain ⟨left, hleft⟩ := hfound agent hload
      cases readJson files guard with
      | error trouble => exact ⟨rfl, .inl rfl⟩
      | ok node =>
        have hvalidator : (forgetting settings).validator = settings.validator := rfl
        simp only [bind, Except.bind, hleft, registryFor_forgetting, hvalidator]
        cases (settings.validator.validateStored (builtFor agent) Guard.rootPath (some node)).valid <;>
          exact ⟨rfl, .inr ⟨agent, hload, by rw [hleft]; rfl⟩⟩
  | translate guard path =>
    rw [run, run, work, work, previewGuard, previewGuard]
    cases hload : loadAgent? files path with
    | error trouble => exact ⟨rfl, .inl rfl⟩
    | ok agent =>
      obtain ⟨left, hleft⟩ := hfound agent hload
      cases readJson files guard with
      | error trouble => exact ⟨rfl, .inl rfl⟩
      | ok node =>
        simp only [bind, Except.bind, hleft, registryFor_forgetting]
        exact ⟨rfl, .inr ⟨agent, hload, by rw [hleft]; rfl⟩⟩
  | evaluate path state conversation =>
    rw [run, run, work, work, decidePriorities, decidePriorities]
    cases hload : loadAgent files path with
    | error trouble => exact ⟨rfl, .inl rfl⟩
    | ok agent =>
      obtain ⟨left, hleft⟩ := hfound _ (loadAgent?_some hload)
      cases loadState files state with
      | error trouble => exact ⟨rfl, .inl rfl⟩
      | ok held =>
        simp only [bind, Except.bind, hleft, registryFor_forgetting]
        exact ⟨rfl, .inr ⟨_, loadAgent?_some hload, by rw [hleft]; rfl⟩⟩
  | config => exact absurd rfl working

/-! ## Several commands -/

/-- A command as a process runs it: settings, files and environment may be others each time. -/
structure Job where
  settings : Config
  files : Files
  environment : Environment
  explicit : Option String
  command : Command

namespace Job

/-- Runs a job on what is remembered. -/
def run (job : Job) (cache : Fact.Cache) : Outcome × Fact.Cache :=
  job.command.run job.settings job.files job.environment job.explicit cache

/-- A job in which registries are not remembered. -/
def forgetting (job : Job) : Job := { job with settings := Command.forgetting job.settings }

/-- The lists of definitions of the agents that jobs work on. -/
def loaded (jobs : List Job) : Set (List Fact.Definition) :=
  {definitions | ∃ job ∈ jobs, ∃ agent,
    loadAgent? job.files job.command.agentPath? = .ok (some agent) ∧ agent.definitions = definitions}

/-- Runs jobs one after the other, each on what the earlier ones have left to be remembered. -/
def outcomes : List Job → Fact.Cache → List Outcome
  | [], _ => []
  | job :: rest, cache => (job.run cache).1 :: outcomes rest (job.run cache).2

end Job

section

variable {cache : Fact.Cache} {lists : Set (List Fact.Definition)}

/-- **With a cache, the registry is the one that would be built**, and the cache stays as good as it
was. -/
theorem registryFor_of_builtFrom (settings : Config) (agent : Option Agent)
    (h : cache.BuiltFrom lists) (hmem : ∀ found, agent = some found → found.definitions ∈ lists)
    (distinct : Set.InjOn cache.digest (Fact.written '' lists)) :
    (registryFor settings agent cache).1 = builtFor agent ∧
      (registryFor settings agent cache).2.BuiltFrom lists ∧
      (registryFor settings agent cache).2.digest = cache.digest := by
  cases agent with
  | none => exact ⟨rfl, h, rfl⟩
  | some agent =>
    rw [registryFor]
    split
    · exact ⟨h.registry_getOrBuild (hmem agent rfl) distinct, h.getOrBuild (hmem agent rfl),
        Fact.Cache.digest_getOrBuild⟩
    · exact ⟨rfl, h, rfl⟩

/-- One job on registries that were built from lists without a shared digest. -/
theorem Job.run_of_builtFrom {job : Job} (working : job.command ≠ .config)
    (h : cache.BuiltFrom lists) (hloaded : loaded [job] ⊆ lists)
    (distinct : Set.InjOn cache.digest (Fact.written '' lists)) (other : Fact.Cache) :
    (job.run cache).1 = (job.forgetting.run other).1 ∧ (job.run cache).2.BuiltFrom lists ∧
      (job.run cache).2.digest = cache.digest := by
  have hmem : ∀ agent, loadAgent? job.files job.command.agentPath? = .ok agent →
      ∀ found, agent = some found → found.definitions ∈ lists := by
    rintro agent hload found rfl
    exact hloaded ⟨job, List.mem_singleton_self job, found, hload, rfl⟩
  have hregistry := fun agent hload =>
    registryFor_of_builtFrom job.settings agent h (hmem agent hload) distinct
  obtain ⟨houtcome, hcache⟩ :=
    run_cases job.environment job.explicit working (fun agent hload => (hregistry agent hload).1)
      other
  refine ⟨houtcome, ?_⟩
  obtain hcache | ⟨agent, hload, hcache⟩ := hcache
  · rw [run, hcache]
    exact ⟨h, rfl⟩
  · rw [run, hcache]
    exact (hregistry agent hload).2

/-- **Every command of a session comes out as it does when nothing is remembered.** -/
theorem outcomes_eq_map {jobs : List Job} (working : ∀ job ∈ jobs, job.command ≠ .config)
    (h : cache.BuiltFrom lists) (hloaded : Job.loaded jobs ⊆ lists)
    (distinct : Set.InjOn cache.digest (Fact.written '' lists)) (other : Fact.Cache) :
    Job.outcomes jobs cache = jobs.map fun job => (job.forgetting.run other).1 := by
  induction jobs generalizing cache with
  | nil => rfl
  | cons job rest ih =>
    obtain ⟨hjob, hrest⟩ := List.forall_mem_cons.mp working
    have hfirst : Job.loaded [job] ⊆ lists := fun definitions hmem => by
      obtain ⟨_, hone, hagent⟩ := hmem
      obtain rfl := List.mem_singleton.mp hone
      exact hloaded ⟨_, List.mem_cons_self, hagent⟩
    have hmore : Job.loaded rest ⊆ lists := fun definitions hmem => by
      obtain ⟨later, hlater, hagent⟩ := hmem
      exact hloaded ⟨later, List.mem_cons_of_mem job hlater, hagent⟩
    obtain ⟨houtcome, hbuilt, hdigest⟩ := Job.run_of_builtFrom hjob h hfirst distinct other
    rw [Job.outcomes, List.map_cons, houtcome, ih hrest hbuilt hmore (hdigest ▸ distinct)]

/-- **Remembering registries does not show**, as long as no two lists of definitions share a digest:
after any calls a lookup answers with the registry that would be built, and commands on any agents
come out, one after the other, as they do when nothing is remembered. -/
theorem remembering_does_not_show (digest : String → String) :
    (∀ (history : List Fact.Cache.Call) (agent : String) (definitions : List Fact.Definition),
      Set.InjOn digest (Fact.written '' insert definitions (Fact.Cache.asked history)) →
      (((Fact.Cache.new digest).after history).getOrBuild agent definitions).1.registry =
        .ofDefinitions definitions) ∧
    (∀ jobs : List Job, (∀ job ∈ jobs, job.command ≠ .config) →
      Set.InjOn digest (Fact.written '' Job.loaded jobs) →
      ∀ other, Job.outcomes jobs (.new digest) = jobs.map fun job => (job.forgetting.run other).1) := by
  constructor
  · intro history agent definitions distinct
    have hnew := Fact.Cache.builtFrom_new digest (insert definitions (Fact.Cache.asked history))
    have hbuilt := hnew.after (Set.subset_insert definitions _)
    refine hbuilt.registry_getOrBuild (Set.mem_insert definitions _) ?_
    rwa [Fact.Cache.digest_after]
  · intro jobs working distinct other
    exact outcomes_eq_map working (Fact.Cache.builtFrom_new digest _) subset_rfl distinct other

end

/-! ## Two agents of one id -/

/-- One fact, about a lead field. -/
def tierDefinitions (derivation : Fact.Derivation) : List Fact.Definition :=
  [{ name := "vip", derivation, field := some "tier" }]

/-- Files with two agents of one id, in list form; they define the fact in opposite ways. -/
def namesakeFiles : Files := .ofTexts
  [("first.json", "[\"a\",\"A\",[[[\"vip\",\"exists\",\"tier\"]]]]"),
    ("second.json", "[\"a\",\"A\",[[[\"vip\",\"not_exists\",\"tier\"]]]]")]

/-- Commands on the two agents in turn. -/
def namesakeJobs : List Job :=
  [.facts (some "first.json") true, .validateAgent "second.json", .facts (some "first.json") false].map
    fun command => ⟨{}, namesakeFiles, .ofTexts [], none, command⟩

/-- A table with the BLAKE3 digests of the two definitions as text. -/
def tierDigest (text : String) : String :=
  if text = "[\x7b\"name\":\"vip\",\"type\":\"exists\",\"field\":\"tier\"\x7d]" then
    "b1510b799bdc7b353eb04681593eac1605cbf6469dbac3fa67cf340ffeb803dc"
  else if text = "[\x7b\"name\":\"vip\",\"type\":\"not_exists\",\"field\":\"tier\"\x7d]" then
    "2efdfaccd9ef62575b3c1fcb7009dba903298b93530356956d959a47562600ea"
  else ""

/-- The digests tell the two lists apart. -/
theorem tierDigest_injOn :
    Set.InjOn tierDigest (Fact.written '' {tierDefinitions .present, tierDefinitions .notPresent}) := by
  have hfirst : Fact.written (tierDefinitions .present) =
      "[\x7b\"name\":\"vip\",\"type\":\"exists\",\"field\":\"tier\"\x7d]" := by decide +kernel
  have hsecond : Fact.written (tierDefinitions .notPresent) =
      "[\x7b\"name\":\"vip\",\"type\":\"not_exists\",\"field\":\"tier\"\x7d]" := by decide +kernel
  rw [Set.image_pair, hfirst, hsecond]
  rintro _ (rfl | rfl) _ (rfl | rfl) h
  · rfl
  · exact absurd h (by simp [tierDigest])
  · exact absurd h (by simp [tierDigest])
  · rfl

/-- The agent that defines the fact in the given way. -/
def namesake (derivation : Fact.Derivation) : Agent where
  id := "a"
  name := "A"
  orchestration := { definitions := tierDefinitions derivation }

/-- Whether an agent is that one. -/
def isNamesake (derivation : Fact.Derivation) : Agent → Bool
  | ⟨"a", "A", [⟨"vip", kind, some "tier", [], none, none, []⟩], []⟩ => kind = derivation
  | _ => false

theorem eq_namesake {derivation : Fact.Derivation} {agent : Agent}
    (h : isNamesake derivation agent = true) : agent = namesake derivation := by
  unfold isNamesake at h
  split at h
  · obtain rfl := of_decide_eq_true h
    rfl
  · cases h

/-- The first file holds the agent whose fact is present. -/
theorem loadAgent_first : loadAgent namesakeFiles "first.json" = .ok (namesake .present) :=
  eq_ok_of_check (isNamesake _) (fun _ => eq_namesake) (by decide +kernel)

theorem loadAgent_second : loadAgent namesakeFiles "second.json" = .ok (namesake .notPresent) :=
  eq_ok_of_check (isNamesake _) (fun _ => eq_namesake) (by decide +kernel)

theorem loaded_namesakeJobs :
    Job.loaded namesakeJobs ⊆ {tierDefinitions .present, tierDefinitions .notPresent} := by
  rintro _ ⟨job, hjob, agent, hagent, rfl⟩
  simp only [namesakeJobs, List.map_cons, List.map_nil, List.mem_cons, List.not_mem_nil,
    or_false] at hjob
  obtain rfl | rfl | rfl := hjob
  · cases (loadAgent?_some loadAgent_first).symm.trans hagent
    exact .inl rfl
  · cases (loadAgent?_some loadAgent_second).symm.trans hagent
    exact .inr rfl
  · cases (loadAgent?_some loadAgent_first).symm.trans hagent
    exact .inl rfl

/-- Agents of one name take turns in the cache, and every job ends as it would alone. -/
theorem remembering_does_not_show_namesakes :
    (((Fact.Cache.new tierDigest).after [.getOrBuild "a" (tierDefinitions .present), .invalidate "b",
        .getOrBuild "a" (tierDefinitions .notPresent)]).getOrBuild "a"
          (tierDefinitions .present)).1.registry = .ofDefinitions (tierDefinitions .present) ∧
    Job.outcomes namesakeJobs (.new tierDigest) =
      namesakeJobs.map fun job => (job.forgetting.run .empty).1 := by
  obtain ⟨hlookup, hjobs⟩ := remembering_does_not_show tierDigest
  have hasked : insert (tierDefinitions .present) (Fact.Cache.asked
      [.getOrBuild "a" (tierDefinitions .present), .invalidate "b",
        .getOrBuild "a" (tierDefinitions .notPresent)]) ⊆
      {tierDefinitions .present, tierDefinitions .notPresent} := by
    rintro definitions (rfl | ⟨agent, hcall⟩)
    · exact .inl rfl
    · simp only [List.mem_cons, Fact.Cache.Call.getOrBuild.injEq, reduceCtorEq, List.not_mem_nil,
        or_false, false_or] at hcall
      exact hcall.imp And.right And.right
  refine ⟨hlookup _ _ _ (tierDigest_injOn.mono (Set.image_mono hasked)),
    hjobs _ ?_ (tierDigest_injOn.mono (Set.image_mono loaded_namesakeJobs)) _⟩
  simp [namesakeJobs]

end FactGuard.Command
