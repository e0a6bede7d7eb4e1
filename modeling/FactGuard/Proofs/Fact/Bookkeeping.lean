import Mathlib.Data.List.Induction
import Mathlib.Data.Set.Card
import FactGuard.Proofs.Command.Session

/-!
# Proofs/Fact/Bookkeeping — what a cache shows of its history

A cache keeps a fingerprint for each agent it remembers, and two counts. The fingerprints are those of
the definitions that live agents were last looked up with (`recalls_after`), so what a cache answers and
how it counts can be told from the calls so far, and from those about an agent alone
(`bookkeeping_follows_history`).
-/

namespace FactGuard.Fact.Cache

/-! ## Histories -/

/-- Whether a call has to do with an agent. -/
def Call.concerns (agent : String) : Call → Bool
  | .getOrBuild other _ => other = agent
  | .invalidate other => other = agent
  | .clear => true

/-- Whether a call is a look-up. -/
def Call.isLookup : Call → Bool
  | .getOrBuild _ _ => true
  | _ => false

/-- The definitions of a look-up. -/
def Call.definitions? : Call → Option (List Definition)
  | .getOrBuild _ definitions => some definitions
  | _ => none

/-- The last call that has to do with an agent. -/
def latest? (history : List Call) (agent : String) : Option Call :=
  history.reverse.find? (Call.concerns agent)

/-- An agent is live as long as the last call that has to do with it is a look-up. -/
def Live (history : List Call) (agent : String) : Prop :=
  ∃ definitions, latest? history agent = some (.getOrBuild agent definitions)

/-- A look-up repeats the last one of its agent: the agent is live, and its definitions are the same
text. -/
def Repeats (history : List Call) (agent : String) (definitions : List Definition) : Prop :=
  ∃ earlier, latest? history agent = some (.getOrBuild agent earlier) ∧
    written earlier = written definitions

/-- The definitions that an agent was last looked up with, if it is live. -/
def lastDefinitions? (history : List Call) (agent : String) : Option (List Definition) :=
  (latest? history agent).bind Call.definitions?

section

variable {history before later : List Call} {call : Call} {agent : String}
  {definitions : List Definition}

/-- The last call that concerns an agent is the newest one, unless that is about another agent. -/
theorem latest?_concat (history : List Call) (call : Call) (agent : String) :
    latest? (history ++ [call]) agent =
      if call.concerns agent then some call else latest? history agent := by
  rw [latest?, List.reverse_append, List.reverse_singleton, List.singleton_append, List.find?_cons]
  cases call.concerns agent <;> rfl

/-- A call about another agent may be struck from the history. -/
theorem latest?_of_not_concerns (h : call.concerns agent = false) :
    latest? (before ++ call :: later) agent = latest? (before ++ later) agent := by
  simp [latest?, List.find?_append, h]

theorem lastDefinitions?_concat (history : List Call) (call : Call) (agent : String) :
    lastDefinitions? (history ++ [call]) agent =
      if call.concerns agent then call.definitions? else lastDefinitions? history agent := by
  rw [lastDefinitions?, latest?_concat]
  split <;> rfl

/-- The definitions on record are those of the last call, if that was a lookup. -/
theorem lastDefinitions?_eq_some_iff :
    lastDefinitions? history agent = some definitions ↔
      latest? history agent = some (.getOrBuild agent definitions) := by
  rw [lastDefinitions?, Option.bind_eq_some_iff]
  constructor
  · rintro ⟨_ | _ | _, hlatest, ⟨⟩⟩
    have hconcerns : Call.concerns agent _ = true := List.find?_some hlatest
    obtain rfl := of_decide_eq_true hconcerns
    exact hlatest
  · intro hlatest
    exact ⟨_, hlatest, rfl⟩

theorem live_iff : Live history agent ↔ (lastDefinitions? history agent).isSome := by
  simp only [Live, Option.isSome_iff_exists, lastDefinitions?_eq_some_iff]

theorem mem_asked_of_latest? (h : latest? history agent = some (.getOrBuild agent definitions)) :
    definitions ∈ asked history :=
  ⟨agent, List.mem_reverse.mp (List.mem_of_find?_eq_some h)⟩

end

/-! ## What a cache recalls -/

/-- **What is remembered of an agent is the fingerprint of its last look-up**, if it is live. -/
def Recalls (cache : Cache) (history : List Call) : Prop :=
  ∀ agent, cache.entries[agent]?.map Entry.fingerprint =
    (lastDefinitions? history agent).map cache.fingerprint

section

variable {cache : Cache} {history : List Call} {agent : String} {definitions : List Definition}

theorem recalls_new (digest : String → String) : (new digest).Recalls [] := by
  intro agent
  simp [new, lastDefinitions?, latest?]

theorem fingerprint_step (call : Call) : (cache.step call).fingerprint = cache.fingerprint := by
  funext definitions
  rw [fingerprint, digest_step, fingerprint]

/-- Each call leaves behind what it says of the agents that it has to do with. -/
theorem Recalls.step (h : cache.Recalls history) (call : Call) :
    (cache.step call).Recalls (history ++ [call]) := by
  intro agent
  rw [lastDefinitions?_concat, fingerprint_step]
  cases call with
  | getOrBuild other definitions =>
    obtain ⟨entry, hentry, hprint, hcall⟩ | ⟨-, entry, hprint, -, hcall⟩ :=
      cache.getOrBuild_cases other definitions
    · -- On a hit the entry stays, but it now stands for the definitions of this call.
      rw [Cache.step, hcall]
      by_cases hsame : other = agent
      · subst hsame
        simp [Call.concerns, Call.definitions?, hentry, hprint]
      · simp [Call.concerns, hsame, h agent]
    · rw [Cache.step, hcall]
      by_cases hsame : other = agent
      · subst hsame
        simp [Call.concerns, Call.definitions?, hprint]
      · simp [Call.concerns, Std.ExtTreeMap.getElem?_insert, hsame, h agent]
  | invalidate other =>
    rw [Cache.step, Cache.invalidate, Std.ExtTreeMap.getElem?_erase]
    by_cases hsame : other = agent
    · simp [Call.concerns, Call.definitions?, hsame]
    · simp [Call.concerns, hsame, h agent]
  | clear => simp [Cache.step, clear, Call.concerns, Call.definitions?]

theorem after_concat (cache : Cache) (history : List Call) (call : Call) :
    cache.after (history ++ [call]) = (cache.after history).step call :=
  List.foldl_concat _ _ _ _

/-- **A cache recalls its history.** -/
theorem recalls_after (digest : String → String) (history : List Call) :
    ((new digest).after history).Recalls history := by
  induction history using List.reverseRecOn with
  | nil => exact recalls_new digest
  | append_singleton history call ih =>
    rw [after_concat]
    exact ih.step call

/-- The cache has an entry for the agents that are live, and for no others. -/
theorem Recalls.mem_iff_live (h : cache.Recalls history) : agent ∈ cache.entries ↔ Live history agent := by
  rw [Std.ExtTreeMap.mem_iff_isSome_getElem?, live_iff, ← Option.isSome_map, h agent,
    Option.isSome_map]

/-- Invalidating tells whether the agent was live. -/
theorem Recalls.invalidate_iff_live (h : cache.Recalls history) :
    (cache.invalidate agent).1 = true ↔ Live history agent := by
  rw [Cache.invalidate, Std.ExtTreeMap.contains_iff_mem, h.mem_iff_live]

/-- The size of the cache is the number of live agents. -/
theorem Recalls.size_eq_encard (h : cache.Recalls history) :
    (cache.size : ℕ∞) = Set.encard {agent | Live history agent} := by
  have hlive : {agent | Live history agent} = (cache.entries.keys.toFinset : Set String) := by
    ext agent
    simp [h.mem_iff_live]
  have hnodup : cache.entries.keys.Nodup := cache.entries.distinct_keys.imp (by simp)
  rw [hlive, Set.encard_coe_eq_coe_finsetCard, List.toFinset_card_of_nodup hnodup,
    Std.ExtTreeMap.length_keys, size]

/-! ## What is counted -/

/-- A look-up is counted as a hit. -/
def CountsHit (cache : Cache) (agent : String) (definitions : List Definition) : Prop :=
  (cache.getOrBuild agent definitions).2.hits = cache.hits + 1 ∧
    (cache.getOrBuild agent definitions).2.misses = cache.misses

/-- A look-up is counted as a miss. -/
def CountsMiss (cache : Cache) (agent : String) (definitions : List Definition) : Prop :=
  (cache.getOrBuild agent definitions).2.hits = cache.hits ∧
    (cache.getOrBuild agent definitions).2.misses = cache.misses + 1

/-- A lookup is a hit exactly if the entry has the fingerprint of the definitions asked for. -/
theorem counts_iff (cache : Cache) (agent : String) (definitions : List Definition) :
    (cache.CountsHit agent definitions ↔
      cache.entries[agent]?.map Entry.fingerprint = some (cache.fingerprint definitions)) ∧
    (cache.CountsMiss agent definitions ↔
      cache.entries[agent]?.map Entry.fingerprint ≠ some (cache.fingerprint definitions)) := by
  rw [CountsHit, CountsMiss]
  obtain ⟨entry, hentry, hprint, hcall⟩ | ⟨hother, entry, -, -, hcall⟩ :=
    cache.getOrBuild_cases agent definitions
  · simp [hcall, hentry, hprint]
  · have hne : cache.entries[agent]?.map Entry.fingerprint ≠ some (cache.fingerprint definitions) := by
      intro h
      obtain ⟨found, hfound, hprint⟩ := Option.map_eq_some_iff.mp h
      exact hother found hfound hprint
    simp [hcall, hne]

/-- Without a shared digest, a look-up is a hit exactly if it repeats the last one of its agent. -/
theorem Recalls.counts_iff_repeats (h : cache.Recalls history)
    (distinct : Set.InjOn cache.digest (written '' insert definitions (asked history))) :
    (cache.CountsHit agent definitions ↔ Repeats history agent definitions) ∧
      (cache.CountsMiss agent definitions ↔ ¬Repeats history agent definitions) := by
  have hrepeats : (lastDefinitions? history agent).map cache.fingerprint =
      some (cache.fingerprint definitions) ↔ Repeats history agent definitions := by
    simp only [Option.map_eq_some_iff, lastDefinitions?_eq_some_iff, Repeats]
    refine exists_congr fun earlier => and_congr_right fun hlatest => ?_
    have hearlier : written earlier ∈ written '' insert definitions (asked history) :=
      ⟨earlier, .inr (mem_asked_of_latest? hlatest), rfl⟩
    exact distinct.eq_iff hearlier ⟨definitions, .inl rfl, rfl⟩
  obtain ⟨hhit, hmiss⟩ := cache.counts_iff agent definitions
  rw [hhit, hmiss, h agent, Ne, hrepeats]
  exact ⟨Iff.rfl, Iff.rfl⟩

/-- Only lookups are counted. -/
theorem counts_of_not_isLookup {call : Call} (h : call.isLookup = false) :
    (cache.step call).hits = cache.hits ∧ (cache.step call).misses = cache.misses := by
  cases call with
  | getOrBuild => cases h
  | invalidate => exact ⟨rfl, rfl⟩
  | clear => exact ⟨rfl, rfl⟩

/-- Every lookup is counted once, as a hit or as a miss. -/
theorem hits_add_misses_step (cache : Cache) (call : Call) :
    (cache.step call).hits + (cache.step call).misses =
      cache.hits + cache.misses + [call].countP Call.isLookup := by
  cases call with
  | getOrBuild agent definitions =>
    obtain ⟨entry, -, -, hcall⟩ | ⟨-, entry, -, -, hcall⟩ := cache.getOrBuild_cases agent definitions
    · simp only [Cache.step, hcall, Call.isLookup, List.countP_singleton, if_pos]
      omega
    · simp only [Cache.step, hcall, Call.isLookup, List.countP_singleton, if_pos]
      omega
  | invalidate => rfl
  | clear => rfl

/-- Every look-up is counted once. -/
theorem hits_add_misses_after (cache : Cache) (history : List Call) :
    (cache.after history).hits + (cache.after history).misses =
      cache.hits + cache.misses + history.countP Call.isLookup := by
  induction history using List.reverseRecOn with
  | nil => rfl
  | append_singleton history call ih =>
    rw [after_concat, hits_add_misses_step, ih, List.countP_append, Nat.add_assoc]

end

/-- **The books of a cache follow its history.** Every look-up is counted once: as a hit if it repeats
the last one of an agent that is live, as long as no two lists of definitions share a digest, and else
as a miss; nothing else is counted. There are as many entries as live agents, and those are the agents
that can be forgotten. What is remembered of an agent, and how its look-ups count, does not depend on
calls that have nothing to do with it. -/
theorem bookkeeping_follows_history (digest : String → String) :
    (∀ history : List Call,
      let cache := (new digest).after history
      cache.hits + cache.misses = history.countP Call.isLookup ∧
      (cache.size : ℕ∞) = Set.encard {agent | Live history agent} ∧
      (∀ agent, (cache.invalidate agent).1 = true ↔ Live history agent) ∧
      (∀ agent definitions, Set.InjOn digest (written '' insert definitions (asked history)) →
        (cache.CountsHit agent definitions ↔ Repeats history agent definitions) ∧
          (cache.CountsMiss agent definitions ↔ ¬Repeats history agent definitions)) ∧
      ∀ call : Call, call.isLookup = false →
        (cache.step call).hits = cache.hits ∧ (cache.step call).misses = cache.misses) ∧
    ∀ (before later : List Call) (call : Call) (agent : String), call.concerns agent = false →
      let cache := (new digest).after (before ++ call :: later)
      let other := (new digest).after (before ++ later)
      (Live (before ++ call :: later) agent ↔ Live (before ++ later) agent) ∧
      (cache.invalidate agent).1 = (other.invalidate agent).1 ∧
      ∀ definitions, (cache.CountsHit agent definitions ↔ other.CountsHit agent definitions) ∧
        (cache.CountsMiss agent definitions ↔ other.CountsMiss agent definitions) := by
  constructor
  · intro history cache
    have hrecalls : cache.Recalls history := recalls_after digest history
    refine ⟨?_, hrecalls.size_eq_encard, fun agent => hrecalls.invalidate_iff_live, ?_, ?_⟩
    · exact (hits_add_misses_after (new digest) history).trans (Nat.zero_add _)
    · intro agent definitions distinct
      exact hrecalls.counts_iff_repeats (by rwa [digest_after])
    · intro call hcall
      exact counts_of_not_isLookup hcall
  · intro before later call agent hcall cache other
    have hcache : cache.Recalls (before ++ call :: later) := recalls_after digest _
    have hother : other.Recalls (before ++ later) := recalls_after digest _
    have hlast : lastDefinitions? (before ++ call :: later) agent =
        lastDefinitions? (before ++ later) agent :=
      congrArg (Option.bind · Call.definitions?) (latest?_of_not_concerns hcall)
    have hprint : cache.fingerprint = other.fingerprint := by
      funext definitions
      rw [fingerprint, fingerprint, digest_after, digest_after]
    have hlive : Live (before ++ call :: later) agent ↔ Live (before ++ later) agent := by
      rw [live_iff, live_iff, hlast]
    refine ⟨hlive, ?_, fun definitions => ?_⟩
    · rw [Bool.eq_iff_iff, hcache.invalidate_iff_live, hother.invalidate_iff_live, hlive]
    · obtain ⟨hhit, hmiss⟩ := cache.counts_iff agent definitions
      obtain ⟨hhit', hmiss'⟩ := other.counts_iff agent definitions
      rw [hhit, hmiss, hhit', hmiss', hcache agent, hother agent, hlast, hprint]
      exact ⟨Iff.rfl, Iff.rfl⟩

/-! ## An agent that is looked up again -/

open Command (tierDefinitions tierDigest tierDigest_injOn)

/-- Two agents are looked up, one of them is edited and the other one forgotten. -/
def editedHistory : List Call :=
  [.getOrBuild "a" (tierDefinitions .present), .getOrBuild "b" (tierDefinitions .present),
    .getOrBuild "a" (tierDefinitions .notPresent), .invalidate "b"]

/-- The history of the example asks for the two lists only. -/
theorem asked_editedHistory (derivation : Derivation)
    (h : derivation = .present ∨ derivation = .notPresent) :
    insert (tierDefinitions derivation) (asked editedHistory) ⊆
      {tierDefinitions .present, tierDefinitions .notPresent} := by
  rintro definitions (rfl | ⟨agent, hcall⟩)
  · exact h.imp (congrArg tierDefinitions) (congrArg tierDefinitions)
  · simp only [editedHistory, List.mem_cons, Call.getOrBuild.injEq, reduceCtorEq, List.not_mem_nil,
      or_false] at hcall
    obtain ⟨-, rfl⟩ | ⟨-, rfl⟩ | ⟨-, rfl⟩ := hcall
    · exact .inl rfl
    · exact .inl rfl
    · exact .inr rfl

/-- The edited agent is found with its new definitions only, and the forgotten one not at all. -/
theorem bookkeeping_follows_history_edited :
    let cache := (new tierDigest).after editedHistory
    cache.CountsHit "a" (tierDefinitions .notPresent) ∧
      cache.CountsMiss "a" (tierDefinitions .present) ∧
      cache.CountsMiss "b" (tierDefinitions .present) := by
  intro cache
  obtain ⟨-, -, -, hcounts, -⟩ := (bookkeeping_follows_history tierDigest).1 editedHistory
  have hdistinct : ∀ derivation, derivation = .present ∨ derivation = .notPresent →
      Set.InjOn tierDigest (written '' insert (tierDefinitions derivation) (asked editedHistory)) :=
    fun derivation h => tierDigest_injOn.mono (Set.image_mono (asked_editedHistory derivation h))
  refine ⟨?_, ?_, ?_⟩
  · exact (hcounts "a" _ (hdistinct _ (.inr rfl))).1.mpr ⟨_, rfl, rfl⟩
  · refine (hcounts "a" _ (hdistinct _ (.inl rfl))).2.mpr ?_
    rintro ⟨earlier, hlatest, hwritten⟩
    cases hlatest
    exact absurd hwritten (by decide)
  · refine (hcounts "b" _ (hdistinct _ (.inl rfl))).2.mpr ?_
    rintro ⟨earlier, hlatest, -⟩
    cases hlatest

end FactGuard.Fact.Cache
