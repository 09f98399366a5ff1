import Tollgate.Proofs.Keyed
import Tollgate.Proofs.Monitor.Cycle

/-!
# The order of a cycle

All probes of a cycle are on their way at once. They complete in any order, and the probes of a
service are reported at some time after the last of them has completed. A `Monitor.Round` is a cycle
on its way, and a schedule is a list of steps. Before a service is reported one sees of it what the
cycle met, and afterwards what the report of its probes makes of that (`Monitor.Stands`), whatever
happens to the other services. So any two complete schedules end alike, for any order in which the
services are taken, and they end as the cycle does that probes and reports the services one by one
(`Monitor.viewOf_run`).

## Main results

* `Monitor.Stands.step`: what one sees of a service in a round, after one more step.
* `Monitor.viewOf_run`: how complete schedules end.
* `Registry.services_isolated`: services do not see each other, neither in calls nor in cycles.

## Conventions

* Which time is read off the clock for a report is told by its service (`doneAt`), so that schedules
  can be compared.
* Registries are compared by all that they show of each service. The order in which they list the
  services, and in which the measurements of different services come, is no part of this.
-/

namespace Tollgate

namespace Monitor

/-! ### Rounds -/

/-- The probe of one instance, as far as it has come. -/
structure Slot where
  url : String
  probe? : Option Probe := none

namespace Slot

/-- The probe is complete. -/
def complete (timeout : Duration) (backend : Backend) (slot : Slot) : Slot :=
  { slot with probe? := some (Probe.run backend timeout slot.url) }

end Slot

/-- The probes of a service after one of them has completed. -/
def completed (timeout : Duration) (backend : Backend) (index : Nat) (slots : List Slot) :
    List Slot :=
  slots.mapIdx fun i slot => if i = index then slot.complete timeout backend else slot

/-- The probes, if they are all complete. -/
def gathered? (slots : List Slot) : Option (List Probe) :=
  if slots.all fun slot => slot.probe?.isSome then some (slots.filterMap Slot.probe?) else none

/-- A cycle on its way: the registry, and the services that are not reported yet, with the probes of
their instances. -/
structure Round where
  registry : Registry
  tasks : List (String × List Slot)

/-- What can happen next in a cycle. -/
inductive Step where
  /-- The probe of an instance of a service completes. -/
  | probed (service : String) (index : Nat)
  /-- The probes of a service are reported, if they are all complete. -/
  | reported (service : String)
deriving DecidableEq, Repr

namespace Round

/-- The cycle has begun: all probes are on their way. -/
def launch (r : Registry) : Round where
  registry := r
  tasks := r.services.map fun e => (e.name, e.instances.map fun i => ⟨i.healthUrl, none⟩)

/-- One step. A report without all its probes, or a second one, does nothing. -/
def step (doneAt : String → Timestamp) (timeout : Duration) (backend : Backend) (round : Round) :
    Step → Round
  | .probed service index =>
    { round with tasks := Keyed.modify service (completed timeout backend index) round.tasks }
  | .reported service =>
    match (Keyed.get? service round.tasks).bind gathered? with
    | none => round
    | some probes =>
      { registry := report doneAt round.registry (service, probes)
        tasks := Keyed.erase service round.tasks }

/-- All steps in turn. -/
def run (doneAt : String → Timestamp) (timeout : Duration) (backend : Backend) (round : Round)
    (steps : List Step) : Round :=
  steps.foldl (step doneAt timeout backend) round

end Round

/-! ### One step -/

section

variable {doneAt : String → Timestamp} {timeout : Duration} {backend : Backend} {r : Registry}
  {e : Endpoint} {round : Round}

/-- **What a step does as seen from one service.** -/
inductive Effect (doneAt : String → Timestamp) (timeout : Duration) (backend : Backend)
    (round round' : Round) (name : String) (step : Step) : Prop where
  /-- It is about another service, which has no effect on this one. -/
  | elsewhere (other : ∀ index, step ≠ .probed name index ∧ step ≠ .reported name)
      (task : Keyed.get? name round'.tasks = Keyed.get? name round.tasks)
      (view : round'.registry.viewOf name = round.registry.viewOf name)
  /-- There is nothing to be done for the service. -/
  | idle (task : Keyed.get? name round.tasks = none) (same : Keyed.get? name round'.tasks = none)
      (view : round'.registry.viewOf name = round.registry.viewOf name)
  /-- A probe of the service completes. -/
  | probed (index : Nat) (slots : List Slot) (isStep : step = .probed name index)
      (task : Keyed.get? name round.tasks = some slots)
      (next : Keyed.get? name round'.tasks = some (completed timeout backend index slots))
      (view : round'.registry.viewOf name = round.registry.viewOf name)
  /-- A report comes too early. -/
  | early (slots : List Slot) (isStep : step = .reported name)
      (task : Keyed.get? name round.tasks = some slots) (missing : gathered? slots = none)
      (same : round' = round)
  /-- The service is reported. -/
  | reported (slots : List Slot) (probes : List Probe) (isStep : step = .reported name)
      (task : Keyed.get? name round.tasks = some slots) (gathered : gathered? slots = some probes)
      (next : Keyed.get? name round'.tasks = none)
      (view : round'.registry.viewOf name
        = (report doneAt round.registry (name, probes)).viewOf name)

/-- **A step has one of the effects.** -/
theorem effect_step (doneAt : String → Timestamp) (timeout : Duration) (backend : Backend)
    (round : Round) (name : String) (step : Step) :
    Effect doneAt timeout backend round (round.step doneAt timeout backend step) name step := by
  cases step with
  | probed service index =>
      by_cases hservice : service = name
      · subst hservice
        have hnext := Keyed.get?_modify_self service (completed timeout backend index) round.tasks
        rcases htask : Keyed.get? service round.tasks with _ | slots
        · rw [htask, Option.map_none] at hnext
          exact .idle htask hnext rfl
        · rw [htask, Option.map_some] at hnext
          exact .probed index slots rfl htask hnext rfl
      · exact .elsewhere (fun _ => ⟨fun h => hservice (Step.probed.inj h).1, Step.noConfusion⟩)
          (Keyed.get?_modify_of_ne (Ne.symm hservice) _ _) rfl
  | reported service =>
      rw [Round.step]
      by_cases hservice : service = name
      · subst hservice
        rcases htask : Keyed.get? service round.tasks with _ | slots
        · exact .idle htask htask rfl
        · rw [Option.bind_some]
          rcases hprobes : gathered? slots with _ | probes
          · exact .early slots rfl htask hprobes rfl
          · exact .reported slots probes rfl htask hprobes (Keyed.get?_erase_self ..) rfl
      · have hother : ∀ index, Step.reported service ≠ .probed name index ∧
            Step.reported service ≠ .reported name :=
          fun _ => ⟨Step.noConfusion, fun h => hservice (Step.reported.inj h)⟩
        rcases (Keyed.get? service round.tasks).bind gathered? with _ | probes
        · exact .elsewhere hother rfl rfl
        · exact .elsewhere hother (Keyed.get?_erase_of_ne (Ne.symm hservice) _)
            ((confined_report doneAt).elsewhere round.registry (service, probes) name hservice)

/-! ### What one sees of a service in a round -/

/-- The slots are those of the instances of a service, and the completed probes are what the probes
of the instances come to. -/
structure SlotsOf (timeout : Duration) (backend : Backend) (e : Endpoint) (slots : List Slot) :
    Prop where
  urls : slots.map Slot.url = e.instances.map Instance.healthUrl
  probe : ∀ slot ∈ slots, ∀ p, slot.probe? = some p → p = Probe.run backend timeout slot.url

namespace SlotsOf

variable {slots : List Slot}

/-- No probe has completed at first. -/
theorem pending (timeout : Duration) (backend : Backend) (e : Endpoint) :
    SlotsOf timeout backend e (e.instances.map fun i => ⟨i.healthUrl, none⟩) where
  urls := by
    rw [List.map_map]
    rfl
  probe := by
    intro slot hslot p hp
    obtain ⟨i, -, rfl⟩ := List.mem_map.mp hslot
    cases hp

/-- One more probe completes. -/
theorem completed (h : SlotsOf timeout backend e slots) (index : Nat) :
    SlotsOf timeout backend e (completed timeout backend index slots) where
  urls := by
    rw [← h.urls, Monitor.completed]
    refine List.ext_getElem (by simp) fun i _ _ => ?_
    rw [List.getElem_map, List.getElem_map, List.getElem_mapIdx]
    split <;> rfl
  probe := by
    intro slot hslot p hp
    obtain ⟨i, hi, rfl⟩ := List.mem_mapIdx.mp hslot
    split at hp
    · next hindex =>
        rw [if_pos hindex]
        exact (Option.some.inj hp).symm
    · next hindex =>
        rw [if_neg hindex]
        exact h.probe _ (List.getElem_mem hi) p hp

/-- **What is gathered** is what the probes of the service come to. -/
theorem gathered (h : SlotsOf timeout backend e slots) {probes : List Probe}
    (hprobes : gathered? slots = some probes) : probes = probesOf e timeout backend := by
  rw [gathered?] at hprobes
  split at hprobes
  · next hall =>
      have hrun : slots.filterMap Slot.probe?
          = slots.map fun slot => Probe.run backend timeout slot.url := by
        rw [← List.filterMap_eq_map]
        refine List.filterMap_congr fun slot hslot => ?_
        obtain ⟨p, hp⟩ := Option.isSome_iff_exists.mp (List.all_eq_true.mp hall slot hslot)
        rw [hp, h.probe slot hslot p hp]
        rfl
      have hurls := congrArg (List.map (Probe.run backend timeout)) h.urls
      rw [List.map_map, List.map_map] at hurls
      rw [← Option.some.inj hprobes, hrun]
      exact hurls
  · cases hprobes

end SlotsOf

/-- **Where a service stands in a round**: it waits for its probes, and nothing has happened to it,
or it has been told their tally. -/
inductive Stands (doneAt : String → Timestamp) (timeout : Duration) (backend : Backend) (r : Registry)
    (e : Endpoint) (round : Round) : Prop where
  | waiting (slots : List Slot) (task : Keyed.get? e.name round.tasks = some slots)
      (slotsOf : SlotsOf timeout backend e slots)
      (view : round.registry.viewOf e.name = r.viewOf e.name)
  | reported (task : Keyed.get? e.name round.tasks = none)
      (view : round.registry.viewOf e.name
        = (report doneAt r (e.name, probesOf e timeout backend)).viewOf e.name)

/-- **One step** leaves a service waiting, or has it reported. -/
theorem Stands.step (h : Stands doneAt timeout backend r e round) (step : Step) :
    Stands doneAt timeout backend r e (round.step doneAt timeout backend step) := by
  have heffect := effect_step doneAt timeout backend round e.name step
  cases h with
  | waiting slots htask hslots hview =>
      cases heffect with
      | elsewhere _ task view =>
          exact .waiting slots (task.trans htask) hslots (view.trans hview)
      | idle task => exact absurd (htask.symm.trans task) (Option.some_ne_none slots)
      | probed index slots' _ task next view =>
          obtain rfl : slots = slots' := Option.some.inj (htask.symm.trans task)
          exact .waiting _ next (hslots.completed index) (view.trans hview)
      | early slots' _ task missing same =>
          rw [same]
          exact .waiting slots htask hslots hview
      | reported slots' probes _ task gathered next view =>
          obtain rfl : slots = slots' := Option.some.inj (htask.symm.trans task)
          rw [hslots.gathered gathered] at view
          exact .reported next (view.trans ((confined_report doneAt).congr hview _))
  | reported htask hview =>
      cases heffect with
      | elsewhere _ task view => exact .reported (task.trans htask) (view.trans hview)
      | idle _ same view => exact .reported same (view.trans hview)
      | probed index slots _ task => exact absurd (task.symm.trans htask) (Option.some_ne_none slots)
      | early slots _ task => exact absurd (task.symm.trans htask) (Option.some_ne_none slots)
      | reported slots probes _ task =>
          exact absurd (task.symm.trans htask) (Option.some_ne_none slots)

/-- **Any schedule** leaves a service waiting, or has it reported. -/
theorem Stands.run (h : Stands doneAt timeout backend r e round) (steps : List Step) :
    Stands doneAt timeout backend r e (round.run doneAt timeout backend steps) := by
  induction steps generalizing round with
  | nil => exact h
  | cons step rest ih => exact ih (h.step step)

/-- Nothing is done for a service without a task. -/
theorem idle_step {name : String} (htask : Keyed.get? name round.tasks = none) (step : Step) :
    Keyed.get? name (round.step doneAt timeout backend step).tasks = none ∧
      (round.step doneAt timeout backend step).registry.viewOf name
        = round.registry.viewOf name := by
  cases effect_step doneAt timeout backend round name step with
  | elsewhere _ task view => exact ⟨task.trans htask, view⟩
  | idle _ same view => exact ⟨same, view⟩
  | probed index slots _ task => exact absurd (task.symm.trans htask) (Option.some_ne_none slots)
  | early slots _ task => exact absurd (task.symm.trans htask) (Option.some_ne_none slots)
  | reported slots probes _ task =>
      exact absurd (task.symm.trans htask) (Option.some_ne_none slots)

/-- Nothing is done for a service without a task in any schedule. -/
theorem idle_run {name : String} (htask : Keyed.get? name round.tasks = none)
    (steps : List Step) :
    Keyed.get? name (round.run doneAt timeout backend steps).tasks = none ∧
      (round.run doneAt timeout backend steps).registry.viewOf name
        = round.registry.viewOf name := by
  induction steps generalizing round with
  | nil => exact ⟨htask, rfl⟩
  | cons step rest ih =>
      obtain ⟨hnext, hview⟩ := @idle_step doneAt timeout backend round name htask step
      obtain ⟨hdone, hlater⟩ := ih hnext
      exact ⟨hdone, hlater.trans hview⟩

/-! ### Complete schedules -/

/-- A probe has completed, or its service is reported. -/
def Probed (name : String) (index : Nat) (round : Round) : Prop :=
  ∀ slots, Keyed.get? name round.tasks = some slots →
    ∀ slot, slots[index]? = some slot → slot.probe?.isSome = true

/-- What has completed stays complete. -/
theorem Probed.step {name : String} {index : Nat} (h : Probed name index round) (step : Step) :
    Probed name index (round.step doneAt timeout backend step) := by
  intro slots htask slot hslot
  cases effect_step doneAt timeout backend round name step with
  | elsewhere _ task => exact h slots (task.symm.trans htask) slot hslot
  | idle _ same => exact absurd (htask.symm.trans same) (Option.some_ne_none slots)
  | probed other before _ task next =>
      obtain rfl : slots = _ := Option.some.inj (htask.symm.trans next)
      rw [completed, List.getElem?_mapIdx, Option.map_eq_some_iff] at hslot
      obtain ⟨old, hold, rfl⟩ := hslot
      split
      · rfl
      · exact h before task old hold
  | early before _ task missing same =>
      rw [same] at htask
      exact h slots htask slot hslot
  | reported before probes _ task gathered next =>
      exact absurd (htask.symm.trans next) (Option.some_ne_none slots)

/-- A step that completes a probe has it completed. -/
theorem probed_step (round : Round) (name : String) (index : Nat) :
    Probed name index (round.step doneAt timeout backend (.probed name index)) := by
  intro slots htask slot hslot
  rw [Round.step, Keyed.get?_modify_self, Option.map_eq_some_iff] at htask
  obtain ⟨before, -, rfl⟩ := htask
  rw [completed, List.getElem?_mapIdx, Option.map_eq_some_iff] at hslot
  obtain ⟨old, -, rfl⟩ := hslot
  rw [if_pos rfl]
  rfl

/-- A schedule that completes a probe has it completed at the end. -/
theorem probed_run {name : String} {index : Nat} {steps : List Step}
    (h : .probed name index ∈ steps) :
    Probed name index (round.run doneAt timeout backend steps) := by
  have hkept : ∀ (rest : List Step) {later : Round}, Probed name index later →
      Probed name index (later.run doneAt timeout backend rest) := by
    intro rest
    induction rest with
    | nil => exact fun h => h
    | cons step rest ih => exact fun h => ih (h.step step)
  obtain ⟨before, after, rfl⟩ := List.append_of_mem h
  rw [Round.run, List.foldl_append, List.foldl_cons]
  exact hkept after (probed_step _ name index)

/-- **A complete schedule** reports every service after all its probes have completed. -/
def Complete (r : Registry) (steps : List Step) : Prop :=
  ∀ e ∈ r.services, ∃ before after, steps = before ++ .reported e.name :: after ∧
    ∀ index < e.instances.length, .probed e.name index ∈ before

/-- There are complete schedules: one service after the other, and one instance after the other. -/
theorem complete_sequential (r : Registry) :
    Complete r (r.services.flatMap fun e =>
      (List.range e.instances.length).map (Step.probed e.name) ++ [.reported e.name]) := by
  intro e he
  obtain ⟨before, after, hsplit⟩ := List.append_of_mem he
  refine ⟨(before.flatMap fun e =>
      (List.range e.instances.length).map (Step.probed e.name) ++ [.reported e.name]) ++
      (List.range e.instances.length).map (Step.probed e.name),
    after.flatMap fun e =>
      (List.range e.instances.length).map (Step.probed e.name) ++ [.reported e.name], ?_, ?_⟩
  · rw [hsplit, List.flatMap_append, List.flatMap_cons]
    simp only [List.append_assoc, List.singleton_append]
  · intro index hindex
    exact List.mem_append_right _ (List.mem_map_of_mem (List.mem_range.mpr hindex))

/-- Where all probes of a waiting service have completed, they are gathered. -/
theorem SlotsOf.exists_gathered {slots : List Slot} (h : SlotsOf timeout backend e slots)
    (htask : Keyed.get? e.name round.tasks = some slots)
    (hall : ∀ index < e.instances.length, Probed e.name index round) :
    ∃ probes, gathered? slots = some probes := by
  have hlength : slots.length = e.instances.length := by
    simpa using congrArg List.length h.urls
  have hcomplete : (slots.all fun slot => slot.probe?.isSome) = true := by
    rw [List.all_eq_true]
    intro slot hslot
    obtain ⟨index, hindex, rfl⟩ := List.getElem_of_mem hslot
    exact hall index (hlength ▸ hindex) slots htask _ (List.getElem?_eq_getElem hindex)
  exact ⟨_, if_pos hcomplete⟩

/-- **A complete schedule** has every service reported. -/
theorem Complete.task_eq_none {steps : List Step} (h : Complete r steps) (he : e ∈ r.services)
    (hstands : Stands doneAt timeout backend r e round) :
    Keyed.get? e.name (round.run doneAt timeout backend steps).tasks = none := by
  obtain ⟨before, after, rfl, hprobed⟩ := h e he
  rw [Round.run, List.foldl_append, List.foldl_cons, ← Round.run, ← Round.run]
  refine (idle_run ?_ after).1
  have hall : ∀ index < e.instances.length,
      Probed e.name index (round.run doneAt timeout backend before) :=
    fun index hindex => probed_run (hprobed index hindex)
  cases hstands.run before with
  | reported task => exact (idle_step task _).1
  | waiting slots task slotsOf =>
      obtain ⟨probes, hprobes⟩ := slotsOf.exists_gathered task hall
      rw [Round.step, task, Option.bind_some, hprobes]
      exact Keyed.get?_erase_self ..

end

end Monitor

namespace Registry

/-- Where names are distinct, the order of the services does not matter for finding them. -/
theorem DistinctNames.find?_perm {r r' : Registry} (h : r.DistinctNames)
    (hperm : r'.services.Perm r.services) (name : String) : r'.find? name = r.find? name := by
  have hdistinct : r'.DistinctNames := (hperm.map Endpoint.name).nodup_iff.mpr h
  rcases he : r.find? name with _ | e
  · rw [find?, List.find?_eq_none] at he ⊢
    exact fun e hmem => he e (hperm.mem_iff.mp hmem)
  · rw [← name_of_find? he]
    exact hdistinct.find?_of_mem (hperm.mem_iff.mpr (List.mem_of_find?_eq_some he))

end Registry

namespace Monitor

/-- All probes of a service are on their way at first. -/
theorem get?_launch {r : Registry} (h : r.DistinctNames) {e : Endpoint} (he : e ∈ r.services) :
    Keyed.get? e.name (Round.launch r).tasks
      = some (e.instances.map fun i => ⟨i.healthUrl, none⟩) := by
  rw [Registry.DistinctNames] at h
  rw [Round.launch]
  generalize r.services = services at h he
  induction services with
  | nil => cases he
  | cons f rest ih =>
      rw [List.map_cons, List.nodup_cons] at h
      rw [List.map_cons, Keyed.get?]
      rcases List.mem_cons.mp he with rfl | he
      · exact if_pos rfl
      · have hne : f.name ≠ e.name := fun hname => h.1 (hname ▸ List.mem_map_of_mem he)
        rw [if_neg hne]
        exact ih h.2 he

/-- **Complete schedules end alike**: in whatever order the services are taken and the probes
complete, one sees of every service what one sees after the cycle that reports them one by one. -/
theorem viewOf_run {r r' : Registry} (h : r.DistinctNames) (hservices : r'.services.Perm r.services)
    (hpolicy : r'.policy = r.policy) (hmetrics : r'.metrics = r.metrics) (doneAt : String → Timestamp)
    (timeout : Duration) (backend : Backend) {steps : List Step} (hcomplete : Complete r steps)
    (name : String) :
    ((Round.launch r').run doneAt timeout backend steps).registry.viewOf name
      = ((probes r timeout backend).foldl (report doneAt) r).viewOf name := by
  have hdistinct : r'.DistinctNames := (hservices.map Endpoint.name).nodup_iff.mpr h
  have hsame : r'.viewOf name = r.viewOf name := by
    rw [Registry.viewOf, Registry.viewOf, h.find?_perm hservices, hpolicy, hmetrics]
  by_cases hname : name ∈ r.services.map Endpoint.name
  · obtain ⟨e, he, rfl⟩ := List.mem_map.mp hname
    have hstart : Stands doneAt timeout backend r e (Round.launch r') :=
      .waiting _ (get?_launch hdistinct (hservices.mem_iff.mpr he)) (.pending timeout backend e)
        hsame
    rw [viewOf_foldl_report h he]
    cases hstart.run steps with
    | waiting slots task =>
        exact absurd (task.symm.trans (hcomplete.task_eq_none he hstart)) (Option.some_ne_none slots)
    | reported task view => exact view
  · have htask : Keyed.get? name (Round.launch r').tasks = none := by
      refine Keyed.get?_of_not_mem fun hmem => hname ?_
      rw [← (hservices.map Endpoint.name).mem_iff]
      simpa [Round.launch, Keyed.keys] using hmem
    have hothers : ((probes r timeout backend).filter fun p => p.1 = name) = [] := by
      rw [List.filter_eq_nil_iff, probes_eq]
      intro p hp
      obtain ⟨e, he, rfl⟩ := List.mem_map.mp hp
      have hne : e.name ≠ name := fun hsame => hname (hsame ▸ List.mem_map_of_mem he)
      simpa using hne
    rw [(idle_run htask steps).2, (confined_report doneAt).foldl rfl, hothers]
    exact hsame

end Monitor

namespace Registry

/-! ### Isolation -/

/-- **Services do not see each other**, and the order of what happens to different services does not
matter. -/
structure Isolated (r : Registry) : Prop where
  /-- What the calls of a service return, and what one sees of it afterwards, is as if there had been
  no other calls. -/
  alone : ∀ (calls : List Call) (name : String),
    (r.answers calls).filter (fun a => a.1.service = name)
        = r.answers (calls.filter fun c => c.service = name) ∧
      (calls.foldl meetCall r).viewOf name
        = ((calls.filter fun c => c.service = name).foldl meetCall r).viewOf name
  /-- Calls that name services outside the catalogue might as well not be made. -/
  unregistered : ∀ calls : List Call,
    calls.foldl meetCall r = (calls.filter fun c => r.contains c.service).foldl meetCall r
  /-- Calls on different services commute. -/
  commute : ∀ c c' : Call, c.service ≠ c'.service →
    (r.meetCall c).result c' = r.result c' ∧ (r.meetCall c').result c = r.result c ∧
      ∀ name, ((r.meetCall c).meetCall c').viewOf name = ((r.meetCall c').meetCall c).viewOf name
  /-- A cycle of the monitor ends alike for every order in which the services are taken and the
  probes complete, whenever the probes of each service are done. -/
  anyOrder : ∀ (doneAt : String → Timestamp) (timeout : Duration) (backend : Backend) (r' : Registry)
    (steps : List Monitor.Step), r'.services.Perm r.services → r'.policy = r.policy →
    r'.metrics = r.metrics → Monitor.Complete r steps → ∀ name,
      ((Monitor.Round.launch r').run doneAt timeout backend steps).registry.viewOf name
        = (Monitor.checkAll r doneAt timeout backend).2.viewOf name
  /-- There is such an order. -/
  someOrder : ∃ steps, Monitor.Complete r steps

/-- **Service isolation**: whatever is called of a registry, and in whatever order the probes of a
cycle complete. -/
theorem services_isolated {r : Registry} (h : r.DistinctNames) : Isolated r where
  alone := fun calls _ => ⟨filter_answers rfl calls, confined_meetCall.foldl rfl calls⟩
  unregistered := foldl_meetCall_filter_contains r
  commute := fun c c' hne =>
    ⟨result_congr (confined_meetCall.elsewhere r c c'.service hne),
      result_congr (confined_meetCall.elsewhere r c' c.service (Ne.symm hne)),
      confined_meetCall.comm hne r⟩
  anyOrder := fun doneAt timeout backend _ _ hservices hpolicy hmetrics hcomplete name =>
    Monitor.viewOf_run h hservices hpolicy hmetrics doneAt timeout backend hcomplete name
  someOrder := ⟨_, Monitor.complete_sequential r⟩

/-- Two services, one with two instances: its probes complete from the last to the first, the other
one is reported in between, a second earlier, and a call of a third service is of no effect. -/
theorem services_isolated_two_services :
    let services : List ServiceConfig :=
      [{ name := "users", instances := [{ url := "http://u" }, { url := "http://v" }] },
        { name := "orders", instances := [{ url := "http://o" }] }]
    let backend : Backend := fun o =>
      if o.uri.text = "http://u/health" then { outcome := .ok { status := 200 } }
      else { outcome := .error .connect }
    let steps : List Monitor.Step :=
      [.reported "orders", .probed "users" 1, .probed "orders" 0, .reported "orders",
        .probed "users" 0, .reported "users"]
    let doneAt (service : String) : Timestamp :=
      if service = "users" then .ofParts 2 0 else .ofParts 1 0
    let failures : List Call :=
      [.operation (.failure "orders" (.ofParts 0 0)), .operation (.failure "files" (.ofParts 0 0))]
    let checks (r : Registry) : List (Status × Option Timestamp) :=
      r.services.map fun e => (e.status, e.lastCheck)
    ∃ r, ofConfig services {} = .ok r ∧ r.DistinctNames ∧ Monitor.Complete r steps ∧ Isolated r ∧
      checks ((Monitor.Round.launch r).run doneAt (.ofSeconds 5) backend steps).registry
        = [(.degraded, some (.ofParts 2 0)), (.unhealthy, some (.ofParts 1 0))] ∧
      checks (Monitor.checkAll r doneAt (.ofSeconds 5) backend).2
        = [(.degraded, some (.ofParts 2 0)), (.unhealthy, some (.ofParts 1 0))] ∧
      (failures.foldl meetCall r).services.map (fun e => e.errorCount) = [0, 1] := by
  intro services backend steps doneAt failures checks
  have hdistinct : ∀ r, ofConfig services {} = .ok r → r.DistinctNames :=
    fun r hr => distinctNames_ofConfig hr
  refine ⟨_, rfl, hdistinct _ rfl, ?_, services_isolated (hdistinct _ rfl), by decide +kernel,
    by decide +kernel, by decide +kernel⟩
  intro e he
  rcases List.mem_cons.mp he with rfl | he
  · exact ⟨steps.take 5, [], rfl, by decide +kernel⟩
  · obtain rfl := List.mem_singleton.mp he
    exact ⟨steps.take 3, steps.drop 4, rfl, by decide +kernel⟩

end Registry

end Tollgate
