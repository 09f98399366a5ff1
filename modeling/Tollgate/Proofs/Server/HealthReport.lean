import Tollgate.Health
import Tollgate.Proofs.Keyed
import Tollgate.Proofs.Registry.Forwarding

/-!
# What a report shows

The reports on the health of the gateway are read back here: what stands at a path of a JSON value
(`Json.at?`) is compared with what was found. A report and the findings in it show all that they hold,
by themselves as well as inside another value (`HealthReport.shownBy_toJson`,
`HealthReport.shownBy_toOrderedJson`), and what is found about the services sums them up
(`Registry.sumsUp_servicesFinding`).

## Main results

* `HealthReport.shownBy_toJson`, `HealthReport.shownBy_toOrderedJson`: all of a report can be read
  back.
* `Registry.pairwise_byName`: the order of the services in a report is strict.
* `Registry.healthy_tally`: the tally counts the healthy services.
* `Registry.sumsUp_servicesFinding`: what is shown about the services.
-/

namespace Tollgate

/-! ### Reading a value -/

namespace Json

/-- The member of that name, if the value is an object that has it. -/
def member? (name : String) : Json → Option Json
  | object members => Keyed.get? name members
  | _ => none

/-- What stands at a path of names. -/
def at? (v : Json) : List String → Option Json
  | [] => some v
  | name :: path => (v.member? name).bind (·.at? path)

@[simp] theorem at?_nil (v : Json) : v.at? [] = some v := rfl

@[simp] theorem at?_cons (v : Json) (name : String) (path : List String) :
    v.at? (name :: path) = (v.member? name).bind (·.at? path) := rfl

@[simp] theorem member?_object (name : String) (members : List (String × Json)) :
    (object members).member? name = Keyed.get? name members := rfl

/-- Reading on from what stands at a path. -/
theorem at?_append (v : Json) (path more : List String) :
    v.at? (path ++ more) = (v.at? path).bind (·.at? more) := by
  induction path generalizing v with
  | nil => rfl
  | cons name path ih =>
      rw [List.cons_append, at?_cons, at?_cons, Option.bind_assoc]
      exact congrArg _ (funext ih)

end Json

/-! ### Reports -/

/-- **All of a finding is shown**: its level in one word, what is said about it, and its details. -/
structure Finding.ShownBy (f : Finding) (v : Json) : Prop where
  status : v.at? ["status"] = some (.string f.level.text)
  message : v.at? ["message"] = some (.string f.message)
  details : v.at? ["details"] = f.details

namespace Finding

/-- The details of a finding are read on from where it is shown. -/
theorem ShownBy.at?_details {f : Finding} {v : Json} (h : f.ShownBy v) (path : List String) :
    v.at? ("details" :: path) = f.details.bind (·.at? path) := by
  rw [← h.details, ← Json.at?_append]
  rfl

/-- A finding as it is reported. -/
theorem shownBy_toJson (f : Finding) : f.ShownBy f.toJson := by
  rw [toJson]
  rcases hdetails : f.details with _ | details
  · exact ⟨rfl, rfl, hdetails.symm⟩
  · exact ⟨rfl, rfl, hdetails.symm⟩

/-- A finding as it is reported inside another value. -/
theorem shownBy_toOrderedJson (f : Finding) : f.ShownBy f.toOrderedJson := by
  rw [toOrderedJson]
  rcases hdetails : f.details with _ | details
  · exact ⟨rfl, rfl, hdetails.symm⟩
  · exact ⟨rfl, rfl, hdetails.symm⟩

end Finding

namespace HealthReport

/-- **All of a report is shown**: what it is about, how it turned out, every finding under its name,
how long the gateway runs, and when the report was made. -/
structure ShownBy (r : HealthReport) (v : Json) : Prop where
  service : v.at? ["service"] = some (.string r.service)
  status : v.at? ["status"] = some (.string r.level.text)
  findings : ∀ name f, (name, f) ∈ r.findings →
    ∃ check, v.at? ["checks", name] = some check ∧ f.ShownBy check
  uptime : v.at? ["uptime_seconds"] = some (.number r.uptime.seconds)
  time : v.at? ["timestamp"] = some (.string r.time.text)

variable {r : HealthReport}

/-- What a report shows of a finding stands under its name. -/
theorem ShownBy.at?_checks {v : Json} (h : r.ShownBy v) {name : String} {f : Finding}
    (hf : (name, f) ∈ r.findings) :
    ∃ check, f.ShownBy check ∧ ∀ path, v.at? ("checks" :: name :: path) = check.at? path := by
  obtain ⟨check, hcheck, hshown⟩ := h.findings name f hf
  refine ⟨check, hshown, fun path => ?_⟩
  have happend := v.at?_append ["checks", name] path
  rwa [hcheck] at happend

/-- A finding is where its name is, if no two have the same. -/
theorem get?_findings (h : (Keyed.keys r.findings).Nodup) (shown : Finding → Json) {name : String}
    {f : Finding} (hf : (name, f) ∈ r.findings) :
    Keyed.get? name (r.findings.map fun f => (f.1, shown f.2)) = some (shown f) := by
  rw [Keyed.get?_map, Keyed.get?_of_mem h hf, Option.map_some]

/-- **All of a report can be read back** that makes up a body. -/
theorem shownBy_toJson (h : (Keyed.keys r.findings).Nodup) : r.ShownBy r.toJson where
  service := rfl
  status := rfl
  findings _ f hf :=
    ⟨f.toJson, congrArg (Option.bind · some) (get?_findings h Finding.toJson hf), f.shownBy_toJson⟩
  uptime := rfl
  time := rfl

/-- **All of a report can be read back** inside another value. -/
theorem shownBy_toOrderedJson (h : (Keyed.keys r.findings).Nodup) : r.ShownBy r.toOrderedJson where
  service := rfl
  status := rfl
  findings _ f hf :=
    ⟨f.toOrderedJson, congrArg (Option.bind · some) (get?_findings h Finding.toOrderedJson hf),
      f.shownBy_toOrderedJson⟩
  uptime := rfl
  time := rfl

/-- **A report is healthy** exactly if everything in it is. -/
theorem level_eq_healthy_iff : r.level = .healthy ↔ ∀ f ∈ r.findings, f.2.level = .healthy := by
  have hall : r.isHealthy = true ↔ ∀ f ∈ r.findings, f.2.level = .healthy := by
    simp [isHealthy, List.all_eq_true]
  rw [← hall, level]
  split
  · next hhealthy => exact iff_of_true rfl hhealthy
  · next hother => exact iff_of_false Level.noConfusion hother

/-- A report is healthy or unhealthy. -/
theorem level_eq_unhealthy_iff : r.level = .unhealthy ↔ ¬r.level = .healthy := by
  rw [level]
  split
  · exact iff_of_false Level.noConfusion (not_not.mpr rfl)
  · exact iff_of_true rfl Level.noConfusion

end HealthReport

/-- No two levels are the same word. -/
theorem Level.string_text_eq_iff (level other : Level) :
    some (Json.string level.text) = some (.string other.text) ↔ level = other := by
  rw [Option.some_inj, Json.string.injEq]
  cases level <;> cases other <;> decide

namespace Registry

variable {r : Registry}

/-! ### The services in order -/

/-- A report goes through the services that there are. -/
theorem mem_byName {e : Endpoint} : e ∈ r.byName ↔ e ∈ r.services :=
  List.mem_mergeSort

/-- **The services are reported in ascending order of their names**, none of which comes twice. -/
theorem pairwise_byName (h : r.DistinctNames) : r.byName.Pairwise fun e f => e.name < f.name := by
  have hle : r.byName.Pairwise fun e f => decide (e.name ≤ f.name) = true := by
    refine List.pairwise_mergeSort (fun e f g hef hfg => ?_) (fun e f => ?_) r.services
    · rw [decide_eq_true_eq] at *
      exact String.le_trans hef hfg
    · rw [Bool.or_eq_true, decide_eq_true_eq, decide_eq_true_eq]
      exact String.le_total e.name f.name
  have hne : r.byName.Pairwise fun e f => e.name ≠ f.name :=
    List.pairwise_map.mp (((List.mergeSort_perm ..).map Endpoint.name).nodup_iff.mpr h)
  exact (hle.and hne).imp fun hef => Std.lt_of_le_of_ne (of_decide_eq_true hef.1) hef.2

/-! ### The tally -/

/-- The services that are listed are those that are not healthy. -/
theorem mem_unhealthy_tally {name : String} :
    name ∈ r.tally.unhealthy ↔ ∃ e ∈ r.services, e.name = name ∧ e.status ≠ .healthy := by
  simp only [tally, List.mem_map, List.mem_filter, mem_byName, decide_eq_true_eq]
  constructor
  · rintro ⟨e, ⟨he, hstatus⟩, hname⟩
    exact ⟨e, he, hname, hstatus⟩
  · rintro ⟨e, he, hname, hstatus⟩
    exact ⟨e, ⟨he, hstatus⟩, hname⟩

/-- They are listed in ascending order. -/
theorem pairwise_unhealthy_tally (h : r.DistinctNames) : r.tally.unhealthy.Pairwise (· < ·) :=
  List.pairwise_map.mpr ((pairwise_byName h).filter _)

/-- **The tally counts the healthy services**, and lists the others. -/
theorem healthy_tally (r : Registry) :
    r.tally.healthy = r.services.countP (fun e => e.status = .healthy) ∧
      r.tally.healthy + r.tally.unhealthy.length = r.services.length := by
  have hlisted : r.tally.unhealthy.length = r.services.countP fun e => e.status ≠ .healthy := by
    rw [tally, List.length_map, ← List.countP_eq_length_filter]
    exact (List.mergeSort_perm ..).countP_eq _
  have hall : r.services.length
      = r.services.countP (fun e => e.status = .healthy) + r.tally.unhealthy.length := by
    rw [hlisted]
    simpa using List.length_eq_countP_add_countP (fun e : Endpoint => e.status = .healthy)
  have htotal : r.tally.total = r.services.length := rfl
  rw [ServiceTally.healthy]
  omega

/-- The services are found unhealthy if none of them is healthy, or there are none. -/
theorem level_tally_eq_unhealthy_iff :
    r.tally.level = .unhealthy ↔ ∀ e ∈ r.services, e.status ≠ .healthy := by
  have hnone : r.tally.healthy = 0 ↔ ∀ e ∈ r.services, e.status ≠ .healthy := by
    rw [(healthy_tally r).1, List.countP_eq_zero]
    simp
  rw [← hnone, ServiceTally.level]
  split
  · next hzero => exact iff_of_true rfl hzero
  · next hsome => split <;> exact iff_of_false Level.noConfusion hsome

/-- They are found healthy if all of them are, and there are any. -/
theorem level_tally_eq_healthy_iff :
    r.tally.level = .healthy ↔ r.services ≠ [] ∧ ∀ e ∈ r.services, e.status = .healthy := by
  have hall : r.tally.healthy = r.tally.total ↔ ∀ e ∈ r.services, e.status = .healthy := by
    rw [(healthy_tally r).1, tally, List.countP_eq_length]
    simp
  have hempty : r.services = [] ↔ r.tally.total = 0 := List.length_eq_zero_iff.symm
  have hbound := (healthy_tally r).2
  rw [← hall, ne_eq, hempty, ServiceTally.level]
  split
  · exact iff_of_false Level.noConfusion (by omega)
  · split
    · exact iff_of_true rfl (by omega)
    · exact iff_of_false Level.noConfusion (by omega)

/-- They are found degraded if some are healthy, but not all. -/
theorem level_tally_eq_degraded_iff :
    r.tally.level = .degraded
      ↔ (∃ e ∈ r.services, e.status = .healthy) ∧ ∃ e ∈ r.services, e.status ≠ .healthy := by
  have hneither : r.tally.level = .degraded
      ↔ ¬ r.tally.level = .unhealthy ∧ ¬ r.tally.level = .healthy := by
    cases r.tally.level <;> simp
  rw [hneither, level_tally_eq_unhealthy_iff, level_tally_eq_healthy_iff]
  constructor
  · rintro ⟨hsome, hnotAll⟩
    push Not at hsome hnotAll
    obtain ⟨e, he, hstatus⟩ := hsome
    exact ⟨⟨e, he, hstatus⟩, hnotAll (List.ne_nil_of_mem he)⟩
  · rintro ⟨⟨e, he, hstatus⟩, f, hf, hother⟩
    exact ⟨fun hnone => hnone e he hstatus, fun hall => hother (hall.2 f hf)⟩

/-! ### What is found about the services -/

/-- **What is shown about the services sums them up.** -/
structure SumsUp (r : Registry) (check : Json) : Prop where
  healthy_iff : check.at? ["status"] = some (.string "healthy")
    ↔ r.services ≠ [] ∧ ∀ e ∈ r.services, e.status = .healthy
  degraded_iff : check.at? ["status"] = some (.string "degraded")
    ↔ (∃ e ∈ r.services, e.status = .healthy) ∧ ∃ e ∈ r.services, e.status ≠ .healthy
  unhealthy_iff : check.at? ["status"] = some (.string "unhealthy")
    ↔ ∀ e ∈ r.services, e.status ≠ .healthy
  /-- Only about no services there is nothing to tell. -/
  details_iff : check.at? ["details"] = none ↔ r.services = []
  total : r.services ≠ [] →
    check.at? ["details", "total_services"] = some (.integer r.services.length)
  healthy : r.services ≠ [] →
    check.at? ["details", "healthy_services"]
      = some (.integer (r.services.countP fun e => e.status = .healthy))
  /-- The services that are not healthy are listed in ascending order, and no others; with the healthy
  ones they make up the total. -/
  unhealthy : r.services ≠ [] → ∃ names : List String,
    check.at? ["details", "unhealthy_services"] = some (.array (names.map .string)) ∧
      r.services.countP (fun e => e.status = .healthy) + names.length = r.services.length ∧
      names.Pairwise (· < ·) ∧
      ∀ name, name ∈ names ↔ ∃ e ∈ r.services, e.name = name ∧ e.status ≠ .healthy
  /-- Each service is shown with its own status. -/
  statuses : ∀ e ∈ r.services,
    check.at? ["details", "services", e.name, "status"] = some (.string e.status.text)

/-- The services stand under their names. -/
theorem get?_byName (h : r.DistinctNames) {e : Endpoint} (he : e ∈ r.services) :
    Keyed.get? e.name (r.byName.map fun e => (e.name, e.toJson)) = some e.toJson := by
  refine Keyed.get?_of_mem ?_ (List.mem_map_of_mem (mem_byName.mpr he))
  rw [Keyed.keys, List.map_map]
  exact ((List.mergeSort_perm ..).map Endpoint.name).nodup_iff.mpr h

/-- What is told about the services, unless there are none. -/
theorem details_servicesFinding (h : r.services ≠ []) :
    r.servicesFinding.details = some (.object
      [("healthy_services", .integer r.tally.healthy),
        ("services", .object (r.byName.map fun e => (e.name, e.toJson))),
        ("total_services", .integer r.tally.total),
        ("unhealthy_services", .array (r.tally.unhealthy.map .string))]) :=
  if_neg fun hempty => h (List.length_eq_zero_iff.mp hempty)

/-- **What is found about the services** sums them up, wherever it is shown. -/
theorem sumsUp_servicesFinding (h : r.DistinctNames) {check : Json}
    (hshown : r.servicesFinding.ShownBy check) : r.SumsUp check := by
  have hlevel : ∀ level : Level, check.at? ["status"] = some (.string level.text)
      ↔ r.tally.level = level := fun level => by
    rw [hshown.status]
    exact Level.string_text_eq_iff r.tally.level level
  obtain ⟨hcount, hsum⟩ := healthy_tally r
  refine
    { healthy_iff := (hlevel .healthy).trans level_tally_eq_healthy_iff
      degraded_iff := (hlevel .degraded).trans level_tally_eq_degraded_iff
      unhealthy_iff := (hlevel .unhealthy).trans level_tally_eq_unhealthy_iff
      details_iff := ?details_iff
      total := fun hsome => by
        rw [hshown.at?_details, details_servicesFinding hsome]
        rfl
      healthy := fun hsome => by
        rw [hshown.at?_details, details_servicesFinding hsome, ← hcount]
        rfl
      unhealthy := fun hsome => ⟨r.tally.unhealthy, ?listed, hcount ▸ hsum,
        pairwise_unhealthy_tally h, fun name => mem_unhealthy_tally⟩
      statuses := fun e he => ?statuses }
  case details_iff =>
    rw [hshown.details]
    constructor
    · intro hnone
      by_contra hsome
      rw [details_servicesFinding hsome] at hnone
      cases hnone
    · exact fun hempty => if_pos (List.length_eq_zero_iff.mpr hempty)
  case listed =>
    rw [hshown.at?_details, details_servicesFinding hsome]
    rfl
  case statuses =>
    rw [hshown.at?_details, details_servicesFinding (List.ne_nil_of_mem he)]
    have hservice := get?_byName h he
    show (Keyed.get? e.name (r.byName.map fun e => (e.name, e.toJson))).bind (·.at? ["status"]) = _
    rw [hservice]
    rfl

end Registry

end Tollgate
