import FluxCorpus.Proofs.Flux.Reading
import FluxCorpus.Proofs.Template.Success

/-!
# The range in a script is the window that was drawn

Every template with a window writes one range into its script, and the bounds in it are those of the
window, written to the second.

* `Script.ranges_groupByTime` and its like — the one range in a script.
* `Template.range_of_window` — **the text of a successful template has the window that it drew.**
-/

namespace FluxCorpus

open Flux
open Text (Clear Finds clear_lit)

/-! ## Scripts with a range -/

namespace Script

theorem clear_fromBenchmark : Clear rangeMarker fromBenchmark := clear_lit (by decide)

/-- A condition without a range makes a line without one. -/
theorem clear_condition {c : String} (h : Clear rangeMarker c) : Clear rangeMarker (filter c) :=
  clear_filter h (clear_lit (by decide)) (clear_lit (by decide))

/-- A script with one line for a range has what this line has. -/
theorem ranges_script {first line : String} {out : List (Option String)} {after : List String}
    (hfirst : Clear rangeMarker first) (hline : Finds ranges line out)
    (hafter : ∀ l ∈ after, Clear rangeMarker l) :
    Finds ranges (paragraphs [first :: line :: after]) out := by
  have hbreak : Finds ranges "\n\t" [] := finds_ranges (clear_lit (by decide))
  refine finds_line [first] after hbreak ?_ hline fun l hl => finds_ranges (hafter l hl)
  exact List.forall_mem_singleton.2 (finds_ranges hfirst)

variable (w : Interval) {fields hosts condition fleet : String}

theorem ranges_groupByTime (hfields : Clear rangeMarker fields) (hhosts : Clear rangeMarker hosts) :
    Finds ranges (paragraphs [groupByTime w fields hosts])
      [some (writtenRange w.startText w.stopText)] := by
  have hcpu : Clear rangeMarker "r._measurement == \"cpu\" and " := clear_lit (by decide)
  have hand : Clear rangeMarker " and " := clear_lit (by decide)
  refine ranges_script (clear_fromBenchmark.append (clear_lit (by decide))) (ranges_rangeOf w) ?_
  simp only [List.forall_mem_cons]
  refine ⟨clear_condition (((hcpu.append hfields).append hand).append hhosts), ?_, ?_, ?_, nofun⟩
  · exact clear_lit (by decide)
  · exact clear_lit (by decide)
  · exact clear_lit (by decide)

theorem ranges_groupByOrderByLimit :
    Finds ranges (paragraphs [groupByOrderByLimit w]) [some (writtenEnd w.stopText)] := by
  refine ranges_script clear_fromBenchmark (ranges_rangeBefore w.stop) ?_
  simp only [List.forall_mem_cons]
  refine ⟨clear_condition ?_, ?_, ?_, ?_, ?_, nofun⟩
  · exact clear_lit (by decide)
  · exact clear_lit (by decide)
  · exact clear_lit (by decide)
  · exact clear_lit (by decide)
  · exact clear_lit (by decide)

theorem ranges_doubleGroupBy (hfields : Clear rangeMarker fields) :
    Finds ranges (paragraphs [doubleGroupBy w fields])
      [some (writtenRange w.startText w.stopText)] := by
  have hcpu : Clear rangeMarker "r._measurement == \"cpu\" and " := clear_lit (by decide)
  refine ranges_script clear_fromBenchmark (ranges_rangeOf w) ?_
  simp only [List.forall_mem_cons]
  refine ⟨clear_condition (hcpu.append hfields), ?_, ?_, ?_, ?_, nofun⟩
  · exact clear_lit (by decide)
  · exact clear_lit (by decide)
  · exact clear_lit (by decide)
  · exact clear_lit (by decide)

theorem ranges_maxAll (hfields : Clear rangeMarker fields) (hhosts : Clear rangeMarker hosts) :
    Finds ranges (paragraphs [maxAll w fields hosts])
      [some (writtenRange w.startText w.stopText)] := by
  have hcpu : Clear rangeMarker "r._measurement == \"cpu\" and " := clear_lit (by decide)
  have hand : Clear rangeMarker " and " := clear_lit (by decide)
  refine ranges_script clear_fromBenchmark (ranges_rangeOf w) ?_
  simp only [List.forall_mem_cons]
  refine ⟨clear_condition (((hcpu.append hfields).append hand).append hhosts), ?_, ?_, ?_, nofun⟩
  · exact clear_lit (by decide)
  · exact clear_lit (by decide)
  · exact clear_lit (by decide)

theorem ranges_highCpu (hcondition : Clear rangeMarker condition) :
    Finds ranges (paragraphs [highCpu w condition])
      [some (writtenRange w.startText w.stopText)] := by
  refine ranges_script clear_fromBenchmark (ranges_rangeOf w) ?_
  simp only [List.forall_mem_cons]
  refine ⟨clear_condition (Clear.append ?_ hcondition), ?_, ?_, nofun⟩
  · exact clear_lit (by decide)
  · exact clear_lit (by decide)
  · exact clear_lit (by decide)

/-- The condition on a fleet in the scripts about velocities. -/
theorem clear_velocityOf (hfleet : Plain fleet) :
    Clear rangeMarker ("r._measurement == \"readings\" and r._field == \"velocity\" and r.fleet == \""
      ++ fleet ++ "\"") := by
  rw [String.append_assoc]
  refine Clear.append (clear_lit (by decide)) ?_
  exact hfleet.clear (c := '"') (.inr (by decide)) rfl (by decide)

theorem ranges_stationaryTrucks (hfleet : Plain fleet) :
    Finds ranges (paragraphs [stationaryTrucks w fleet])
      [some (writtenRange w.startText w.stopText)] := by
  refine ranges_script clear_fromBenchmark (ranges_rangeOf w) ?_
  simp only [List.forall_mem_cons]
  refine ⟨clear_condition (clear_velocityOf hfleet), ?_, ?_, ?_, clear_condition ?_, nofun⟩
  · exact clear_lit (by decide)
  · exact clear_lit (by decide)
  · exact clear_lit (by decide)
  · exact clear_lit (by decide)

theorem ranges_longSessions (hfleet : Plain fleet) (offset threshold : Nat) :
    Finds ranges (paragraphs [longSessions w fleet offset threshold])
      [some (writtenRange w.startText w.stopText)] := by
  have hevery : Clear rangeMarker "|> aggregateWindow(every: " := clear_lit (by decide)
  have hoffset : Clear rangeMarker "s, fn:count, offset: " := clear_lit (by decide)
  have hempty : Clear rangeMarker "s, createEmpty: false)" := clear_lit (by decide)
  have hvalue : Clear rangeMarker "r._value > " := clear_lit (by decide)
  refine ranges_script clear_fromBenchmark (ranges_rangeOf w) ?_
  simp only [List.forall_mem_cons]
  refine ⟨clear_condition (clear_velocityOf hfleet), ?_, ?_, clear_condition ?_, ?_,
    clear_condition (hvalue.append (clear_text _ _)), ?_, nofun⟩
  · exact clear_lit (by decide)
  · exact clear_lit (by decide)
  · exact clear_lit (by decide)
  · exact (((hevery.append (clear_text _ _)).append hoffset).append (clear_text _ _)).append hempty
  · exact clear_lit (by decide)

end Script

/-! ## Templates with a window -/

namespace Template

/-- What a template writes about a window with the given bounds: both of them, or only the later
one. -/
def writtenBounds (startText stopText : String) : Template → String
  | .devops .groupByOrderByLimit => writtenEnd stopText
  | _ => writtenRange startText stopText

/-- The fields and the names of a sample do not hide a range. -/
theorem clear_fields {fields : List String} (h : ∀ f ∈ fields, f ∈ cpuMetrics) :
    Clear rangeMarker (Flux.oneOf "_field" fields) :=
  clear_oneOf clearJoints_rangeMarker (Text.clear_of_tails (by decide))
    fun f hf => plain_cpuMetrics f (h f hf)

theorem clear_hosts {n scale : Nat} {s s' : Lagged} {names : List String}
    (h : (Draw.tags .host n scale).outcome s = some (.ok names, s')) :
    Clear rangeMarker (Flux.oneOf "hostname" names) :=
  clear_oneOf clearJoints_rangeMarker (Text.clear_of_tails (by decide)) (plain_of_tags h)

/-- A template with a window has drawn it first and written it into its script. -/
theorem exists_window {t : Template} {d : Duration} {desk desk' : Desk} (hd : t.window? = some d)
    (h : t.compose.outcome desk = some (.ok (), desk')) :
    ∃ w s, (desk.generator.interval.window d).outcome desk.generator.source = some (.ok w, s)
      ∧ Finds ranges desk'.record.body [some (t.writtenBounds w.startText w.stopText)]
      ∧ (t.useCase = .devops →
        desk'.record.humanDescription = desk'.record.humanLabel ++ ": " ++ w.startText) := by
  cases t with
  | devops t =>
    cases t with
    | groupByTime hosts metrics duration =>
      cases hd
      obtain ⟨w, s, names, s', hw, -, hnames, rfl⟩ := Compose.groupByTime_ok h
      have hfields : Clear rangeMarker (Flux.oneOf "_field" (cpuMetrics.take metrics)) :=
        clear_fields fun f hf => List.mem_of_mem_take hf
      exact ⟨w, s, hw, Script.ranges_groupByTime w hfields (clear_hosts hnames), fun _ => rfl⟩
    | groupByOrderByLimit =>
      cases hd
      obtain ⟨w, s, hw, rfl⟩ := Compose.groupByOrderByLimit_ok h
      exact ⟨w, s, hw, Script.ranges_groupByOrderByLimit w, fun _ => rfl⟩
    | doubleGroupBy metrics =>
      cases hd
      obtain ⟨w, s, hw, rfl⟩ := Compose.doubleGroupBy_ok h
      have hfields : Clear rangeMarker (Flux.oneOf "_field" (cpuMetrics.take metrics)) :=
        clear_fields fun f hf => List.mem_of_mem_take hf
      exact ⟨w, s, hw, Script.ranges_doubleGroupBy w hfields, fun _ => rfl⟩
    | maxAll hosts duration =>
      cases hd
      obtain ⟨w, s, names, s', hw, hnames, rfl⟩ := Compose.maxAll_ok h
      have hfields : Clear rangeMarker (Flux.oneOf "_field" cpuMetrics) :=
        clear_fields fun f hf => hf
      exact ⟨w, s, hw, Script.ranges_maxAll w hfields (clear_hosts hnames), fun _ => rfl⟩
    | lastPoint => cases hd
    | highCpu hosts =>
      cases hd
      obtain ⟨w, s, condition, s', hw, hcondition, rfl⟩ := Compose.highCpu_ok h
      have hclear : Clear rangeMarker condition := by
        obtain ⟨-, rfl, -⟩ | ⟨names, hnames, rfl⟩ := hcondition
        · exact clear_lit (by decide)
        · exact Clear.append (clear_lit (by decide)) (clear_hosts hnames)
      exact ⟨w, s, hw, Script.ranges_highCpu w hclear, fun _ => rfl⟩
  | iot t =>
    cases t with
    | stationaryTrucks =>
      cases hd
      obtain ⟨w, s, f, s', _, _, hw, -, hf, rfl⟩ := Compose.stationaryTrucks_ok h
      exact ⟨w, s, hw, Script.ranges_stationaryTrucks w (plain_fleets f hf), nofun⟩
    | longDrivingSessions =>
      cases hd
      obtain ⟨w, s, f, s', _, _, hw, -, hf, rfl⟩ := Compose.longDrivingSessions_ok h
      exact ⟨w, s, hw, Script.ranges_longSessions w (plain_fleets f hf) _ _, nofun⟩
    | longDailySessions =>
      cases hd
      obtain ⟨w, s, f, s', _, _, hw, -, hf, rfl⟩ := Compose.longDailySessions_ok h
      exact ⟨w, s, hw, Script.ranges_longSessions w (plain_fleets f hf) _ _, nofun⟩
    | _ => cases hd

/-- **The time in a script is right.**  The text of a template with a window holds one range, with
the bounds of the window that the template has drawn, or only the later one; that window is of one
hour.  They are timestamps to the second as far apart as the window is long, inside of the simulated
interval.  A template about hosts also names the start of the window in its description. -/
theorem range_of_window {t : Template} {d : Duration} {desk desk' : Desk}
    (hd : t.window? = some d) (h : t.compose.outcome desk = some (.ok (), desk')) :
    ∃ w s, (desk.generator.interval.window d).outcome desk.generator.source = some (.ok w, s)
      ∧ ranges desk'.record.body.toList = [some (t.writtenBounds w.startText w.stopText)]
      ∧ desk.generator.interval.Spans d w.startText w.stopText
      ∧ (t = .devops .groupByOrderByLimit → d.nanos = 3600000000000)
      ∧ (t.useCase = .devops →
        desk'.record.humanDescription = desk'.record.humanLabel ++ ": " ++ w.startText) := by
  obtain ⟨w, s, hw, hranges, hdescription⟩ := exists_window hd h
  refine ⟨w, s, hw, hranges.all rfl, (Interval.isWindow_of_window hw).spans, ?_, hdescription⟩
  rintro rfl
  cases hd
  rfl

/-- One hour for one host. -/
theorem range_of_window_one_hour :
    ∃ (desk' : Desk) (w : Interval) (s : Lagged),
      (compose (.devops (.groupByTime 1 1 (.ofHours 1)))).outcome ⟨.narrow (.ofSeed 0), .empty⟩
          = some (.ok (), desk')
      ∧ (Interval.window ⟨0, 3600000000001⟩ (.ofHours 1)).outcome (Lagged.ofSeed 0)
          = some (.ok w, s)
      ∧ ranges desk'.record.body.toList
        = [some ("start: " ++ w.startText ++ ", stop: " ++ w.stopText)]
      ∧ Interval.Spans ⟨0, 3600000000001⟩ (.ofHours 1) w.startText w.stopText
      ∧ desk'.record.humanDescription = desk'.record.humanLabel ++ ": " ++ w.startText := by
  obtain ⟨source, q, h⟩ := Compose.groupByTime_narrow (.ofSeed 0) .empty
  have hwindow := range_of_window (t := .devops (.groupByTime 1 1 (.ofHours 1))) rfl h
  obtain ⟨w, s, hw, hranges, hspans, -, hdescription⟩ := hwindow
  exact ⟨_, w, s, h, hw, hranges, hspans, hdescription rfl⟩

end Template

end FluxCorpus
