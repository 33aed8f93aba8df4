import FluxCorpus.Proofs.Corpus
import FluxCorpus.Proofs.Template.Ranges

/-!
# Sessions are counted from the start of the simulation

The queries about long sessions cut time into periods, with an offset that lets the first period begin
at the time of day at which the simulation starts.  The window that is drawn has no part in it.

* `offsets` — the offsets in a script.
* `Script.offsets_longSessions` — the script of the sessions has one, the number it was written with.
* `Interval.startSecondOfDay_eq` — the time of day at which an interval starts, for starts before 1970
  and within a second as well.
* `Template.offset_of_simulation` — **the offset is the time of day in the text of the start**, in
  every call of a run.
-/

namespace FluxCorpus

open Flux
open Text (behind upTo? Clear Finds clear_lit)

/-! ## Reading an offset -/

namespace Flux

/-- What introduces an offset. -/
def offsetMarker : List Char := ['o', 'f', 'f', 's', 'e', 't', ':', ' ']

/-- The numbers of seconds in all offsets of a text, if they are numbers. -/
def offsets (cs : List Char) : List (Option Nat) :=
  (behind offsetMarker cs).map fun rest => (upTo? 's' rest).bind Text.Decimal.nat?

theorem finds_offsets {s : String} (h : Clear offsetMarker s) : Finds offsets s [] := h.finds _

/-- No offset begins in a number. -/
theorem clear_offset_text (n : Nat) : Clear offsetMarker (Text.Decimal.text n) :=
  Text.clear_of_head_not_mem (not_mem_text (by decide) n)

/-- An offset is read up to its unit, between texts that have none. -/
theorem offsets_offset {before lead : String} (label unit : String) (k : Nat)
    (hlabel : label.toList = lead.toList ++ offsetMarker) (hhead : unit.toList.head? = some 's')
    (hbefore : Clear offsetMarker (before ++ lead)) (hunit : Clear offsetMarker unit) :
    Finds offsets (before ++ label ++ Text.Decimal.text k ++ unit) [some k] := by
  intro rest
  obtain ⟨tail, htail⟩ := List.head?_eq_some_iff.1 hhead
  have hfirst : 'o' ∉ ['f', 'f', 's', 'e', 't', ':', ' '] := by decide
  have hdigits : (Text.Decimal.text k).toList = Text.Decimal.digits k := String.toList_ofList
  have hplain : 's' ∉ Text.Decimal.digits k := hdigits ▸ not_mem_text (by decide) k
  have hsplit : (before ++ label ++ Text.Decimal.text k ++ unit).toList ++ rest
      = (before ++ lead).toList ++ (offsetMarker
        ++ ((Text.Decimal.text k).toList ++ (unit.toList ++ rest))) := by
    simp only [String.toList_append, hlabel, List.append_assoc]
  have hbehind : behind offsetMarker ((before ++ label ++ Text.Decimal.text k ++ unit).toList ++ rest)
      = (Text.Decimal.digits k ++ 's' :: (tail ++ rest)) :: behind offsetMarker rest := by
    rw [hsplit, hbefore, offsetMarker, Text.behind_marker hfirst, ← offsetMarker, clear_offset_text,
      hunit, hdigits, htail, List.cons_append]
  rw [offsets, hbehind, List.map_cons, Text.upTo?_append hplain, Option.bind_some,
    Text.Decimal.nat?_digits, ← offsets]
  rfl

end Flux

/-! ## The script of the sessions -/

namespace Script

/-- No offset begins in the bounds of a window. -/
theorem clear_offset_rangeOf (w : Interval) : Clear offsetMarker (rangeOf w) := by
  have htime : ∀ nanos, Clear offsetMarker (timestamp nanos) := fun nanos =>
    Text.clear_of_head_not_mem (not_mem_timestamp (by decide) (by decide) nanos)
  have hrange : Clear offsetMarker "|> range(" := clear_lit (by decide)
  have hstart : Clear offsetMarker "start: " := clear_lit (by decide)
  have hstop : Clear offsetMarker ", stop: " := clear_lit (by decide)
  have hclose : Clear offsetMarker ")" := clear_lit (by decide)
  exact (hrange.append (((hstart.append (htime _)).append hstop).append (htime _))).append hclose

/-- No offset begins in a condition, if it has none. -/
theorem clear_offset_filter {condition : String} (h : Clear offsetMarker condition) :
    Clear offsetMarker (filter condition) :=
  clear_filter h (clear_lit (by decide)) (clear_lit (by decide))

/-- No offset begins in the condition on a fleet. -/
theorem clear_offset_fleet {fleet : String} (h : fleet ∈ fleets) : Clear offsetMarker
    ("r._measurement == \"readings\" and r._field == \"velocity\" and r.fleet == \"" ++ fleet
      ++ "\"") := by
  have hcolon : ∀ f ∈ fleets, ':' ∉ f.toList := by decide
  have hfleet : Clear offsetMarker (fleet ++ "\"") :=
    Text.clear_concat (x := ':') (c := '"') (by decide) (hcolon fleet h) rfl (by decide)
  rw [String.append_assoc]
  exact Clear.append (clear_lit (by decide)) hfleet

/-- **The script of the sessions has one offset**, whatever the window and the fleet. -/
theorem offsets_longSessions (w : Interval) {fleet : String} (h : fleet ∈ fleets)
    (offset threshold : Nat) :
    Finds offsets (paragraphs [longSessions w fleet offset threshold]) [some offset] := by
  have hbreak : Finds offsets "\n\t" [] := finds_offsets (clear_lit (by decide))
  have hevery : Clear offsetMarker "|> aggregateWindow(every: " := clear_lit (by decide)
  have hcount : Clear offsetMarker "s, fn:count, " := clear_lit (by decide)
  have hvalue : Clear offsetMarker "r._value > " := clear_lit (by decide)
  have hbefore := (hevery.append (clear_offset_text longSessionWindow.nanos)).append hcount
  have hline := offsets_offset "s, fn:count, offset: " "s, createEmpty: false)" offset
    (by decide) (by decide) hbefore (clear_lit (by decide))
  refine finds_line ((longSessions w fleet offset threshold).take 6)
    ((longSessions w fleet offset threshold).drop 7) hbreak ?_ hline ?_
  · simp only [longSessions, List.take_succ_cons, List.take_zero, List.forall_mem_cons]
    refine ⟨?_, ?_, ?_, ?_, ?_, ?_, nofun⟩
    · exact finds_offsets (clear_lit (by decide))
    · exact finds_offsets (clear_offset_rangeOf w)
    · exact finds_offsets (clear_offset_filter (clear_offset_fleet h))
    · exact finds_offsets (clear_lit (by decide))
    · exact finds_offsets (clear_lit (by decide))
    · exact finds_offsets (clear_offset_filter (clear_lit (by decide)))
  · simp only [longSessions, List.drop_succ_cons, List.drop_zero, List.forall_mem_cons]
    refine ⟨?_, ?_, nofun⟩
    · exact finds_offsets (clear_offset_filter (hvalue.append (clear_offset_text threshold)))
    · exact finds_offsets (clear_lit (by decide))

end Script

/-! ## The time of day of the start -/

/-- The time of day at which an interval starts, in seconds: what is left of the whole seconds since
1970, rounded down, after whole days. -/
theorem Interval.startSecondOfDay_eq (i : Interval) :
    (i.startSecondOfDay : Int) = i.start / 1000000000 % 86400 := by
  have hnonneg : 0 ≤ i.start / 1000000000 % 86400 := Int.emod_nonneg _ (by decide)
  rw [startSecondOfDay, clockOf, Clock.toSeconds_ofSeconds]
  exact Int.toNat_of_nonneg hnonneg

/-- It is the time of day in the text of the start. -/
theorem Interval.secondOfDay?_startText {i : Interval} (h : Representable i.start) :
    secondOfDay? i.startText.toList = some i.startSecondOfDay := by
  rw [startText, secondOfDay?_timestamp h, startSecondOfDay, clockOf, Clock.toSeconds_ofSeconds]

/-! ## The templates about sessions -/

namespace Template

/-- The templates that count sessions. -/
def CountsSessions (t : Template) : Prop :=
  t = .iot .longDrivingSessions ∨ t = .iot .longDailySessions

/-- A template that counts sessions writes one offset, the time of day at which the interval of its
generator starts. -/
theorem offsets_of_compose {t : Template} {desk desk' : Desk} (ht : t.CountsSessions)
    (h : t.compose.outcome desk = some (.ok (), desk')) :
    offsets desk'.record.body.toList = [some desk.generator.interval.startSecondOfDay] := by
  obtain rfl | rfl := ht
  · obtain ⟨w, s, f, s', _, _, -, -, hf, rfl⟩ := Compose.longDrivingSessions_ok h
    exact (Script.offsets_longSessions w hf _ _).all rfl
  · obtain ⟨w, s, f, s', _, _, -, -, hf, rfl⟩ := Compose.longDailySessions_ok h
    exact (Script.offsets_longSessions w hf _ _).all rfl

/-- **Sessions follow the simulation.**  Take a generator, and let any calls be made on it, with any
windows and whatever their end.  If a template that counts sessions then succeeds, its script has one
offset.  It is the time of day at which the simulated interval of the first generator starts, in
seconds from 0 to 86399: the remainder of the whole seconds since 1970, rounded down, by those of a
day; and it is what the hours, minutes and seconds in the text of the start add up to. -/
theorem offset_of_simulation {g₀ g : Generator} {t : Template} {q : Query} {desk' : Desk}
    (hstart : Representable g₀.interval.start) (hcalls : g₀.CalledFrom g) (ht : t.CountsSessions)
    (h : t.compose.outcome ⟨g, q⟩ = some (.ok (), desk')) :
    ∃ k : Nat, offsets desk'.record.body.toList = [some k]
      ∧ (k : Int) = g₀.interval.start / 1000000000 % 86400 ∧ k < 86400
      ∧ secondOfDay? g₀.interval.startText.toList = some k := by
  have hinterval : g.interval = g₀.interval := congrArg Setting.interval hcalls.setting
  have hoffsets := offsets_of_compose ht h
  have hday := g₀.interval.startSecondOfDay_eq
  rw [hinterval] at hoffsets
  exact ⟨_, hoffsets, hday, by omega, Interval.secondOfDay?_startText hstart⟩

/-- Four hours of driving that can only start at the start of the simulation are found on every
source. -/
theorem longDrivingSessions_of_room {i : Interval} (hstart : Representable i.start)
    (hstop : Representable i.stop) (hroom : i.room? longSessionWindow = some 1) (scale : Nat)
    (source : Lagged) (q : Query) :
    ∃ source' q', (compose (.iot .longDrivingSessions)).outcome ⟨⟨.iot, i, scale, source⟩, q⟩
      = some (.ok (), ⟨⟨.iot, i, scale, source'⟩, q'⟩) := by
  have hw := Interval.outcome_window_of_room_one hstart hstop hroom source
  obtain ⟨f, hf⟩ := Draw.outcome_fleet source.step.2
  have hsessions : ∃ flux, (Compose.longSessions longSessionWindow
      (drivingPeriods 5 longSessionWindow)).outcome ⟨⟨.iot, i, scale, source⟩, q⟩
        = some (.ok flux, ⟨⟨.iot, i, scale, source.step.2.step.2⟩, q⟩) := by
    refine ⟨paragraphs [Script.longSessions ⟨i.start, i.start + longSessionWindow.nanos⟩ f
      i.startSecondOfDay (drivingPeriods 5 longSessionWindow)], ?_⟩
    refine Process.outcome_bind_ok.2 ⟨_, _, Compose.window_ok.2 ⟨_, hw, rfl⟩, ?_⟩
    refine Process.outcome_bind_ok.2 ⟨i, _, Compose.outcome_interval _, ?_⟩
    exact Process.outcome_bind_ok.2 ⟨f, _, Compose.fleet_ok.2 ⟨_, hf, rfl⟩, rfl⟩
  obtain ⟨flux, hflux⟩ := hsessions
  exact ⟨_, _, Process.outcome_bind_ok.2 ⟨flux, _, hflux, rfl⟩⟩

/-- A simulation that starts one and a half seconds before 1970, and the second of two queries. -/
theorem offset_of_simulation_before_1970 :
    ∃ (g₀ g : Generator) (desk' : Desk), g₀.interval = ⟨-1500000000, 14398500000001⟩
      ∧ g₀.CalledFrom g
      ∧ (compose (.iot .longDrivingSessions)).outcome ⟨g, .empty⟩ = some (.ok (), desk')
      ∧ offsets desk'.record.body.toList = [some 86398]
      ∧ secondOfDay? g₀.interval.startText.toList = some 86398 := by
  have hfind := longDrivingSessions_of_room (i := ⟨-1500000000, 14398500000001⟩) (by decide)
    (by decide) (by decide) 1
  obtain ⟨source₁, q₁, h₁⟩ := hfind (.ofSeed 0) .empty
  obtain ⟨source₂, q₂, h₂⟩ := hfind source₁ .empty
  have hcalls := Generator.CalledFrom.template (.iot .longDrivingSessions) .empty .start h₁
  obtain ⟨k, hoffsets, hday, -, htext⟩ := offset_of_simulation (by decide) hcalls (.inl rfl) h₂
  have hk : k = 86398 := by
    change (k : Int) = -1500000000 / 1000000000 % 86400 at hday
    omega
  subst hk
  exact ⟨_, _, _, rfl, hcalls, h₂, hoffsets, htext⟩

end Template

end FluxCorpus
