import FluxCorpus.Proofs.Random.Bounded
import FluxCorpus.Proofs.Time.Timestamp
import FluxCorpus.Time.Interval

/-!
# Windows lie inside, also as text

A window that is drawn has the length that was asked for and ends before the interval does.  Its
bounds are written to the second, each rounded down by itself; still the texts are as far apart as
the window is long, up to less than a second, and do not leave the interval.

* `Interval.ofNanos_ok`, `Interval.ofInstants_ok` — which bounds are those of an interval, and
  `Interval.Accepted` what either way of making one has seen to.
* `Interval.room?_eq_some_iff`, `Interval.room?_eq_none` — which windows have room.
* `Interval.IsWindow` — a window of a length, strictly inside an interval.
* `Interval.outcome_window_of_room`, `Interval.longBelow_of_outcome_window` — a window takes one long
  draw, if it has a place.
* `Interval.isWindow_of_window` — every window that is drawn lies inside.
* `Interval.Spans` — two texts denote seconds that bound a window of a length.
* `Interval.IsWindow.spans` — the texts of a window do.
-/

namespace FluxCorpus.Interval

/-! ## Intervals -/

theorem ofNanos_ok {a b : Int} {i : Interval} : ofNanos a b = .ok i ↔ a < b ∧ i = ⟨a, b⟩ := by
  by_cases h : b ≤ a
  · simp [ofNanos, h, throw, throwThe, MonadExceptOf.throw]
  · simp [ofNanos, h, pure, Except.pure, eq_comm]
    omega

/-- The bounds of an interval are looked at in their order, and then held against each other. -/
theorem ofInstants_eq (a b : Instant) : ofInstants a b =
    if Representable a.unixNanos then
      if Representable b.unixNanos then ofNanos a.unixNanos b.unixNanos
      else .error (.timestampOutOfRange b.render)
    else .error (.timestampOutOfRange a.render) := by
  unfold ofInstants representableNanos
  split
  · split <;> rfl
  · rfl

/-- Two instants bound an interval if both are representable and the second one is later. -/
theorem ofInstants_ok {a b : Instant} {i : Interval} :
    ofInstants a b = .ok i ↔ Representable a.unixNanos ∧ Representable b.unixNanos
      ∧ a.unixNanos < b.unixNanos ∧ i = ⟨a.unixNanos, b.unixNanos⟩ := by
  rw [ofInstants_eq]
  split_ifs with ha hb
  · rw [ofNanos_ok]
    exact ⟨fun h => ⟨ha, hb, h⟩, fun h => h.2.2⟩
  · exact ⟨nofun, fun h => absurd h.2.1 hb⟩
  · exact ⟨nofun, fun h => absurd h.1 ha⟩

/-- An interval between two instants, or between two representable counts of nanoseconds. -/
def Accepted (i : Interval) : Prop :=
  (∃ a b, ofInstants a b = .ok i)
    ∨ ∃ a b, Representable a ∧ Representable b ∧ ofNanos a b = .ok i

theorem Accepted.bounds {i : Interval} (h : i.Accepted) :
    Representable i.start ∧ Representable i.stop ∧ i.start < i.stop := by
  rcases h with ⟨a, b, h⟩ | ⟨a, b, ha, hb, h⟩
  · obtain ⟨ha, hb, hlt, rfl⟩ := ofInstants_ok.1 h
    exact ⟨ha, hb, hlt⟩
  · obtain ⟨hlt, rfl⟩ := ofNanos_ok.1 h
    exact ⟨ha, hb, hlt⟩

/-! ## Windows -/

/-- `w` is a window of length `d` that starts inside `i` and ends before `i` does. -/
structure IsWindow (i : Interval) (d : Duration) (w : Interval) : Prop where
  start_le : i.start ≤ w.start
  length : w.stop = w.start + d.nanos
  stop_lt : w.stop < i.stop
  start_representable : Representable w.start
  stop_representable : Representable w.stop

variable {σ : Type} {s s' : σ} {i w : Interval} {d : Duration}

/-- A window has room if all numbers on the way are representable, and it has a start at all. -/
theorem room?_eq_some_iff {room : Nat} : i.room? d = some room ↔
    Representable d.nanos ∧ Representable (i.stop - d.nanos)
      ∧ Representable (i.stop - d.nanos - i.start)
      ∧ 0 < room ∧ (room : Int) = i.stop - d.nanos - i.start := by
  unfold room?
  dsimp only
  rw [Option.ite_none_right_eq_some, Option.some.injEq]
  omega

/-- A window has no room if it does not fit, or if its length or its room is no number of 63 bits. -/
theorem room?_eq_none (hstart : Representable i.start) (hstop : Representable i.stop) :
    i.room? d = none ↔ i.stop - i.start ≤ d.nanos ∨ 9223372036854775808 ≤ d.nanos
      ∨ 9223372036854775808 ≤ i.stop - i.start - d.nanos := by
  unfold room?
  dsimp only
  rw [ite_eq_right_iff]
  constructor
  · intro h
    by_contra hfits
    have hroom := h ⟨by omega, by omega, by omega, by omega⟩
    cases hroom
  · intro hlarge hroom
    omega

/-- In a proper interval of at most 63 bits, exactly the shorter windows have a place. -/
theorem room?_eq_none_iff (hstart : Representable i.start) (hstop : Representable i.stop)
    (hlt : i.start < i.stop) (hlen : i.stop - i.start < 9223372036854775808) :
    i.room? d = none ↔ i.stop - i.start ≤ d.nanos := by
  rw [room?_eq_none hstart hstop]
  omega

theorem sum_ok {a b c : Int} (h : (sum a b : Draw σ Int).outcome s = some (.ok c, s')) :
    c = a + b ∧ Representable c ∧ s' = s := by
  rw [sum] at h
  split at h
  · next hsum =>
    cases h
    exact ⟨rfl, hsum, rfl⟩
  · cases h

/-- A window that is drawn takes one long draw, which says where it starts. -/
theorem longBelow_of_outcome_window [WordSource σ]
    (h : (i.window d).outcome s = some (.ok w, s')) :
    ∃ room offset : Nat, i.room? d = some room
      ∧ (Draw.longBelow room).outcome s = some (.ok offset, s')
      ∧ w = ⟨i.start + offset, i.start + offset + d.nanos⟩
      ∧ Representable w.start ∧ Representable w.stop := by
  rw [window] at h
  cases hroom : i.room? d with
  | none =>
    rw [hroom] at h
    cases h
  | some room =>
    rw [hroom] at h
    obtain ⟨offset, s₁, hoffset, h⟩ := Process.outcome_bind_ok.1 h
    obtain ⟨start, s₂, hsum, h⟩ := Process.outcome_bind_ok.1 h
    obtain ⟨stop, s₃, hsum', h⟩ := Process.outcome_bind_ok.1 h
    cases h
    obtain ⟨rfl, hstart, rfl⟩ := sum_ok hsum
    obtain ⟨rfl, hstop, rfl⟩ := sum_ok hsum'
    exact ⟨room, offset, rfl, hoffset, rfl, hstart, hstop⟩

/-- **Every window that is drawn lies inside the interval.** -/
theorem isWindow_of_window [WordSource σ]
    (h : (i.window d).outcome s = some (.ok w, s')) : i.IsWindow d w := by
  obtain ⟨room, offset, hroom, hoffset, rfl, hstart, hstop⟩ := longBelow_of_outcome_window h
  obtain ⟨-, -, -, -, hlen⟩ := room?_eq_some_iff.1 hroom
  have hlt := Draw.lt_of_longBelow hoffset
  refine ⟨?_, rfl, ?_, hstart, hstop⟩
  · show i.start ≤ i.start + offset
    omega
  · show i.start + offset + d.nanos < i.stop
    omega

/-- A window that has a place starts at the offset that is drawn. -/
theorem outcome_window_of_room [WordSource σ] {room offset : Nat} (hstart : Representable i.start)
    (hstop : Representable i.stop) (hroom : i.room? d = some room)
    (hoffset : (Draw.longBelow room).outcome s = some (.ok offset, s')) :
    (i.window d).outcome s
      = some (.ok ⟨i.start + offset, i.start + offset + d.nanos⟩, s') := by
  obtain ⟨-, -, -, hpos, hlen⟩ := room?_eq_some_iff.1 hroom
  have hlt := Draw.lt_of_longBelow hoffset
  have hsum : (sum i.start offset : Draw σ Int) = pure (i.start + offset) := by
    rw [sum, if_pos (by omega)]
  have hsum' : (sum (i.start + offset) d.nanos : Draw σ Int)
      = pure (i.start + offset + d.nanos) := by
    rw [sum, if_pos (by omega)]
  rw [window, hroom, windowAmong, Process.outcome_bind, hoffset]
  dsimp only
  rw [hsum, pure_bind, hsum', pure_bind, Process.outcome_pure]

/-- A window is refused if it has no place, and on an endless source for no other reason. -/
theorem outcome_window_error [WordSource σ] [WordSource.Endless σ] {e : Stop}
    (hstart : Representable i.start) (hstop : Representable i.stop)
    (h : (i.window d).outcome s = some (.error e, s')) :
    i.room? d = none ∧ e = .fault (.windowTooLarge d i.length) := by
  cases hroom : i.room? d with
  | none =>
    rw [window, hroom] at h
    cases h
    exact ⟨rfl, rfl⟩
  | some room =>
    obtain ⟨-, -, -, hpos, -⟩ := room?_eq_some_iff.1 hroom
    have hbind := h
    rw [window, hroom] at hbind
    obtain herror | ⟨offset, s₁, hoffset, -⟩ := Process.outcome_bind_error.1 hbind
    · exact absurd herror (Draw.neverStops_longBelow (by omega) s e s')
    · rw [outcome_window_of_room hstart hstop hroom hoffset] at h
      cases h

/-- A window that fits in one place only starts where the interval does. -/
theorem outcome_window_of_room_one (hstart : Representable i.start) (hstop : Representable i.stop)
    (h : i.room? d = some 1) (g : Lagged) :
    (i.window d).outcome g = some (.ok ⟨i.start, i.start + d.nanos⟩, g.step.2) := by
  have hwindow := outcome_window_of_room hstart hstop h (Draw.outcome_longBelow_one g)
  rwa [Int.natCast_zero, Int.add_zero] at hwindow

/-! ## Their text -/

/-- Two texts denote seconds `s` and `e` that do not leave the seconds of `i`.  They are as far apart
as `d` is long, up to less than a second, and exactly so if `d` has only whole seconds. -/
def Spans (i : Interval) (d : Duration) (startText stopText : String) : Prop :=
  ∃ s e : Int, readSecond? startText.toList = some s ∧ readSecond? stopText.toList = some e
    ∧ i.start / 1000000000 ≤ s ∧ e ≤ i.stop / 1000000000
    ∧ d.nanos / 1000000000 ≤ e - s ∧ e - s ≤ (d.nanos + 999999999) / 1000000000
    ∧ (d.nanos % 1000000000 = 0 → (e - s) * 1000000000 = d.nanos)

/-- The texts of a window span it. -/
theorem IsWindow.spans (h : i.IsWindow d w) : i.Spans d w.startText w.stopText := by
  obtain ⟨hstart, hlength, hstop, hrepr, hrepr'⟩ := h
  refine ⟨w.start / 1000000000, w.stop / 1000000000, readSecond?_timestamp hrepr,
    readSecond?_timestamp hrepr', ?_, ?_, ?_, ?_, ?_⟩
  · omega
  · omega
  · omega
  · omega
  · intro hwhole
    omega

end FluxCorpus.Interval
