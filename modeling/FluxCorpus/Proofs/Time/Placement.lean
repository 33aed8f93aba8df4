import FluxCorpus.Proofs.Random.Unbiased
import FluxCorpus.Proofs.Time.Window

/-!
# Where windows are placed

A window that is drawn is exactly as long as it was asked for, starts anywhere in its interval and
ends before the interval does.  Its start is one long draw away from that of the interval, every
start can come up, and no sum or difference on the way leaves the 64-bit integers.  Windows can be
drawn inside of windows, which never leads out of the first interval.

Windows that do not fit are refused before a word is taken; but so are windows that fit, if they are
longer than 63 bits can tell or have more possible starts than that.  A window without a length fits
everywhere, and is the only one that is empty.

* `Interval.Drawn` — an interval, and the windows that are drawn inside of each other from it on.
* `Interval.Placed`, `Interval.window_ok_iff` — how a window is placed.
* `Interval.window_error` — how it is refused.
* `Interval.window_exact` — **windows are exact, inside, and reach everywhere.**
* `Interval.window_refused_iff` — **which windows are refused**, and `Interval.fitting_window_refused`,
  one of those that would fit.
* `Interval.DrawnBy` — windows inside of each other with their lengths; `Interval.nonempty_iff_lengths`
  — **only a window without a length is empty**, and `Interval.empty_window_drawn`, one of those.
-/

namespace FluxCorpus.Interval

variable {σ : Type} [WordSource σ] {s s' : σ} {i i₀ w : Interval} {d : Duration}

/-! ## Windows inside of windows -/

/-- `i` lies within `i₀`, and has bounds of its own that are representable and in order. -/
structure Within (i i₀ : Interval) : Prop where
  start_le : i₀.start ≤ i.start
  ordered : i.start ≤ i.stop
  stop_le : i.stop ≤ i₀.stop
  start_representable : Representable i.start
  stop_representable : Representable i.stop

/-- The interval `i₀`, the windows that are drawn inside it, those that are drawn inside of these, and
so on; each of them may come from another source and have another length. -/
inductive Drawn (i₀ : Interval) : Interval → Prop
  | whole : Drawn i₀ i₀
  | window {i w : Interval} {d : Duration} {σ : Type} [WordSource σ] {s s' : σ} :
    Drawn i₀ i → (i.window d).outcome s = some (.ok w, s') → Drawn i₀ w

theorem Accepted.within (h : i.Accepted) : i.Within i := by
  obtain ⟨hstart, hstop, hlt⟩ := h.bounds
  exact ⟨le_rfl, hlt.le, le_rfl, hstart, hstop⟩

theorem Within.window (hi : i.Within i₀) (h : i.IsWindow d w) : w.Within i₀ where
  start_le := hi.start_le.trans h.start_le
  ordered := by
    have hlength := h.length
    omega
  stop_le := h.stop_lt.le.trans hi.stop_le
  start_representable := h.start_representable
  stop_representable := h.stop_representable

/-- A chain of windows never leaves the interval in which it starts. -/
theorem Drawn.within (hi₀ : i₀.Accepted) (hi : i₀.Drawn i) : i.Within i₀ := by
  induction hi with
  | whole => exact hi₀.within
  | window _ h ih => exact ih.window (isWindow_of_window h)

/-! ## How a window is placed -/

/-- A window is placed by one long draw, between representable numbers only. -/
structure Placed (i : Interval) (d : Duration) (w : Interval) (s s' : σ) : Prop where
  isWindow : i.IsWindow d w
  length_representable : Representable d.nanos
  latest_representable : Representable (i.stop - d.nanos)
  room_representable : Representable (i.stop - d.nanos - i.start)
  draw : ∃ offset : Nat, w.start = i.start + offset
    ∧ (Draw.longBelow (i.stop - d.nanos - i.start)).outcome s = some (.ok offset, s')

/-- **A window is returned if and only if it is placed so.** -/
theorem window_ok_iff (hi : i.Within i₀) :
    (i.window d).outcome s = some (.ok w, s') ↔ i.Placed d w s s' := by
  constructor
  · intro h
    have hwindow := isWindow_of_window h
    obtain ⟨room, offset, hroom, hdraw, rfl, -, -⟩ := longBelow_of_outcome_window h
    obtain ⟨hlength, hlatest, hrepr, -, heq⟩ := room?_eq_some_iff.1 hroom
    rw [heq] at hdraw
    exact ⟨hwindow, hlength, hlatest, hrepr, offset, rfl, hdraw⟩
  · rintro ⟨hwindow, hlength, hlatest, hrepr, offset, hstart, hdraw⟩
    have hpos := Draw.lt_of_longBelow hdraw
    obtain ⟨room, heq⟩ := Int.eq_ofNat_of_zero_le (a := i.stop - d.nanos - i.start) (by omega)
    have hroom : i.room? d = some room :=
      room?_eq_some_iff.2 ⟨hlength, hlatest, hrepr, by omega, heq.symm⟩
    rw [heq] at hdraw
    rw [outcome_window_of_room hi.start_representable hi.stop_representable hroom hdraw]
    have hw : w = ⟨i.start + offset, i.start + offset + d.nanos⟩ := by
      obtain ⟨start, stop⟩ := w
      have hstop := hwindow.length
      simp only at hstart hstop
      rw [hstop, hstart]
    rw [hw]

/-- A window that is refused takes no word.  There is one reason to refuse it, and if it has room it
can only be missed for want of words. -/
theorem window_error (hi : i.Within i₀) {e : Stop}
    (h : (i.window d).outcome s = some (.error e, s')) :
    i.room? d = none ∧ e = .fault (.windowTooLarge d i.length) ∧ s' = s
      ∨ i.room? d ≠ none ∧ e = .exhausted := by
  cases hroom : i.room? d with
  | none =>
    rw [window, hroom] at h
    cases h
    exact .inl ⟨rfl, rfl, rfl⟩
  | some room =>
    refine .inr ⟨Option.some_ne_none room, ?_⟩
    obtain ⟨-, -, hrepr, hpos, heq⟩ := room?_eq_some_iff.1 hroom
    have hbind := h
    rw [window, hroom, windowAmong] at hbind
    rcases Process.outcome_bind_error.1 hbind with hdraw | ⟨offset, t, hdraw, -⟩
    · have hlt : room < Width.long.range := by
        show room < 9223372036854775808
        omega
      rw [Draw.longBelow, if_neg (by omega)] at hdraw
      exact Draw.eq_exhausted_of_below hpos hlt hdraw
    · rw [outcome_window_of_room hi.start_representable hi.stop_representable hroom hdraw] at h
      cases h

/-- The length of an interval is exact. -/
theorem nanos_length (hi : i.Within i₀) : (i.length.nanos : Int) = i.stop - i.start := by
  have hordered := hi.ordered
  simp only [length]
  omega

/-- A word that is itself below the bound is drawn as it is. -/
theorem longBelow_of_word {x : UInt64} (bound : Nat) (hlt : x.toNat < bound)
    (hbound : bound < 9223372036854775808) (hnext : WordSource.next? s = some (x, s')) :
    (Draw.longBelow bound).outcome s = some (.ok x.toNat, s') := by
  have hread : Width.long.read x = x.toNat := by
    rw [Width.read_long]
    omega
  have hdraw := Draw.below_of_read (w := .long) hbound (by rwa [hread]) hnext
  rwa [hread, ← Draw.bounded_eq_below .long (by omega)] at hdraw

/-- If a window has room, then it can start at every offset. -/
theorem exists_word (hi : i.Within i₀) {room offset : Nat} (hroom : i.room? d = some room)
    (hoffset : offset < room) :
    ∃ x : UInt64, ∀ {σ : Type} [WordSource σ] (s s' : σ), WordSource.next? s = some (x, s') →
      (i.window d).outcome s = some (.ok ⟨i.start + offset, i.start + offset + d.nanos⟩, s') := by
  obtain ⟨-, -, hrepr, -, heq⟩ := room?_eq_some_iff.1 hroom
  have hx : (UInt64.ofNat offset).toNat = offset := UInt64.toNat_ofNat_of_lt' (by
    unfold UInt64.size
    omega)
  refine ⟨UInt64.ofNat offset, ?_⟩
  intro σ _ s s' hnext
  have hdraw := longBelow_of_word room (by omega) (by omega) hnext
  rw [hx] at hdraw
  exact outcome_window_of_room hi.start_representable hi.stop_representable hroom hdraw

/-- **Windows are exact, inside, and reach everywhere.**  Take an interval that is accepted, or a
window that is drawn from it by any chain of windows inside of windows.  It lies within the first
interval.  A further window is returned on a source if and only if it starts at or after the start,
is exactly as long as it was asked for, ends before the end, and starts at the offset of one long draw
on this source, with all numbers representable; nothing but this draw is taken.  If it is refused no
word is taken, and the reason names the two lengths.  If it is returned on any source at all, then
there is for every offset a word that makes it start there. -/
theorem window_exact (hi₀ : i₀.Accepted) (hi : i₀.Drawn i) (d : Duration) :
    (i₀.start ≤ i.start ∧ i.start ≤ i.stop ∧ i.stop ≤ i₀.stop)
      ∧ (∀ {σ : Type} [WordSource σ] (s s' : σ) (w : Interval),
        (i.window d).outcome s = some (.ok w, s') ↔ i.Placed d w s s')
      ∧ (∀ {σ : Type} [WordSource σ] (s s' : σ) (e : Stop),
        (i.window d).outcome s = some (.error e, s') → e ≠ .exhausted →
          e = .fault (.windowTooLarge d i.length) ∧ (i.length.nanos : Int) = i.stop - i.start
            ∧ s' = s)
      ∧ ∀ {τ : Type} [WordSource τ] (t t' : τ) (w : Interval),
        (i.window d).outcome t = some (.ok w, t') →
        ∀ offset : Nat, offset < i.stop - i.start - d.nanos → ∃ x : UInt64,
          ∀ {σ : Type} [WordSource σ] (s s' : σ), WordSource.next? s = some (x, s') →
            (i.window d).outcome s
              = some (.ok ⟨i.start + offset, i.start + offset + d.nanos⟩, s') := by
  have hwithin := hi.within hi₀
  refine ⟨⟨hwithin.start_le, hwithin.ordered, hwithin.stop_le⟩, ?placed, ?refused, ?reached⟩
  case placed =>
    intro σ _ s s' w
    exact window_ok_iff hwithin
  case refused =>
    intro σ _ s s' e h hwords
    rcases window_error hwithin h with ⟨-, he, hs⟩ | ⟨-, he⟩
    · exact ⟨he, nanos_length hwithin, hs⟩
    · exact absurd he hwords
  case reached =>
    intro τ _ t t' w h offset hoffset
    obtain ⟨room, -, hroom, -⟩ := longBelow_of_outcome_window h
    obtain ⟨-, -, -, -, heq⟩ := room?_eq_some_iff.1 hroom
    exact exists_word hwithin hroom (by omega)

/-- A window of four nanoseconds among ten, and one of two nanoseconds inside it. -/
theorem window_exact_nested :
    ∃ w, (window ⟨0, 10⟩ ⟨4⟩).outcome ([3] : List UInt64) = some (.ok w, [])
      ∧ w = ⟨3, 7⟩ ∧ 0 ≤ w.start ∧ w.stop ≤ 10
      ∧ ∃ x : UInt64, (w.window ⟨2⟩).outcome [x] = some (.ok ⟨4, 6⟩, []) := by
  have hi₀ : Accepted ⟨0, 10⟩ := .inr ⟨0, 10, by decide, by decide, rfl⟩
  have hroom : room? ⟨0, 10⟩ ⟨4⟩ = some 6 := by decide
  have hnext : WordSource.next? ([3] : List UInt64) = some (3, []) := rfl
  have hfirst := outcome_window_of_room (by decide) (by decide) hroom
    (longBelow_of_word 6 (by decide) (by decide) hnext)
  have hdrawn : Drawn ⟨0, 10⟩ ⟨3, 7⟩ := .window .whole hfirst
  have hroom' : room? ⟨3, 7⟩ ⟨2⟩ = some 2 := by decide
  have hnext' : WordSource.next? ([0] : List UInt64) = some (0, []) := rfl
  have hsecond := outcome_window_of_room (by decide) (by decide) hroom'
    (longBelow_of_word 2 (by decide) (by decide) hnext')
  obtain ⟨⟨hstart, -, hstop⟩, -, -, hreach⟩ := window_exact hi₀ hdrawn ⟨2⟩
  obtain ⟨x, hx⟩ := hreach _ _ _ hsecond 1 (by decide)
  exact ⟨_, hfirst, rfl, hstart, hstop, x, hx [x] [] rfl⟩

/-! ## Which windows are refused -/

/-- Exactly the windows without room are refused as too large. -/
theorem windowTooLarge_iff (hi : i.Within i₀) :
    (∃ d' l s', (i.window d).outcome s = some (.error (.fault (.windowTooLarge d' l)), s'))
      ↔ i.room? d = none := by
  constructor
  · rintro ⟨d', l, s', h⟩
    rcases window_error hi h with ⟨hroom, -⟩ | ⟨-, he⟩
    · exact hroom
    · cases he
  · intro hroom
    exact ⟨d, i.length, s, by rw [window, hroom]; rfl⟩

/-- **Which windows are refused.**  In an interval between two representable counts of nanoseconds, a
window is refused if it is as long as the interval, but also if its length or the number of its
possible starts is 2^63 or more.  If the interval is shorter than that, only the windows that do not
fit are refused. -/
theorem window_refused_iff {a b : Int} (ha : Representable a) (hb : Representable b)
    (hi : ofNanos a b = .ok i) (d : Duration) {σ : Type} [WordSource σ] (s : σ) :
    ((∃ d' l s', (i.window d).outcome s = some (.error (.fault (.windowTooLarge d' l)), s')) ↔
      i.stop - i.start ≤ d.nanos ∨ 9223372036854775808 ≤ d.nanos
        ∨ 9223372036854775808 ≤ i.stop - i.start - d.nanos)
      ∧ (i.stop - i.start < 9223372036854775808 →
        ((∃ d' l s', (i.window d).outcome s = some (.error (.fault (.windowTooLarge d' l)), s')) ↔
          i.stop - i.start ≤ d.nanos)) := by
  have hwithin : i.Within i := Accepted.within (.inr ⟨a, b, ha, hb, hi⟩)
  rw [windowTooLarge_iff hwithin,
    room?_eq_none hwithin.start_representable hwithin.stop_representable]
  refine ⟨Iff.rfl, fun hlength => ?_⟩
  omega

/-- In an interval of ten nanoseconds, a window of ten is refused. -/
theorem window_refused_iff_ten :
    ofNanos 0 10 = .ok ⟨0, 10⟩
      ∧ ∃ d' l s', (window ⟨0, 10⟩ ⟨10⟩).outcome ([3] : List UInt64)
        = some (.error (.fault (.windowTooLarge d' l)), s') := by
  have hi : ofNanos 0 10 = .ok ⟨0, 10⟩ := rfl
  exact ⟨hi, (window_refused_iff (by decide) (by decide) hi ⟨10⟩ _).1.2 (.inl (by decide))⟩

/-- Not only windows that do not fit are refused: in the longest interval of all, a window of 2^63
nanoseconds is refused although it is shorter. -/
theorem fitting_window_refused :
    ∃ i, ofNanos (-9223372036854775808) 9223372036854775807 = .ok i
      ∧ ((⟨9223372036854775808⟩ : Duration).nanos : Int) < i.stop - i.start
      ∧ ∀ {σ : Type} [WordSource σ] (s : σ), (i.window ⟨9223372036854775808⟩).outcome s
        = some (.error (.fault (.windowTooLarge ⟨9223372036854775808⟩ ⟨18446744073709551615⟩)), s) := by
  have hi : ofNanos (-9223372036854775808) 9223372036854775807
      = .ok ⟨-9223372036854775808, 9223372036854775807⟩ := rfl
  have hroom : room? ⟨-9223372036854775808, 9223372036854775807⟩ ⟨9223372036854775808⟩ = none :=
    (room?_eq_none (by decide) (by decide)).2 (.inr (.inl (by decide)))
  refine ⟨_, hi, by decide, ?_⟩
  intro σ _ s
  rw [window, hroom]
  rfl

/-! ## Which windows are empty -/

/-- Windows that are drawn inside of each other from `i₀` on, with their lengths, the last one
first. -/
inductive DrawnBy (i₀ : Interval) : List Duration → Interval → Prop
  | whole : DrawnBy i₀ [] i₀
  | window {i w : Interval} {d : Duration} {ds : List Duration} {σ : Type} [WordSource σ] {s s' : σ} :
    DrawnBy i₀ ds i → (i.window d).outcome s = some (.ok w, s') → DrawnBy i₀ (d :: ds) w

theorem DrawnBy.drawn {ds : List Duration} (h : i₀.DrawnBy ds i) : i₀.Drawn i := by
  induction h with
  | whole => exact .whole
  | window _ h ih => exact .window ih h

/-- A window has a length if it was asked for one.  The interval around it cannot be empty. -/
theorem IsWindow.start_lt_stop_iff (h : i.IsWindow d w) :
    i.start < i.stop ∧ (w.start < w.stop ↔ 0 < d.nanos) := by
  obtain ⟨hstart, hlength, hstop, -, -⟩ := h
  omega

/-- The windows of a chain are not empty as long as they are asked for with a length. -/
theorem DrawnBy.start_lt_stop_iff {ds : List Duration} (hi₀ : i₀.Accepted) (hi : i₀.DrawnBy ds i) :
    i.start < i.stop ↔ ∀ d ∈ ds, 0 < d.nanos := by
  induction hi with
  | whole =>
    obtain ⟨-, -, hnonempty⟩ := hi₀.bounds
    simpa using hnonempty
  | window _ h ih =>
    obtain ⟨houter, hinner⟩ := (isWindow_of_window h).start_lt_stop_iff
    rw [hinner, List.forall_mem_cons]
    exact ⟨fun hd => ⟨hd, ih.1 houter⟩, And.left⟩

/-- A window without a length can start at every nanosecond. -/
theorem exists_word_empty (hi : i.Within i₀) (hlength : i.stop - i.start < 9223372036854775808)
    {offset : Nat} (hoffset : offset < i.stop - i.start) :
    ∃ x : UInt64, ∀ {σ : Type} [WordSource σ] (s s' : σ), WordSource.next? s = some (x, s') →
      (i.window ⟨0⟩).outcome s = some (.ok ⟨i.start + offset, i.start + offset⟩, s') := by
  have hstop := hi.stop_representable
  have hroom : i.room? ⟨0⟩ = some (i.stop - i.start).toNat :=
    room?_eq_some_iff.2 ⟨by decide, by simpa using hstop, by simp; omega, by omega, by simp; omega⟩
  have hlt : offset < (i.stop - i.start).toNat := by omega
  simpa using exists_word hi hroom hlt

/-- **Only a window without a length is empty.**  An interval that is accepted is not empty, and a
window that is drawn from it by a chain of windows inside of windows is not empty if and only if all
of them were asked for with a length.  Only the last one can have none, since nothing fits into an
empty window.  And an interval that is not empty has an empty window at every nanosecond, if it is
shorter than 2^63 nanoseconds. -/
theorem nonempty_iff_lengths {ds : List Duration} (hi₀ : i₀.Accepted) (hi : i₀.DrawnBy ds i) :
    i₀.start < i₀.stop ∧ i.start ≤ i.stop
      ∧ (i.start < i.stop ↔ ∀ d ∈ ds, 0 < d.nanos)
      ∧ (∀ d ∈ ds.tail, 0 < d.nanos)
      ∧ (i.stop - i.start < 9223372036854775808 →
        ∀ offset : Nat, offset < i.stop - i.start → ∃ x : UInt64,
          ∀ {σ : Type} [WordSource σ] (s s' : σ), WordSource.next? s = some (x, s') →
            (i.window ⟨0⟩).outcome s = some (.ok ⟨i.start + offset, i.start + offset⟩, s')) := by
  have hwithin := hi.drawn.within hi₀
  obtain ⟨-, -, hnonempty⟩ := hi₀.bounds
  refine ⟨hnonempty, hwithin.ordered, hi.start_lt_stop_iff hi₀, ?earlier, ?empty⟩
  case earlier =>
    cases hi with
    | whole => simp
    | window hi h =>
      obtain ⟨houter, -⟩ := (isWindow_of_window h).start_lt_stop_iff
      exact (hi.start_lt_stop_iff hi₀).1 houter
  case empty =>
    intro hlength offset hoffset
    exact exists_word_empty hwithin hlength hoffset

/-- A window of four nanoseconds among ten, and an empty one inside it. -/
theorem nonempty_iff_lengths_two :
    ∃ i, Accepted ⟨0, 10⟩ ∧ DrawnBy ⟨0, 10⟩ [⟨0⟩, ⟨4⟩] i ∧ i.start ≤ i.stop ∧ ¬ i.start < i.stop := by
  have hi₀ : Accepted ⟨0, 10⟩ := .inr ⟨0, 10, by decide, by decide, rfl⟩
  have hfirst := outcome_window_of_room (i := ⟨0, 10⟩) (d := ⟨4⟩) (by decide) (by decide) (by decide)
    (longBelow_of_word (s := ([3] : List UInt64)) 6 (by decide) (by decide) rfl)
  have hsecond := outcome_window_of_room (i := ⟨3, 7⟩) (d := ⟨0⟩) (by decide) (by decide) (by decide)
    (longBelow_of_word (s := ([2] : List UInt64)) 4 (by decide) (by decide) rfl)
  have hi := DrawnBy.window (.window .whole hfirst) hsecond
  obtain ⟨-, hle, hlengths, -⟩ := nonempty_iff_lengths hi₀ hi
  exact ⟨_, hi₀, hi, hle, hlengths.not.2 (by decide)⟩

/-- An interval of ten nanoseconds has empty windows: one that starts behind three of them. -/
theorem empty_window_drawn :
    ofNanos 0 10 = .ok ⟨0, 10⟩
      ∧ (window ⟨0, 10⟩ ⟨0⟩).outcome ([3] : List UInt64) = some (.ok ⟨3, 3⟩, [])
      ∧ ¬ (⟨3, 3⟩ : Interval).start < (⟨3, 3⟩ : Interval).stop := by
  have hwindow := outcome_window_of_room (i := ⟨0, 10⟩) (d := ⟨0⟩) (by decide) (by decide)
    (by decide) (longBelow_of_word (s := ([3] : List UInt64)) 10 (by decide) (by decide) rfl)
  exact ⟨rfl, hwindow, by decide⟩

end FluxCorpus.Interval
