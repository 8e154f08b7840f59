import Sensorium.Device.Basic

/-!
# Readings

What the operations of a board do to the gauge of one sensor, and what a reading shows:
the value that the sensor is made to report or else measures, under the number that its
gauge has after the reading.
-/

namespace Sensorium

namespace Sensor

/-- The place of a sensor is its place in the list of all. -/
theorem getElem_all_index (s : Sensor) : all[s.index.val]? = some s := by
  cases s with
  | condition c => cases c <;> rfl
  | _ => rfl

theorem index_inj {s t : Sensor} (h : s.index = t.index) : s = t := by
  have places : some s = some t := by
    rw [← s.getElem_all_index, ← t.getElem_all_index, h]
  exact Option.some.inj places

theorem nodup_all : all.Nodup := by decide

end Sensor

namespace Gauge

/-- The gauge with one measurement more. -/
def counted (gauge : Gauge) : Gauge := { gauge with measurement := gauge.measurement + 1 }

end Gauge

namespace Board

variable (board : Board) (s t : Sensor)

theorem gauge_modify (change : Gauge → Gauge) :
    (board.modify s change).gauge t = if t = s then change (board.gauge s) else board.gauge t := by
  simp only [gauge, modify, Fin.getElem_fin, Vector.getElem_set]
  by_cases h : t = s
  · rw [if_pos h, if_pos (by rw [h])]
  · rw [if_neg h, if_neg]
    intro same
    exact h (Sensor.index_inj (Fin.ext same)).symm

theorem gauge_count :
    (board.count s).gauge t = if t = s then (board.gauge s).counted else board.gauge t :=
  gauge_modify ..

theorem gauge_override (value : Value) :
    (board.override s value).gauge t =
      if t = s then ⟨some value, (board.gauge s).measurement + 1⟩ else board.gauge t :=
  gauge_modify ..

theorem gauge_countAll : board.countAll.gauge t = (board.gauge t).counted := by
  simp only [gauge, countAll, Fin.getElem_fin, Vector.getElem_map, Gauge.counted]

theorem gauge_clear : board.clear.gauge t = { board.gauge t with override := none } := by
  simp only [gauge, clear, Fin.getElem_fin, Vector.getElem_map]

theorem gauge_blank : blank.gauge t = {} := by
  simp only [gauge, blank, Fin.getElem_fin, Vector.getElem_replicate]

end Board

namespace Device

/-- The value that a reading of a sensor has. -/
def shown (d : Device) (sensor : Sensor) : Value :=
  (d.board.override? sensor).getD (d.measured sensor)

/-- The gauge of a sensor after a reading. -/
def gaugeAfter (d : Device) (sensor : Sensor) : Gauge :=
  if d.board.override? sensor = none ∧ d.changing then (d.board.gauge sensor).counted
  else d.board.gauge sensor

/-- What a reading of a sensor gives. -/
def reading (d : Device) (sensor : Sensor) : Reading :=
  ⟨d.shown sensor, (d.gaugeAfter sensor).measurement⟩

/-- The board of a device after readings of some sensors. -/
def BoardAfter (d : Device) (sensors : List Sensor) (board : Board) : Prop :=
  ∀ t, board.gauge t = if t ∈ sensors then d.gaugeAfter t else d.board.gauge t

theorem boardAfter_nil (d : Device) : d.BoardAfter [] d.board := by
  intro t
  rw [if_neg List.not_mem_nil]

theorem boardAfter_self {d : Device} {sensor : Sensor}
    (kept : d.gaugeAfter sensor = d.board.gauge sensor) : d.BoardAfter [sensor] d.board := by
  intro t
  by_cases same : t ∈ [sensor]
  · rw [if_pos same, List.mem_singleton.mp same, kept]
  · rw [if_neg same]

/-- A reading changes nothing but the gauge of its sensor. -/
theorem read_eq (d : Device) (sensor : Sensor) :
    ∃ board, d.BoardAfter [sensor] board ∧
      d.read sensor = ({ d with board }, d.reading sensor) := by
  cases h : d.board.override? sensor with
  | some value =>
    have kept : d.gaugeAfter sensor = d.board.gauge sensor := by simp [gaugeAfter, h]
    exact ⟨d.board, boardAfter_self kept,
      by simp [read, reading, shown, kept, h, Board.measurement]⟩
  | none =>
    cases changing : d.changing with
    | false =>
      have kept : d.gaugeAfter sensor = d.board.gauge sensor := by simp [gaugeAfter, changing]
      exact ⟨d.board, boardAfter_self kept,
        by simp [read, reading, shown, kept, h, changing, Board.measurement]⟩
    | true =>
      have counted : d.gaugeAfter sensor = (d.board.gauge sensor).counted := by
        simp [gaugeAfter, h, changing]
      refine ⟨d.board.count sensor, ?_, ?_⟩
      · intro t
        rw [Board.gauge_count]
        by_cases same : t = sensor
        · rw [if_pos same, if_pos (List.mem_singleton.mpr same), same, counted]
        · rw [if_neg same, if_neg (mt List.mem_singleton.mp same)]
      · simp [read, reading, shown, counted, h, changing, Board.measurement, Board.gauge_count]

/-- A reading of one sensor does not change what a reading of another would give. -/
theorem read_other {d : Device} {sensor t : Sensor} (other : t ≠ sensor) :
    (d.read sensor).1.reading t = d.reading t ∧
      (d.read sensor).1.gaugeAfter t = d.gaugeAfter t := by
  obtain ⟨board, after, read⟩ := d.read_eq sensor
  have same : board.gauge t = d.board.gauge t := by
    rw [after t, if_neg (mt List.mem_singleton.mp other)]
  have gauge : (d.read sensor).1.gaugeAfter t = d.gaugeAfter t := by
    rw [read]
    simp only [gaugeAfter, Board.override?, same]
    rfl
  refine ⟨?_, gauge⟩
  rw [reading, gauge, read, reading, shown, shown, Board.override?, Board.override?, same]
  rfl

end Device

end Sensorium
