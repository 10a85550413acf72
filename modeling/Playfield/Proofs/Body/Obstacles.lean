import Playfield.Proofs.Body.Stop

/-!
# Obstacles

Whatever its speed, a body passes none of its obstacles in a step along an axis.

* `InWay`: another body stands in the way of a body, beside its path or on it. `Meets`: the leading
  face comes to the near face of the other one. `Strikes`: it comes into a wall.
* `stationaryStop?_spec`: of the bodies that it meets, a body stops at the first one.
* `destination_spec`: the step ends at the earliest of the two stops, if there are any.
* `along_reach_le_nearFace`, `along_reach_le_nearEdge`: the leading face stays before near faces and
  near edges.
* `no_obstacle_is_passed` is the result. It also says just when a body is stopped.
-/

namespace Playfield

namespace TileMap

variable {m : TileMap Rat} {mask : Option Int} {axis : Axis} {across : List Int}
  {delta face : Rat} {line : Int}

/-- The edge of a line of cells that a face comes to first. -/
def nearEdge (m : TileMap Rat) (delta : Rat) (line : Int) : Rat :=
  if 0.0 < delta then line * m.tileSize else (line + 1 : Int) * m.tileSize

/-- Whether a face has come into a wall is told by its near edge. -/
theorem entered_iff_nearEdge (pos : 0 < m.tileSize) (addressable : m.Addressable)
    (wall : m.Wall mask axis across line) :
    m.Entered delta face line ↔
      if 0.0 < delta then m.nearEdge delta line ≤ face - cellInset
      else face + cellInset < m.nearEdge delta line := by
  have last := wall_lt addressable wall
  have first := wall.first
  unfold Entered nearEdge
  split
  · have least : Word.least < line := Int.lt_of_lt_of_le (by decide) first
    exact ⟨mul_le_of_le_cell pos least, le_cell_of_mul_le pos last.le⟩
  · have least : Word.least < line + 1 := by
      rw [Word.least]
      omega
    refine not_iff_not.1 (Int.not_le.trans (Iff.trans ?_ not_lt.symm))
    exact ⟨mul_le_of_le_cell pos least, le_cell_of_mul_le pos last⟩

/-- A face that has come into a wall is past its near edge. -/
theorem along_nearEdge_le (pos : 0 < m.tileSize) (addressable : m.Addressable)
    (wall : m.Wall mask axis across line) (entered : m.Entered delta face line) :
    along delta (m.nearEdge delta line) ≤ along delta face - cellInset := by
  rw [entered_iff_nearEdge pos addressable wall] at entered
  unfold along
  split at entered <;> simp only [*, if_true, if_false]
  linarith

/-- A face that has not come into a wall is not past its near edge by more than the inset. -/
theorem along_le_nearEdge (pos : 0 < m.tileSize) (addressable : m.Addressable)
    (wall : m.Wall mask axis across line) (outside : ¬m.Entered delta face line) :
    along delta face ≤ along delta (m.nearEdge delta line) + cellInset := by
  rw [entered_iff_nearEdge pos addressable wall] at outside
  unfold along
  split at outside <;> simp only [*, if_true, if_false] <;> linarith

/-- In front of a wall a face is kept before its near edge. -/
theorem along_edgeOf (m : TileMap Rat) (delta : Rat) (line : Int) :
    along delta (m.edgeOf delta line) = along delta (m.nearEdge delta line) - tileGap := by
  unfold along edgeOf nearEdge
  split
  · rfl
  · exact neg_add' (((line + 1 : Int) : Rat) * m.tileSize) tileGap

end TileMap

namespace Body

/-- Another body stands in the way of a body along an axis: it is solid, stands still, has the same
mask, is not attached to it, and overlaps it across the axis. -/
structure InWay {K : Type} [Scalar K] (b other : Body K) (axis : Axis) : Prop where
  solid : other.isSolid = true
  still : other.isStationary = true
  blocks : b.masksBlock other = true
  unattached : b.isAttachedTo other = false
  across : ¬axis.other.of (b.overlap other) ≤ overlapSlack

theorem mayStop_iff {K : Type} [Scalar K] {b other : Body K} {axis : Axis} :
    b.mayStop other axis = true ↔ b.InWay other axis := by
  simp only [mayStop, Bool.and_eq_true, Bool.not_eq_true', decide_eq_false_iff_not]
  constructor
  · rintro ⟨⟨⟨⟨solid, stationary⟩, masks⟩, unattached⟩, across⟩
    exact ⟨solid, stationary, masks, unattached, across⟩
  · rintro ⟨solid, stationary, masks, unattached, across⟩
    exact ⟨⟨⟨⟨solid, stationary⟩, masks⟩, unattached⟩, across⟩

/-- The face of a body that one on its way along an axis comes to first. -/
def nearFace {K : Type} [Scalar K] (other : Body K) (axis : Axis) (delta : K) : K :=
  if 0.0 < delta then axis.of other.min else axis.of other.max

variable {m : TileMap Rat} {map : Option (TileMap Rat)} {b other : Body Rat}
  {others : List (Body Rat)} {axis : Axis} {delta dt c : Rat} {line : Int}

/-- On its way the leading face of a body comes to the near face of another one, which was not
behind it by more than the slack. -/
def Meets (b other : Body Rat) (axis : Axis) (delta : Rat) : Prop :=
  along delta (b.lead axis delta) - overlapSlack ≤ along delta (other.nearFace axis delta) ∧
    along delta (other.nearFace axis delta) < along delta (b.lead axis delta + delta)

/-- On its way the leading face of a body comes into a wall that it had not come into before. -/
def Strikes (b : Body Rat) (m : TileMap Rat) (axis : Axis) (delta : Rat) (line : Int) : Prop :=
  m.Wall b.blockMask axis (m.spanAcross axis b.min b.max) line ∧
    ¬m.Entered delta (b.lead axis delta) line ∧ m.Entered delta (b.lead axis delta + delta) line

/-- Something stops a body on its way. -/
def Stopped (b : Body Rat) (map : Option (TileMap Rat)) (others : List (Body Rat)) (axis : Axis)
    (delta : Rat) : Prop :=
  delta ≠ 0 ∧ ((∃ other ∈ others, b.InWay other axis ∧ b.Meets other axis delta) ∨
    ∃ m line, map = some m ∧ b.Strikes m axis delta line)

/-! ### The first body on the way -/

theorem meeting?_eq_some_iff : b.meeting? other axis delta = some c ↔
    b.Meets other axis delta ∧ b.centreAt axis delta (other.nearFace axis delta) = c := by
  have back (x y : Rat) : -x - overlapSlack ≤ -y ↔ y ≤ x + overlapSlack := by
    constructor <;> intro le <;> linarith
  unfold meeting? Meets along nearFace centreAt
  by_cases forth : 0.0 < delta <;> simp only [forth, if_true, if_false, neg_lt_neg_iff, back]
  all_goals
    split
    · rename_i within
      rw [Option.some.injEq, and_iff_right within]
    · rename_i without
      exact iff_of_false (Option.some_ne_none c).symm fun met => without met.1

theorem along_earlier_le (delta : Rat) (best : Option Rat) (c : Rat) :
    along delta (earlier delta best c) ≤ along delta c ∧
      ∀ c', best = some c' → along delta (earlier delta best c) ≤ along delta c' := by
  unfold earlier along
  cases best with
  | none => exact ⟨le_rfl, fun _ h => nomatch h⟩
  | some c' =>
    by_cases forth : 0.0 < delta <;> by_cases lt : c' < c <;> simp [forth, lt] <;> grind

/-- A fold for the earliest is not later than anything that was offered to it. -/
theorem foldl_earlier_spec {K : Type} [Scalar K] {delta : K} {key : K → Rat}
    (earliest : ∀ best c, key (earlier delta best c) ≤ key c ∧
      ∀ c', best = some c' → key (earlier delta best c) ≤ key c')
    {f : Body K → Option K} {l : List (Body K)} {best : Option K} {c' : K}
    (offered : best = some c' ∨ ∃ other ∈ l, f other = some c') :
    ∃ c, l.foldl (fun best other =>
      match f other with
      | some c => some (earlier delta best c)
      | none => best) best = some c ∧ key c ≤ key c' := by
  induction l generalizing best c' with
  | nil =>
    obtain rfl | ⟨_, mem, _⟩ := offered
    · exact ⟨c', rfl, le_rfl⟩
    · cases mem
  | cons o rest ih =>
    rw [List.foldl_cons]
    cases met : f o with
    | none =>
      refine ih (offered.imp_right fun ⟨other, mem, eq⟩ => ⟨other, ?_, eq⟩)
      refine (List.mem_cons.1 mem).resolve_left fun same => ?_
      rw [same, met] at eq
      cases eq
    | some d =>
      -- The best so far is handed on, and is no later than the new one and the old one.
      obtain ⟨early, old⟩ := earliest best d
      rcases offered with known | ⟨other, mem, eq⟩
      · obtain ⟨c, found, le⟩ := ih (.inl (show some (earlier delta best d) = _ from rfl))
        exact ⟨c, found, le.trans (old c' known)⟩
      · rcases List.mem_cons.1 mem with rfl | mem
        · obtain ⟨c, found, le⟩ := ih (.inl (show some (earlier delta best d) = _ from rfl))
          obtain rfl := Option.some.inj (met.symm.trans eq)
          exact ⟨c, found, le.trans early⟩
        · exact ih (.inr ⟨other, mem, eq⟩)

/-- Of the bodies that it meets in its way, a body stops at the first one. -/
theorem stationaryStop?_spec (solid : b.isSolid = true) (masked : b.blockMask ≠ none)
    (mem : other ∈ others) (inWay : b.InWay other axis) (meets : b.Meets other axis delta) :
    ∃ c, b.stationaryStop? others axis delta = some c ∧
      along delta c ≤ along delta (b.centreAt axis delta (other.nearFace axis delta)) := by
  have acts : ¬(b.blockMask.isNone || !b.isSolid) = true := by
    rw [solid, Option.isNone_eq_false_iff.2 (Option.isSome_iff_ne_none.2 masked)]
    decide
  rw [stationaryStop?, if_neg acts]
  refine foldl_earlier_spec (along_earlier_le delta) (.inr ⟨other, ?_, ?_⟩)
  · exact List.mem_filter.2 ⟨mem, mayStop_iff.2 inWay⟩
  · exact meeting?_eq_some_iff.2 ⟨meets, rfl⟩

/-! ### The earliest stop -/

/-- The centre at which the first wall stops a body. -/
def wallStop? (b : Body Rat) (map : Option (TileMap Rat)) (axis : Axis) (delta : Rat) :
    Option Rat :=
  (map.bind fun m => m.sweep b.blockMask axis b.min b.max delta).map (b.centreAt axis delta)

/-- The centre at which a wall or another body stops a body. -/
def StopsAt (b : Body Rat) (map : Option (TileMap Rat)) (others : List (Body Rat)) (axis : Axis)
    (delta c : Rat) : Prop :=
  b.wallStop? map axis delta = some c ∨ b.stationaryStop? others axis delta = some c

theorem exists_of_wallStop? (stop : b.wallStop? map axis delta = some c) :
    ∃ m edge, map = some m ∧ m.sweep b.blockMask axis b.min b.max delta = some edge ∧
      b.centreAt axis delta edge = c := by
  obtain ⟨edge, found, rfl⟩ := Option.map_eq_some_iff.1 stop
  obtain ⟨m, rfl, found⟩ := Option.bind_eq_some_iff.1 found
  exact ⟨m, edge, rfl, found, rfl⟩

theorem destination_eq (b : Body Rat) (map : Option (TileMap Rat)) (others : List (Body Rat))
    (axis : Axis) (delta : Rat) :
    b.destination map others axis delta =
      match b.wallStop? map axis delta, b.stationaryStop? others axis delta with
      | none, none => (axis.of b.pos + delta, false)
      | wall, some c => (earlier delta wall c, true)
      | some c, none => (c, true) := by
  unfold destination wallStop? centreAt earlier
  simp only
  cases map.bind fun m => m.sweep b.blockMask axis b.min b.max delta with
  | none => cases b.stationaryStop? others axis delta <;> simp
  | some edge =>
    cases b.stationaryStop? others axis delta with
    | none => simp
    | some stop =>
      by_cases forth : 0.0 < delta <;> simp only [forth, if_true, if_false, Option.map_some]
      · rcases lt_trichotomy stop (edge - axis.of b.half) with lt | rfl | gt
        · simp [lt, lt.not_gt]
        · simp
        · simp [gt, gt.not_gt]
      · rcases lt_trichotomy stop (edge + axis.of b.half) with lt | rfl | gt
        · simp [lt.not_gt]
        · simp
        · simp [gt]

/-- A body goes its way to the end if nothing stops it, else to the earliest of its stops. -/
theorem destination_spec (b : Body Rat) (map : Option (TileMap Rat)) (others : List (Body Rat))
    (axis : Axis) (delta : Rat) :
    let d := b.destination map others axis delta
    (d = (axis.of b.pos + delta, false) ∧ ∀ c, ¬b.StopsAt map others axis delta c) ∨
      d.2 = true ∧ b.StopsAt map others axis delta d.1 ∧
        ∀ c, b.StopsAt map others axis delta c → along delta d.1 ≤ along delta c := by
  intro d
  have eq : d = _ := b.destination_eq map others axis delta
  unfold StopsAt
  cases wall : b.wallStop? map axis delta with
  | none =>
    cases stop : b.stationaryStop? others axis delta with
    | none =>
      rw [wall, stop] at eq
      exact .inl ⟨eq, fun c => by simp⟩
    | some c =>
      rw [wall, stop] at eq
      refine .inr ⟨by rw [eq], .inr (by rw [eq]; rfl), fun c' stop => ?_⟩
      obtain rfl := Option.some.inj (stop.resolve_left nofun)
      rw [eq]
      exact (along_earlier_le delta none c).1
  | some w =>
    cases stop : b.stationaryStop? others axis delta with
    | none =>
      rw [wall, stop] at eq
      refine .inr ⟨by rw [eq], .inl (by rw [eq]), fun c' stop => ?_⟩
      obtain rfl := Option.some.inj (stop.resolve_right nofun)
      rw [eq]
    | some c =>
      rw [wall, stop] at eq
      obtain ⟨first, second⟩ := along_earlier_le delta (some w) c
      refine .inr ⟨by rw [eq], ?_, fun c' stop => ?_⟩
      · rw [eq]
        exact (earlier_eq delta (some w) c).symm.imp id (congrArg some ·.symm)
      · rw [eq]
        rcases stop with again | again
        · exact second c' again
        · exact Option.some.inj again ▸ first

/-! ### The leading face -/

theorem lead_stepAxis (moves : ¬(axis.of b.vel * dt == 0.0) = true) :
    (b.stepAxis map others axis dt).lead axis (axis.of b.vel * dt) =
      b.reach map others axis (axis.of b.vel * dt) :=
  leading_eq (box_stepAxis moves).1 (box_stepAxis moves).2.1

theorem along_reach (b : Body Rat) (map : Option (TileMap Rat)) (others : List (Body Rat))
    (axis : Axis) (delta : Rat) : along delta (b.reach map others axis delta) =
      along delta (b.destination map others axis delta).1 + axis.of b.half :=
  along_leadAt

/-- Where a body stops, its leading face is at the near face of a body that it meets, or in front of
a wall that it strikes. -/
theorem face_of_stopsAt (stops : b.StopsAt map others axis delta c) :
    (∃ other ∈ others, b.InWay other axis ∧ b.Meets other axis delta ∧
      along delta c + axis.of b.half = along delta (other.nearFace axis delta)) ∨
    ∃ m line, map = some m ∧ m.Wall b.blockMask axis (m.spanAcross axis b.min b.max) line ∧
      ¬m.Entered delta (b.lead axis delta) line ∧ m.Entered delta (b.lead axis delta + delta) line ∧
      along delta c + axis.of b.half = along delta (m.nearEdge delta line) - tileGap := by
  rcases stops with stop | stop
  · obtain ⟨m, edge, rfl, found, rfl⟩ := exists_of_wallStop? stop
    obtain ⟨line, wall, ahead, entered, rfl, -⟩ := TileMap.first_of_sweep found
    refine .inr ⟨m, line, rfl, wall, ahead, entered, ?_⟩
    rw [along_centreAt, sub_add_cancel, TileMap.along_edgeOf]
  · obtain ⟨other, mem, may, met⟩ := exists_of_stationaryStop? stop
    obtain ⟨meets, rfl⟩ := meeting?_eq_some_iff.1 met
    refine .inl ⟨other, mem, mayStop_iff.1 may, meets, ?_⟩
    rw [along_centreAt, sub_add_cancel]

/-- The leading face never comes beyond the end of its way. -/
theorem along_reach_le_way (sound : ∀ m, map = some m → 0 < m.tileSize ∧ m.Addressable) :
    along delta (b.reach map others axis delta) ≤ along delta (b.lead axis delta + delta) := by
  have inset := cellInset_pos
  have gap := tileGap_pos
  rw [along_reach]
  rcases b.destination_spec map others axis delta with ⟨goes, -⟩ | ⟨-, stops, -⟩
  · rw [goes, along_add, along_add, along_lead]
    exact (add_right_comm ..).le
  · rcases face_of_stopsAt stops with
      ⟨other, -, -, meets, face⟩ | ⟨m, line, rfl, wall, -, entered, face⟩
    · exact face.trans_le meets.2.le
    · obtain ⟨pos, addressable⟩ := sound m rfl
      have := TileMap.along_nearEdge_le pos addressable wall entered
      linarith

/-- The leading face stays before the near face of a body in its way that was not behind it. -/
theorem along_reach_le_nearFace (sound : ∀ m, map = some m → 0 < m.tileSize ∧ m.Addressable)
    (solid : b.isSolid = true) (masked : b.blockMask ≠ none) (mem : other ∈ others)
    (inWay : b.InWay other axis)
    (ahead : along delta (b.lead axis delta) - overlapSlack ≤
      along delta (other.nearFace axis delta)) :
    along delta (b.reach map others axis delta) ≤ along delta (other.nearFace axis delta) := by
  rcases lt_or_ge (along delta (other.nearFace axis delta))
    (along delta (b.lead axis delta + delta)) with within | beyond
  · obtain ⟨c, stop, first⟩ := stationaryStop?_spec solid masked mem inWay ⟨ahead, within⟩
    rcases b.destination_spec map others axis delta with ⟨-, free⟩ | ⟨-, -, earliest⟩
    · exact absurd (.inr stop) (free c)
    · have := earliest c (.inr stop)
      rw [along_centreAt] at first
      rw [along_reach]
      linarith
  · exact (along_reach_le_way sound).trans beyond

/-- The leading face stays before the near edge of a wall that was ahead of it, up to the inset. -/
theorem along_reach_le_nearEdge (sound : ∀ m, map = some m → 0 < m.tileSize ∧ m.Addressable)
    (moves : ¬(delta == 0.0) = true) (map_eq : map = some m)
    (wall : m.Wall b.blockMask axis (m.spanAcross axis b.min b.max) line)
    (ahead : along delta (b.lead axis delta) - cellInset < along delta (m.nearEdge delta line)) :
    along delta (b.reach map others axis delta) ≤
      along delta (m.nearEdge delta line) + cellInset := by
  subst map_eq
  obtain ⟨pos, addressable⟩ := sound m rfl
  refine TileMap.along_le_nearEdge pos addressable wall ?_
  refine not_entered_reach pos addressable moves wall fun entered => ?_
  exact absurd (TileMap.along_nearEdge_le pos addressable wall entered) ahead.not_ge

/-! ### A step along an axis -/

theorem stepAxis_of_clear (moves : ¬(axis.of b.vel * dt == 0.0) = true)
    (free : b.destination map others axis (axis.of b.vel * dt) =
      (axis.of b.pos + axis.of b.vel * dt, false)) :
    b.stepAxis map others axis dt =
      { b with pos := axis.set b.pos (axis.of b.pos + axis.of b.vel * dt) } := by
  rw [stepAxis, if_neg moves, free]
  rfl

theorem vel_stepAxis_of_blocked (moves : ¬(axis.of b.vel * dt == 0.0) = true)
    (blocked : (b.destination map others axis (axis.of b.vel * dt)).2 = true) :
    (b.stepAxis map others axis dt).vel = axis.set b.vel 0 := by
  unfold stepAxis
  simp only [if_neg moves, blocked, if_true]
  norm_num

/-- What stops a body is an obstacle that it meets or strikes. -/
theorem stopped_iff (solid : b.isSolid = true) (masked : b.blockMask ≠ none)
    (moves : ¬(delta == 0.0) = true) :
    b.Stopped map others axis delta ↔ ∃ c, b.StopsAt map others axis delta c := by
  constructor
  · rintro ⟨-, ⟨other, mem, inWay, meets⟩ | ⟨m, line, rfl, wall, outside, entered⟩⟩
    · obtain ⟨c, stop, -⟩ := stationaryStop?_spec solid masked mem inWay meets
      exact ⟨c, .inr stop⟩
    · cases found : m.sweep b.blockMask axis b.min b.max delta with
      | none => exact absurd entered (TileMap.not_entered_of_sweep_none moves wall outside found)
      | some edge => exact ⟨b.centreAt axis delta edge, .inl (congrArg (Option.map _) found :)⟩
  · rintro ⟨c, stops⟩
    refine ⟨fun still => moves (by norm_num [still]), ?_⟩
    rcases face_of_stopsAt stops with
      ⟨other, mem, inWay, meets, -⟩ | ⟨m, line, rfl, wall, ahead, entered, -⟩
    · exact .inl ⟨other, mem, inWay, meets⟩
    · exact .inr ⟨m, line, rfl, wall, ahead, entered⟩

/-- In a step along an axis the leading face of a body passes no obstacle: neither the near face of
a body in its way, nor by more than the inset the near edge of a wall. The body goes all of its way
just if it is stopped by none; else it loses its velocity along the axis and its leading face is at
that near face, or at the gap before that near edge. -/
theorem no_obstacle_is_passed
    (sound : ∀ m, map = some m → 0 < m.tileSize ∧ m.Addressable)
    (solid : b.isSolid = true) (masked : b.blockMask ≠ none) :
    let delta := axis.of b.vel * dt
    let b' := b.stepAxis map others axis dt
    (delta ≠ 0 →
      (∀ other ∈ others, b.InWay other axis →
        along delta (b.lead axis delta) - overlapSlack ≤ along delta (other.nearFace axis delta) →
        along delta (b'.lead axis delta) ≤ along delta (other.nearFace axis delta)) ∧
      ∀ m line, map = some m → m.Wall b.blockMask axis (m.spanAcross axis b.min b.max) line →
        along delta (b.lead axis delta) - cellInset < along delta (m.nearEdge delta line) →
        along delta (b'.lead axis delta) ≤ along delta (m.nearEdge delta line) + cellInset) ∧
    (¬b.Stopped map others axis delta →
      b' = { b with pos := axis.set b.pos (axis.of b.pos + delta) }) ∧
    (b.Stopped map others axis delta → b'.vel = axis.set b.vel 0 ∧
      ((∃ other ∈ others, b.InWay other axis ∧ b.Meets other axis delta ∧
        along delta (b'.lead axis delta) = along delta (other.nearFace axis delta)) ∨
      ∃ m line, map = some m ∧ b.Strikes m axis delta line ∧
        along delta (b'.lead axis delta) = along delta (m.nearEdge delta line) - tileGap)) := by
  intro delta b'
  by_cases still : (delta == 0.0) = true
  · have zero : delta = 0 := by
      rw [beq_iff_eq] at still
      norm_num [still]
    have same : b' = b := if_pos still
    refine ⟨fun ne => absurd zero ne, fun _ => ?_, fun stopped => absurd zero stopped.1⟩
    rw [same, zero, add_zero]
    cases axis <;> rfl
  · have place : b'.lead axis delta = b.reach map others axis delta := lead_stepAxis still
    have iff : b.Stopped map others axis delta ↔ ∃ c, b.StopsAt map others axis delta c :=
      stopped_iff solid masked still
    refine ⟨fun _ => ⟨fun other mem inWay ahead => ?_, fun m line map_eq wall ahead => ?_⟩,
      fun free => ?_, fun stopped => ?_⟩
    · rw [place]
      exact along_reach_le_nearFace sound solid masked mem inWay ahead
    · rw [place]
      exact along_reach_le_nearEdge sound still map_eq wall ahead
    · rcases b.destination_spec map others axis delta with ⟨goes, -⟩ | ⟨-, stops, -⟩
      · exact stepAxis_of_clear still goes
      · exact absurd (iff.2 ⟨_, stops⟩) free
    · obtain ⟨c, stops⟩ := iff.1 stopped
      rcases b.destination_spec map others axis delta with ⟨-, free⟩ | ⟨blocked, stops, -⟩
      · exact absurd stops (free c)
      · refine ⟨vel_stepAxis_of_blocked still blocked, ?_⟩
        rw [place, along_reach]
        rcases face_of_stopsAt stops with
          ⟨other, mem, inWay, meets, face⟩ | ⟨m, line, rfl, wall, ahead, entered, face⟩
        · exact .inl ⟨other, mem, inWay, meets, face⟩
        · exact .inr ⟨m, line, rfl, ⟨wall, ahead, entered⟩, face⟩

open Shaft in
/-- However fast a crate is, it stops at the one in its way. -/
theorem fast_crate_is_stopped :
    let b := crate "c" 15 1000
    let m := row #[1, 0, 0, 0, 0, 1]
    let d := crate "d" 42 0
    let b' := b.stepAxis (some m) [d] .x 1
    b.isSolid = true ∧ b.blockMask ≠ none ∧ b.InWay d .x ∧ b.Meets d .x (1000 * 1) ∧
      along (1000 * 1) (b'.lead .x (1000 * 1)) ≤ along (1000 * 1) (d.nearFace .x (1000 * 1)) ∧
      b'.vel = Axis.x.set b.vel 0 := by
  intro b m d b'
  have inWay : b.InWay d .x := by
    refine ⟨rfl, by cbv, rfl, rfl, ?_⟩
    norm_num [b, d, crate, overlapSlack, Axis.of, Axis.other, overlap, Vec.add, Vec.sub, Vec.abs,
      Scalar.abs]
  have meets : b.Meets d .x (1000 * 1) := by
    constructor <;> norm_num [b, d, along, lead, nearFace, crate, overlapSlack, Axis.of, Body.max,
      Body.min, Vec.add, Vec.sub]
  have sound (m' : TileMap Rat) (same : some m = some m') : 0 < m'.tileSize ∧ m'.Addressable := by
    obtain rfl := Option.some.inj same
    exact ⟨by norm_num [m, row], by decide, by decide⟩
  obtain ⟨passes, -, stops⟩ :=
    @no_obstacle_is_passed (some m) b [d] .x 1 sound rfl (Option.some_ne_none 1)
  refine ⟨rfl, Option.some_ne_none 1, inWay, meets, ?_, ?_⟩
  · exact (passes (by norm_num [b, crate, Axis.of])).1 d List.mem_cons_self inWay meets.1
  · exact (stops ⟨by norm_num [b, crate, Axis.of], .inl ⟨d, List.mem_cons_self, inWay, meets⟩⟩).1

end Body

end Playfield
