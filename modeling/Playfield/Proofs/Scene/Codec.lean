import Playfield.Proofs.Json.Decode
import Playfield.Scene.Codec

/-!
# Scene documents are read again

For each part of a scene, what was read from an ordinary draft is read again from what is written
for it. The parts follow the order of their decoders.

* `FieldValue.reads`: numbers may change their kind when they are read, but never a second time.
* `Condition.reads`: the variants of conditions, each by its tag.
* `TileDef.reads_all`: definitions are named by numbers, which `idOfName?_toString` reads again.
* `Scene.reads` joins the parts. A section that is left out is read again as its default.
-/

namespace Playfield

variable {K : Type} [Scalar K]

open Decoder Members

/-! ### Names -/

theorem Phase.ofName?_name (p : Phase) : ofName? p.name = some p := by
  cases p <;> rfl

theorem CollisionKind.ofName?_name (k : CollisionKind) : ofName? k.name = some k := by
  cases k <;> rfl

theorem FieldType.ofName?_name (t : FieldType) : ofName? t.name = some t := by
  cases t <;> rfl

theorem RoleKind.ofName?_name (k : RoleKind) : ofName? k.name = some k := by
  cases k <;> rfl

theorem LoopMode.ofName?_name (m : LoopMode) : ofName? m.name = some m := by
  cases m <;> rfl

/-! ### Fields -/

mutual
theorem FieldValue.decode_again [Scalar.Regular K] {x : Draft K} {v : FieldValue K}
    (ord : x.Ordinary) (h : decode x = some v) : decode v.toJson.toDraft = some v := by
  cases x with
  | int n =>
    obtain ⟨least, greatest⟩ : Word.least ≤ n ∧ n ≤ Word.greatestUnsigned := by
      cases ord with
      | int least greatest => exact ⟨least, greatest⟩
    cases h
    split
    · -- A word stays an integer.
      rename_i word
      exact congrArg some (if_pos word)
    · -- Past the greatest word an integer was read as a scalar, and stays one.
      rw [toJson, Json.scalar, if_pos (Scalar.Regular.word n least greatest)]
      rfl
  | real y =>
    cases ord with
    | real finite =>
      cases h
      rw [toJson, Json.scalar, if_pos finite]
      rfl
  | arr items =>
    cases ord with
    | arr all =>
      obtain ⟨vs, read, rfl⟩ := Option.map_eq_some_iff.1 h
      rw [toJson, Json.toDraft, decode, FieldValue.decodeItems_again all read]
      rfl
  | bool b | str s =>
    cases h
    rfl
  | _ => cases h

theorem FieldValue.decodeItems_again [Scalar.Regular K] {l : List (Draft K)}
    {vs : List (FieldValue K)} (ord : ∀ x ∈ l, x.Ordinary) (h : decodeItems l = some vs) :
    decodeItems (Json.itemsToDraft (itemsToJson vs)) = some vs := by
  cases l with
  | nil =>
    cases h
    rfl
  | cons x rest =>
    obtain ⟨first, later⟩ := List.forall_mem_cons.1 ord
    simp only [decodeItems, ↓bind_eq_some_iff] at h
    obtain ⟨v, head, vs', tail, same⟩ := h
    cases same
    rw [itemsToJson, Json.itemsToDraft, decodeItems, FieldValue.decode_again first head,
      FieldValue.decodeItems_again later tail]
    rfl
end

theorem FieldValue.reads [Scalar.Regular K] :
    Reads (K := K) FieldValue.decode FieldValue.toJson where
  again ord h := decode_again ord h
  null {x v} ord h null := by
    have again := decode_again ord h
    rw [null] at again
    cases again

theorem Fields.reads [Scalar.Regular K] : Reads (K := K) Fields.decode Fields.toJson :=
  FieldValue.reads.table

/-! ### Rules -/

theorem PhysicsFlags.reads : Reads (K := K) PhysicsFlags.decode PhysicsFlags.toJson := by
  refine .of_record (fun _ => by simp) fun {ms p} ord h => ?_
  simp only [↓bind_eq_some_iff, Option.pure_def, Option.some.injEq] at h
  obtain ⟨_, enabled, _, dynamic, _, collidable, rfl⟩ := h
  exact bind_again (member_again reads_bool rfl ord enabled rfl) <|
    bind_again (member_again reads_bool rfl ord dynamic rfl) <|
    bind_again (member_again reads_bool rfl ord collidable rfl) rfl

theorem Selector.reads : Reads (K := K) Selector.decode Selector.toJson := by
  refine .of_record (fun _ => by simp) fun {ms s} ord h => ?_
  simp only [↓bind_eq_some_iff, Option.pure_def, Option.some.injEq] at h
  obtain ⟨_, type, _, uid, rfl⟩ := h
  exact bind_again (optional_again reads_text ord type rfl) <|
    bind_again (optional_again reads_text ord uid rfl) rfl

theorem Phase.member_again {ms : Members K} {l : List (String × Json K)} {buffered : Bool}
    {p : Phase} (ord : ms.Ordinary) (h : Phase.member ms buffered = some p)
    (found : l.lookup "phase" = some (.str p.name)) : Phase.member (.ofJson l) buffered = some p :=
  Members.member_again (reads_named buffered Phase.ofName?_name) rfl ord h found

theorem Condition.reads : Reads (K := K) Condition.decode Condition.toJson := by
  refine .of_ne_null (fun c => by cases c <;> nofun) fun {x c} ord h => ?_
  obtain ⟨tag, y, ord, h⟩ := variant_of_tagged ord h
  unfold decodeVariant at h
  split at h <;>
    simp only [↓bind_eq_some_iff, Option.pure_def, Option.some.injEq, reduceCtorEq] at h
  · obtain ⟨ms, members, _, key, _, phase, rfl⟩ := h
    have ord := ordinary_of_record ord members
    exact tagged_again rfl (by simp) <| bind_again (required_again reads_text ord key rfl) <|
      bind_again (Phase.member_again ord phase rfl) rfl
  · obtain ⟨ms, members, _, button, _, phase, rfl⟩ := h
    have ord := ordinary_of_record ord members
    exact tagged_again rfl (by simp) <| bind_again (required_again reads_text ord button rfl) <|
      bind_again (Phase.member_again ord phase rfl) rfl
  · obtain ⟨ms, members, _, a, _, b, _, kind, _, phase, rfl⟩ := h
    have ord := ordinary_of_record ord members
    exact tagged_again rfl (by simp) <| bind_again (required_again Selector.reads ord a rfl) <|
      bind_again (required_again Selector.reads ord b rfl) <|
      bind_again (optional_again (reads_named true CollisionKind.ofName?_name) ord kind rfl) <|
      bind_again (Phase.member_again ord phase rfl) rfl
  · obtain ⟨ms, members, _, predicate, _, type, _, phase, rfl⟩ := h
    have ord := ordinary_of_record ord members
    exact tagged_again rfl (by simp) <| bind_again (required_again reads_text ord predicate rfl) <|
      bind_again (optional_again reads_text ord type rfl) <|
      bind_again (Phase.member_again ord phase rfl) rfl
  · obtain ⟨ms, members, _, name, _, phase, rfl⟩ := h
    have ord := ordinary_of_record ord members
    exact tagged_again rfl (by simp) <| bind_again (required_again reads_text ord name rfl) <|
      bind_again (Phase.member_again ord phase rfl) rfl
  · obtain ⟨ms, members, _, name, _, phase, rfl⟩ := h
    have ord := ordinary_of_record ord members
    exact tagged_again rfl (by simp) <| bind_again (required_again reads_text ord name rfl) <|
      bind_again (Phase.member_again ord phase rfl) rfl

theorem Rule.reads : Reads (K := K) Rule.decode Rule.toJson := by
  refine .of_record (fun _ => by simp) fun {ms r} ord h => ?_
  simp only [↓bind_eq_some_iff, Option.pure_def, Option.some.injEq] at h
  obtain ⟨_, condition, _, action, rfl⟩ := h
  exact bind_again (required_again Condition.reads ord condition rfl) <|
    bind_again (required_again reads_text ord action rfl) rfl

/-! ### Settings, actors and roles -/

theorem Surface.reads [Scalar.Regular K] : Reads (K := K) Surface.decode Surface.toJson := by
  refine .of_record (fun _ => by simp) fun {ms s} ord h => ?_
  simp only [↓bind_eq_some_iff, Option.pure_def, Option.some.injEq] at h
  obtain ⟨_, width, _, height, rfl⟩ := h
  exact bind_again (required_again reads_scalar ord width rfl) <|
    bind_again (required_again reads_scalar ord height rfl) rfl

theorem WorldSettings.reads [Scalar.Regular K] :
    Reads (K := K) WorldSettings.decode WorldSettings.toJson := by
  refine .of_record (fun _ => by simp) fun {ms w} ord h => ?_
  simp only [↓bind_eq_some_iff, Option.pure_def, Option.some.injEq] at h
  obtain ⟨_, width, _, height, _, gravity, _, gravityEnabled, _, surface, rfl⟩ := h
  exact bind_again (optional_again reads_scalar ord width rfl) <|
    bind_again (optional_again reads_scalar ord height rfl) <|
    bind_again (member_again reads_scalar zero_again ord gravity rfl) <|
    bind_again (member_again reads_bool rfl ord gravityEnabled rfl) <|
    bind_again (optional_again Surface.reads ord surface rfl) rfl

theorem Template.reads [Scalar.Regular K] : Reads (K := K) Template.decode Template.toJson := by
  refine .of_record (fun _ => by simp) fun {ms t} ord h => ?_
  simp only [↓bind_eq_some_iff, Option.pure_def, Option.some.injEq] at h
  obtain ⟨_, width, _, height, _, layer, _, blockMask, _, sprite, _, symbol, _, physics, _,
    fields, _, animations, rfl⟩ := h
  exact bind_again (member_again reads_scalar edge_again ord width rfl) <|
    bind_again (member_again reads_scalar edge_again ord height rfl) <|
    bind_again (member_again (reads_int _ _) rfl ord layer rfl) <|
    bind_again (optional_again (reads_int _ _) ord blockMask rfl) <|
    bind_again (optional_again reads_text ord sprite rfl) <|
    bind_again (optional_again reads_char ord symbol rfl) <|
    bind_again (member_again PhysicsFlags.reads rfl ord physics rfl) <|
    bind_again (member_again Fields.reads rfl ord fields rfl) <|
    bind_again (member_again reads_text.table rfl ord animations rfl) rfl

theorem Placement.reads [Scalar.Regular K] : Reads (K := K) Placement.decode Placement.toJson := by
  refine .of_record (fun _ => by simp) fun {ms p} ord h => ?_
  simp only [↓bind_eq_some_iff, Option.pure_def, Option.some.injEq] at h
  obtain ⟨_, uid, _, type, _, px, _, py, _, width, _, height, _, layer, _, blockMask, _, vx, _,
    vy, _, parent, _, sprite, _, active, _, physics, _, fields, rfl⟩ := h
  exact bind_again (required_again reads_text ord uid rfl) <|
    bind_again (required_again reads_text ord type rfl) <|
    bind_again (member_again reads_scalar zero_again ord px rfl) <|
    bind_again (member_again reads_scalar zero_again ord py rfl) <|
    bind_again (optional_again reads_scalar ord width rfl) <|
    bind_again (optional_again reads_scalar ord height rfl) <|
    bind_again (optional_again (reads_int _ _) ord layer rfl) <|
    bind_again (optional_again (reads_int _ _) ord blockMask rfl) <|
    bind_again (member_again reads_scalar zero_again ord vx rfl) <|
    bind_again (member_again reads_scalar zero_again ord vy rfl) <|
    bind_again (optional_again reads_text ord parent rfl) <|
    bind_again (optional_again reads_text ord sprite rfl) <|
    bind_again (member_again reads_bool rfl ord active rfl) <|
    bind_again (optional_again PhysicsFlags.reads ord physics rfl) <|
    bind_again (member_again Fields.reads rfl ord fields rfl) rfl

theorem Global.reads [Scalar.Regular K] : Reads (K := K) Global.decode Global.toJson := by
  refine .of_record (fun _ => by simp) fun {ms g} ord h => ?_
  simp only [↓bind_eq_some_iff, Option.pure_def, Option.some.injEq] at h
  obtain ⟨_, name, _, value, rfl⟩ := h
  exact bind_again (required_again reads_text ord name rfl) <|
    bind_again (required_again FieldValue.reads ord value rfl) rfl

theorem Camera.reads [Scalar.Regular K] : Reads (K := K) Camera.decode Camera.toJson := by
  refine .of_record (fun _ => by simp) fun {ms c} ord h => ?_
  simp only [↓bind_eq_some_iff, Option.pure_def, Option.some.injEq] at h
  obtain ⟨_, id, _, follow, _, px, _, py, _, width, _, height, rfl⟩ := h
  exact bind_again (required_again reads_text ord id rfl) <|
    bind_again (optional_again reads_text ord follow rfl) <|
    bind_again (optional_again reads_scalar ord px rfl) <|
    bind_again (optional_again reads_scalar ord py rfl) <|
    bind_again (optional_again reads_scalar ord width rfl) <|
    bind_again (optional_again reads_scalar ord height rfl) rfl

theorem Role.reads [Scalar.Regular K] : Reads (K := K) Role.decode Role.toJson := by
  refine .of_record (fun _ => by simp) fun {ms r} ord h => ?_
  simp only [↓bind_eq_some_iff, Option.pure_def, Option.some.injEq] at h
  obtain ⟨_, id, _, kind, _, required, _, camera, _, ui, _, serverFields, _, localFields, rfl⟩ := h
  exact bind_again (required_again reads_text ord id rfl) <|
    bind_again (required_again (reads_named false RoleKind.ofName?_name) ord kind rfl) <|
    bind_again (member_again reads_bool rfl ord required rfl) <|
    bind_again (optional_again reads_text ord camera rfl) <|
    bind_again (optional_again reads_json ord ui rfl) <|
    bind_again (member_again Fields.reads rfl ord serverFields rfl) <|
    bind_again (member_again Fields.reads rfl ord localFields rfl) rfl

theorem Multiplayer.reads [Scalar.Regular K] :
    Reads (K := K) Multiplayer.decode Multiplayer.toJson := by
  refine .of_record (fun _ => by simp) fun {ms m} ord h => ?_
  simp only [↓bind_eq_some_iff, Option.pure_def, Option.some.injEq] at h
  obtain ⟨_, defaultLoop, _, tickRate, _, turnTimeoutMs, _, hybridWindowMs, _, timeScale, _,
    maxCatchupSteps, rfl⟩ := h
  have modes := reads_named (K := K) false LoopMode.ofName?_name
  exact bind_again (member_again modes rfl ord defaultLoop rfl) <|
    bind_again (member_again (reads_nat _) rfl ord tickRate rfl) <|
    bind_again (optional_again (reads_nat _) ord turnTimeoutMs rfl) <|
    bind_again (optional_again (reads_nat _) ord hybridWindowMs rfl) <|
    bind_again (member_again reads_scalar one_again ord timeScale rfl) <|
    bind_again (member_again (reads_nat _) rfl ord maxCatchupSteps rfl) rfl

theorem Tool.reads : Reads (K := K) Tool.decode Tool.toJson := by
  refine .of_record (fun _ => by simp) fun {ms t} ord h => ?_
  simp only [↓bind_eq_some_iff, Option.pure_def, Option.some.injEq] at h
  obtain ⟨_, name, _, description, _, parameters, _, roles, rfl⟩ := h
  exact bind_again (required_again reads_text ord name rfl) <|
    bind_again (member_again reads_text rfl ord description rfl) <|
    bind_again (member_again reads_json rfl ord parameters rfl) <|
    bind_again (optional_again reads_text.list ord roles rfl) rfl

/-! ### The map -/

theorem TileDef.reads : Reads (K := K) TileDef.decode TileDef.toJson := by
  refine .of_record (fun _ => by simp) fun {ms t} ord h => ?_
  simp only [↓bind_eq_some_iff, Option.pure_def, Option.some.injEq] at h
  obtain ⟨_, blockMask, _, sprite, _, color, _, symbol, rfl⟩ := h
  exact bind_again (optional_again (reads_int _ _) ord blockMask rfl) <|
    bind_again (optional_again reads_text ord sprite rfl) <|
    bind_again (optional_again reads_text ord color rfl) <|
    bind_again (optional_again reads_char ord symbol rfl) rfl

namespace TileDef

/-- The decimal digits of a positive number do not start with zero. -/
theorem head?_toDigits {n : Nat} (pos : 0 < n) : (Nat.toDigits 10 n).head? ≠ some '0' := by
  induction n using Nat.strongRecOn with
  | ind n ih =>
    by_cases small : n < 10
    · have digit : ∀ n < 10, 0 < n → [n.digitChar].head? ≠ some '0' := by decide
      rw [Nat.toDigits_of_lt_base small]
      exact digit n small pos
    · rw [Nat.toDigits_of_base_le (by decide) (Nat.le_of_not_lt small),
        List.head?_append_of_ne_nil _ Nat.toDigits_ne_nil]
      exact ih (n / 10) (by omega) (by omega)

/-- A tile id is read again from its decimal digits. -/
theorem idOfName?_toString {n : Nat} (h : n ≤ Word.greatestHalf) :
    idOfName? (toString n) = some n := by
  have digits : (toString n).toList = Nat.toDigits 10 n := Nat.toList_repr
  have value : (Nat.toDigits 10 n).foldl (fun n c => n * 10 + (c.toNat - 48)) 0 = n := by
    have read := Nat.ofDigitChars_ten_toDigits (n := n)
    simp only [Nat.ofDigitChars_eq_foldl, Nat.mul_comm 10] at read
    exact read
  unfold idOfName?
  rw [digits]
  split
  · rename_i none
    exact absurd none Nat.toDigits_ne_nil
  · rename_i c rest leading
    rcases Nat.eq_zero_or_pos n with rfl | pos
    · cases leading
    · exact absurd (congrArg List.head? leading) (head?_toDigits pos)
  · have all : (Nat.toDigits 10 n).all Char.isDigit = true :=
      List.all_eq_true.2 fun c mem => Nat.isDigit_of_mem_toDigits (by decide) (by decide) mem
    rw [if_pos all]
    dsimp only
    rw [value, if_pos h]

theorem le_of_idOfName? {name : String} {n : Nat} (h : idOfName? name = some n) :
    n ≤ Word.greatestHalf := by
  unfold idOfName? at h
  split at h
  · cases h
  · cases h
  · split at h
    · dsimp only at h
      split at h
      · rename_i le
        cases h
        exact le
      · cases h
    · cases h

theorem reads_all : Reads (K := K) TileDef.decodeAll TileDef.allToJson := by
  refine .of_ne_null (fun _ => nofun) fun {x t} ord h => ?_
  cases ord with
  | obj all =>
    obtain ⟨-, h⟩ := Option.ite_none_right_eq_some.1 h
    refine entries_again (fun e => (toString e.1, e.2.toJson)) (fun m e ord entry => ?_) all h
    obtain ⟨id, named, entry⟩ := Option.bind_eq_some_iff.1 entry
    obtain ⟨d, read, same⟩ := Option.bind_eq_some_iff.1 entry
    cases same
    exact bind_again (idOfName?_toString (le_of_idOfName? named)) <|
      bind_again (TileDef.reads.again ord read) rfl
  | _ => cases h

end TileDef

theorem TileMap.reads [Scalar.Regular K] : Reads (K := K) TileMap.decode TileMap.toJson := by
  refine .of_record (fun _ => by simp) fun {ms m} ord h => ?_
  simp only [↓bind_eq_some_iff, Option.pure_def, Option.some.injEq] at h
  obtain ⟨rows, tiles, _, width, _, height, _, tileSize, _, defs, rfl⟩ := h
  have written : Json.list (fun row : Array Nat => Json.list (K := K) .nat row.toList)
      (rows.map List.toArray).toArray.toList = .list (.list .nat) rows := by
    simp [Json.list, Function.comp_def]
  exact bind_again (required_again (reads_nat _).list.list ord tiles (congrArg some written)) <|
    bind_again (required_again (reads_nat _) ord width rfl) <|
    bind_again (required_again (reads_nat _) ord height rfl) <|
    bind_again (required_again reads_scalar ord tileSize rfl) <|
    bind_again (member_again TileDef.reads_all rfl ord defs rfl) rfl

/-! ### The whole document -/

theorem SymbolicSettings.reads_crop : Reads (K := K) SymbolicSettings.decodeCrop
    (fun c => .obj [("cols", .nat c.cols), ("rows", .nat c.rows)]) := by
  refine .of_record (fun _ => by simp) fun {ms c} ord h => ?_
  simp only [↓bind_eq_some_iff, Option.pure_def, Option.some.injEq] at h
  obtain ⟨_, cols, _, rows, rfl⟩ := h
  exact bind_again (required_again (reads_nat _) ord cols rfl) <|
    bind_again (required_again (reads_nat _) ord rows rfl) rfl

theorem SymbolicSettings.reads :
    Reads (K := K) SymbolicSettings.decode SymbolicSettings.toJson := by
  refine .of_record (fun _ => by simp) fun {ms s} ord h => ?_
  simp only [↓bind_eq_some_iff, Option.pure_def, Option.some.injEq] at h
  obtain ⟨_, crop, _, empty, rfl⟩ := h
  exact bind_again (optional_again SymbolicSettings.reads_crop ord crop rfl) <|
    bind_again (member_again reads_char rfl ord empty rfl) rfl

theorem Scene.reads [Scalar.Regular K] : Reads (K := K) Scene.decode Scene.toJson := by
  refine .of_record (fun _ => by simp) fun {ms s} ord h => ?_
  simp only [↓bind_eq_some_iff, Option.pure_def, Option.some.injEq] at h
  obtain ⟨_, world, _, schemas, _, templates, _, actors, _, globals, _, rules, _, map, _, cameras,
    _, roles, _, multiplayer, _, tools, _, symbolic, rfl⟩ := h
  have empty : (Draft.obj true [] : Draft K).Ordinary := .obj nofun
  exact bind_again (member_again WorldSettings.reads
      (WorldSettings.reads.again empty rfl) ord world rfl) <|
    bind_again (member_again (reads_named false FieldType.ofName?_name).table.table rfl ord schemas
      rfl) <|
    bind_again (member_again Template.reads.table rfl ord templates rfl) <|
    bind_again (member_again Placement.reads.list rfl ord actors rfl) <|
    bind_again (member_again Global.reads.list rfl ord globals rfl) <|
    bind_again (member_again Rule.reads.list rfl ord rules rfl) <|
    bind_again (optional_again TileMap.reads ord map rfl) <|
    bind_again (member_again Camera.reads.list rfl ord cameras rfl) <|
    bind_again (member_again Role.reads.list rfl ord roles rfl) <|
    bind_again (member_again Multiplayer.reads
      (Multiplayer.reads.again empty rfl) ord multiplayer rfl) <|
    bind_again (member_again Tool.reads.list rfl ord tools rfl) <|
    bind_again (member_again SymbolicSettings.reads rfl ord symbolic rfl) rfl

end Playfield
