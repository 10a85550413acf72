import Playfield.Proofs.Scene.Codec
import Playfield.Scene.Validation
import Playfield.Session.Command

/-!
# Documents have a stable normal form

What is written for a scene or a command is its normal form: reading it gives the scene or the
command back.

* `Command.reads`: the variants of commands, each by its tag.
* `documents_are_stable` states this of whole documents, whatever they left out, named twice in
  ignored members or wrote in another of the ways that a decoder admits.
-/

namespace Playfield

variable {K : Type} [Scalar K]

open Decoder Members

theorem NameSet.ofNames_keys (s : NameSet) : ofNames s.keys = s := by
  have same : s.keys.map (·, ()) = s.entries := by
    rw [Table.keys, List.map_map]
    exact List.map_id _
  rw [ofNames, same, Table.ofList_entries]

theorem PhaseSet.reads_set : Reads (K := K) decodeSet (.strings ·.keys) := by
  refine .of_ne_null (fun _ => nofun) fun {x s} _ _ => ?_
  have names : (Json.itemsToDraft (s.keys.map Json.str)).mapM (text (K := K)) = some s.keys := by
    rw [Json.itemsToDraft_eq_map, List.map_map]
    exact mapM_map_eq_some fun _ _ => rfl
  show ((Json.itemsToDraft (s.keys.map Json.str)).mapM text).map NameSet.ofNames = some s
  rw [names, Option.map_some, NameSet.ofNames_keys]

theorem PhaseSet.reads : Reads (K := K) PhaseSet.decode PhaseSet.toJson := by
  refine .of_record (fun _ => by simp) fun {ms s} ord h => ?_
  simp only [↓bind_eq_some_iff, Option.pure_def, Option.some.injEq] at h
  obtain ⟨_, begin, _, on, _, finish, rfl⟩ := h
  exact bind_again (member_again PhaseSet.reads_set rfl ord begin rfl) <|
    bind_again (member_again PhaseSet.reads_set rfl ord on rfl) <|
    bind_again (member_again PhaseSet.reads_set rfl ord finish rfl) rfl

theorem Command.reads : Reads (K := K) Command.decode Command.toJson := by
  refine .of_ne_null (fun c => by cases c <;> nofun) fun {x c} ord h => ?_
  obtain ⟨tag, y, ord, h⟩ := variant_of_tagged ord h
  unfold decodeVariant at h
  split at h <;>
    simp only [↓bind_eq_some_iff, Option.pure_def, Option.ite_none_left_eq_some,
      Option.some.injEq, reduceCtorEq] at h
  · obtain ⟨ms, members, _, name, _, args, rfl⟩ := h
    have ord := ordinary_of_record ord members
    exact tagged_again rfl (by simp) <| bind_again (required_again reads_text ord name rfl) <|
      bind_again (member_again reads_json rfl ord args rfl) rfl
  · obtain ⟨ms, members, _, keyboard, _, mouse, _, buttons, rfl⟩ := h
    have ord := ordinary_of_record ord members
    exact tagged_again rfl (by simp) <|
      bind_again (member_again PhaseSet.reads rfl ord keyboard rfl) <|
      bind_again (member_again PhaseSet.reads rfl ord mouse rfl) <|
      bind_again (member_again reads_text.list rfl ord buttons rfl) rfl
  · obtain ⟨ms, members, _, name, rfl⟩ := h
    have ord := ordinary_of_record ord members
    exact tagged_again rfl (by simp) <| bind_again (required_again reads_text ord name rfl) rfl
  · obtain ⟨-, rfl⟩ := h
    rfl

/-- Documents have a stable normal form. Whatever scene was read from an ordinary draft, the JSON
value that is written for it is read as the same scene, with the same verdict on its validity; and
so it is with commands. A JSON value is read by way of its own draft. -/
theorem documents_are_stable [Scalar.Regular K] :
    (∀ (x : Draft K) (s : Scene K), x.Ordinary → Scene.decode x = some s →
      ∃ s', Scene.ofJson? s.toJson = some s' ∧ s' = s ∧ s'.validate = s.validate) ∧
      ∀ (x : Draft K) (c : Command K), x.Ordinary → Command.decode x = some c →
        Command.decode c.toJson.toDraft = some c :=
  ⟨fun _ s ord read => ⟨s, Scene.reads.again ord read, rfl, rfl⟩,
    fun _ _ ord read => Command.reads.again ord read⟩

namespace Note

/-- A document that leaves much out, and names a tile by its number. -/
def document : Json Float :=
  .obj [("world", .obj [("gravity", .int 5)]),
    ("globals", .arr [.obj [("name", .str "speed"), ("value", .real 1.5)]]),
    ("rules", .arr [.obj [("action", .str "stop"),
      ("condition", .obj [("key", .str "esc"), ("type", .str "keyboard")])]]),
    ("map", .obj [("width", .int 1), ("height", .int 1), ("tile_size", .int 16),
      ("tiles", .arr [.arr [.int 7]]), ("tile_defs", .obj [("7", .obj [("symbol", .str "#")])])])]

/-- A press of a button. -/
def press : Json Float := .obj [("name", .str "ok"), ("type", .str "button"), ("by", .null)]

theorem ordinary : document.toDraft.Ordinary ∧ press.toDraft.Ordinary := by
  have finite : Scalar.isFinite (1.5 : Float) = true := by decide +kernel
  simp [document, press, Json.toDraft, Json.membersToDraft, Json.itemsToDraft, Word.least,
    Word.greatestUnsigned, finite]

end Note

/-- The document is read, and what is written for its scene is read as the same scene. -/
theorem note_is_read_again :
    (∃ s, Scene.ofJson? Note.document = some s ∧ Scene.ofJson? s.toJson = some s) ∧
      ∃ c, Command.decode Note.press.toDraft = some c ∧
        Command.decode c.toJson.toDraft = some c := by
  obtain ⟨scenes, commands⟩ := documents_are_stable (K := Float)
  constructor
  · have read : (Scene.ofJson? Note.document).isSome = true := by rfl
    obtain ⟨s, read⟩ := Option.isSome_iff_exists.1 read
    obtain ⟨s', again, rfl, -⟩ := scenes _ s Note.ordinary.1 read
    exact ⟨s', read, again⟩
  · have read : (Command.decode Note.press.toDraft).isSome = true := by rfl
    obtain ⟨c, read⟩ := Option.isSome_iff_exists.1 read
    exact ⟨c, read, commands _ c Note.ordinary.2 read⟩

end Playfield
