import Playfield.Json.Decode
import Playfield.Proofs.Json.Draft
import Playfield.Proofs.Scalar

/-!
# Reading what was written

A decoder takes many drafts for one value; an encoder writes one of them.

* `Draft.Ordinary`: the numbers of a draft are words and ordinary scalars, as in every JSON value.
* `Decoder.Reads d f`: whatever `d` made of an ordinary draft it reads again from what `f` writes.
  This holds of every decoder and its encoder (`reads_bool` and so on), of lists, tables and options
  of them (`Reads.list`, `Reads.table`, `Reads.nullable`), and of names (`reads_named`).
* A record is read member by member. `required_again`, `member_again` and `optional_again` read one
  member that was written; `Reads.of_record` and `tagged_again` join them.
-/

namespace Playfield

variable {K : Type} {α β : Type}

/-- Integers are words and reals ordinary numbers. -/
inductive Draft.Ordinary [Scalar K] : Draft K → Prop
  | null : Ordinary .null
  | bool (b : Bool) : Ordinary (.bool b)
  | int {n : Int} (least : Word.least ≤ n) (greatest : n ≤ Word.greatestUnsigned) :
    Ordinary (.int n)
  | real {x : K} (finite : Scalar.isFinite x = true) : Ordinary (.real x)
  | str (s : String) : Ordinary (.str s)
  | arr {items : List (Draft K)} (all : ∀ x ∈ items, Ordinary x) : Ordinary (.arr items)
  | obj {verbatim : Bool} {members : List (String × Draft K)} (all : ∀ m ∈ members, Ordinary m.2) :
    Ordinary (.obj verbatim members)
  | void : Ordinary .void

namespace Draft

variable [Scalar K]

attribute [simp] Ordinary.null Ordinary.bool Ordinary.str Ordinary.void

@[simp] theorem ordinary_int_iff {n : Int} :
    (int n : Draft K).Ordinary ↔ Word.least ≤ n ∧ n ≤ Word.greatestUnsigned :=
  ⟨fun | .int least greatest => ⟨least, greatest⟩, fun h => .int h.1 h.2⟩

@[simp] theorem ordinary_real_iff {x : K} : (real x).Ordinary ↔ Scalar.isFinite x = true :=
  ⟨fun | .real finite => finite, .real⟩

@[simp] theorem ordinary_arr_iff {items : List (Draft K)} :
    (arr items).Ordinary ↔ ∀ x ∈ items, x.Ordinary :=
  ⟨fun | .arr all => all, .arr⟩

@[simp] theorem ordinary_obj_iff {verbatim : Bool} {members : List (String × Draft K)} :
    (obj verbatim members).Ordinary ↔ ∀ m ∈ members, m.2.Ordinary :=
  ⟨fun | .obj all => all, .obj⟩

end Draft

/-- All members are ordinary. -/
def Members.Ordinary [Scalar K] (ms : Members K) : Prop := ∀ m ∈ ms.entries, m.2.Ordinary

/-- The members that are written. -/
def Members.ofJson (l : List (String × Json K)) : Members K := ⟨Json.membersToDraft l⟩

/-! ### Lists of partial results -/

theorem exists_of_mem_mapM {f : α → Option β} {l : List α} {l' : List β} (h : l.mapM f = some l')
    {b : β} (mem : b ∈ l') : ∃ a ∈ l, f a = some b := by
  induction l generalizing l' with
  | nil =>
    cases h
    exact absurd mem List.not_mem_nil
  | cons a rest ih =>
    rw [List.mapM_cons] at h
    obtain ⟨b', head, h⟩ := Option.bind_eq_some_iff.1 h
    obtain ⟨bs, tail, same⟩ := Option.bind_eq_some_iff.1 h
    cases same
    rcases List.mem_cons.1 mem with rfl | later
    · exact ⟨a, List.mem_cons_self, head⟩
    · obtain ⟨a', mem', found⟩ := ih tail later
      exact ⟨a', List.mem_cons_of_mem _ mem', found⟩

theorem mapM_map_eq_some {f : α → Option β} {g : β → α} {l : List β}
    (h : ∀ b ∈ l, f (g b) = some b) : (l.map g).mapM f = some l := by
  induction l with
  | nil => rfl
  | cons b rest ih =>
    obtain ⟨head, tail⟩ := List.forall_mem_cons.1 h
    rw [List.map_cons, List.mapM_cons, head, ih tail]
    rfl

/-- One step of reading, and the rest. As a simp lemma it is to be used from the outside in, for the
steps of a long record are nested. -/
theorem bind_eq_some_iff {x : Option α} {g : α → Option β} {b : β} :
    (x >>= g) = some b ↔ ∃ a, x = some a ∧ g a = some b :=
  Option.bind_eq_some_iff

theorem bind_again {x : Option α} {g : α → Option β} {a : α} {b : β} (first : x = some a)
    (rest : g a = some b) : (x >>= g) = some b :=
  bind_eq_some_iff.2 ⟨a, first, rest⟩

namespace Decoder

variable [Scalar K] {d : Decoder K α} {f : α → Json K}

/-- What the decoder made of an ordinary draft, it reads again from what the encoder writes, and
null is written only for null. -/
structure Reads (d : Decoder K α) (f : α → Json K) : Prop where
  again : ∀ {x a}, x.Ordinary → d x = some a → d (f a).toDraft = some a
  null : ∀ {x a}, x.Ordinary → d x = some a → f a = .null → x = .null

/-- An encoder that never writes null. -/
theorem Reads.of_ne_null (written : ∀ a, f a ≠ .null)
    (again : ∀ {x a}, x.Ordinary → d x = some a → d (f a).toDraft = some a) : Reads d f :=
  ⟨again, fun _ _ null => absurd null (written _)⟩

theorem reads_bool : Reads (K := K) bool Json.bool :=
  .of_ne_null (fun _ => nofun) fun _ _ => rfl

theorem reads_text : Reads (K := K) text Json.str :=
  .of_ne_null (fun _ => nofun) fun _ _ => rfl

theorem reads_char : Reads (K := K) char (.str ·.toString) := by
  refine .of_ne_null (fun _ => nofun) fun {x c} _ _ => ?_
  simp [char, Json.toDraft]

omit [Scalar K] in
theorem int_eq_some_iff {least greatest n : Int} {x : Draft K} :
    int least greatest x = some n ↔ x = .int n ∧ least ≤ n ∧ n ≤ greatest := by
  unfold int
  split
  · split
    · rename_i within
      simp only [Option.some.injEq, Draft.int.injEq]
      exact ⟨by rintro rfl; exact ⟨rfl, within⟩, And.left⟩
    · rename_i outside
      exact ⟨nofun, by rintro ⟨⟨⟩, within⟩; exact absurd within outside⟩
  · rename_i other
    exact ⟨nofun, fun h => absurd h.1 (other n)⟩

theorem reads_int (least greatest : Int) : Reads (K := K) (int least greatest) Json.int :=
  .of_ne_null (fun _ => nofun) fun _ h => int_eq_some_iff.2 ⟨rfl, (int_eq_some_iff.1 h).2⟩

theorem reads_nat (greatest : Nat) : Reads (K := K) (nat greatest) Json.nat := by
  refine .of_ne_null (fun _ => nofun) fun ord h => ?_
  obtain ⟨i, read, rfl⟩ := Option.map_eq_some_iff.1 h
  obtain ⟨-, least, -⟩ := int_eq_some_iff.1 read
  have again := (reads_int 0 greatest).again ord read
  rw [nat, Json.nat, Int.toNat_of_nonneg least, again]
  rfl

theorem reads_json : Reads (K := K) json (fun j => j) where
  again _ h := Draft.toJson?_again h
  null {x j} _ h null := by
    subst null
    cases x with
    | arr items =>
      obtain ⟨js, -, same⟩ := Option.map_eq_some_iff.1 h
      cases same
    | obj verbatim members =>
      obtain ⟨ms, -, same⟩ := Option.map_eq_some_iff.1 h
      cases same
    | null => rfl
    | _ => cases h

theorem reads_named (buffered : Bool) {ofName? : String → Option α} {name : α → String}
    (same : ∀ a, ofName? (name a) = some a) :
    Reads (K := K) (named buffered ofName?) (.str <| name ·) :=
  .of_ne_null (fun _ => nofun) fun {_ a} _ _ => same a

/-- A scalar that is an ordinary number is written as such. -/
theorem scalar_of_isFinite {x : K} (finite : Scalar.isFinite x = true) :
    scalar (Json.scalar x).toDraft = some x := by
  rw [Json.scalar, if_pos finite]
  rfl

theorem isFinite_of_scalar [Scalar.Regular K] {x : Draft K} {a : K} (ord : x.Ordinary)
    (h : scalar x = some a) : Scalar.isFinite a = true := by
  cases ord with
  | int least greatest =>
    cases h
    exact Scalar.Regular.word _ least greatest
  | real finite =>
    cases h
    exact finite
  | _ => cases h

theorem zero_again [Scalar.Regular K] : scalar (Json.scalar (0.0 : K)).toDraft = some 0.0 :=
  scalar_of_isFinite Scalar.Regular.zero

theorem one_again [Scalar.Regular K] : scalar (Json.scalar (1.0 : K)).toDraft = some 1.0 :=
  scalar_of_isFinite Scalar.Regular.one

theorem edge_again [Scalar.Regular K] : scalar (Json.scalar (32.0 : K)).toDraft = some 32.0 :=
  scalar_of_isFinite Scalar.Regular.edge

theorem reads_scalar [Scalar.Regular K] : Reads (K := K) scalar Json.scalar where
  again ord h := scalar_of_isFinite (isFinite_of_scalar ord h)
  null ord h null := by
    rw [Json.scalar, if_pos (isFinite_of_scalar ord h)] at null
    cases null

theorem Reads.nullable (reads : Reads d f) : Reads (nullable d) (Json.option f) where
  again {x a} ord h := by
    by_cases null : x = .null
    · subst null
      cases h
      rfl
    · have given : (d x).map some = some a := by
        unfold Decoder.nullable at h
        split at h
        · exact absurd rfl null
        · exact h
      obtain ⟨b, read, rfl⟩ := Option.map_eq_some_iff.1 given
      -- Had null been written for a value, it would be read as nothing.
      have written : (f b).toDraft ≠ .null := fun none =>
        null (reads.null ord read (Json.toDraft_eq_null_iff.1 none))
      show Decoder.nullable d (f b).toDraft = _
      unfold Decoder.nullable
      split
      · rename_i none
        exact absurd none written
      · rw [reads.again ord read]
        rfl
  null {x a} ord h null := by
    unfold Decoder.nullable at h
    split at h
    · rfl
    · obtain ⟨b, read, rfl⟩ := Option.map_eq_some_iff.1 h
      exact reads.null ord read null

theorem Reads.list (reads : Reads d f) : Reads (list d) (Json.list f) := by
  refine .of_ne_null (fun _ => nofun) fun {x as} ord h => ?_
  cases ord with
  | arr all =>
    show (Json.itemsToDraft (as.map f)).mapM d = some as
    rw [Json.itemsToDraft_eq_map, List.map_map]
    refine mapM_map_eq_some fun a mem => ?_
    obtain ⟨x, mem', read⟩ := exists_of_mem_mapM h mem
    exact reads.again (all x mem') read
  | _ => cases h

/-- The entries of a table, each written as a member, are read again. -/
theorem entries_again {κ : Type} [LE κ] [LT κ] [Std.IsLinearOrder κ] [Std.LawfulOrderLT κ]
    [DecidableLT κ] {read : String × Draft K → Option (κ × α)} (write : κ × α → String × Json K)
    (again : ∀ m e, m.2.Ordinary → read m = some e →
      read ((write e).1, (write e).2.toDraft) = some e)
    {members : List (String × Draft K)} (ord : ∀ m ∈ members, m.2.Ordinary) {t : Table κ α}
    (h : (members.mapM read).map Table.ofList = some t) :
    ((Json.membersToDraft (t.entries.map write)).mapM read).map Table.ofList = some t := by
  obtain ⟨es, found, rfl⟩ := Option.map_eq_some_iff.1 h
  rw [Json.membersToDraft_eq_map, List.map_map, mapM_map_eq_some, Option.map_some,
    Table.ofList_entries]
  intro e mem
  obtain ⟨m, mem', read⟩ := exists_of_mem_mapM found (Table.mem_of_mem_ofList mem)
  exact again m e (ord m mem') read

theorem Reads.table (reads : Reads d f) : Reads (table d) (Json.table f) := by
  refine .of_ne_null (fun _ => nofun) fun {x t} ord h => ?_
  cases ord with
  | obj all =>
    refine entries_again (fun e => (e.1, f e.2)) (fun m e ord entry => ?_) all h
    obtain ⟨a, read, rfl⟩ := Option.map_eq_some_iff.1 entry
    rw [reads.again ord read]
    rfl
  | _ => cases h

end Decoder

/-! ### Members -/

namespace Members

variable [Scalar K] {d : Decoder K α} {f : α → Json K} {ms : Members K}
  {l : List (String × Json K)} {name : String} {j : Json K} {a absent : α}

omit [Scalar K] in
theorem lookup_ofJson (found : l.lookup name = some j) :
    (ofJson l).entries.lookup name = some j.toDraft := by
  induction l with
  | nil => cases found
  | cons m rest ih =>
    obtain ⟨other, j'⟩ := m
    show List.lookup name ((other, j'.toDraft) :: Json.membersToDraft rest) = _
    rw [List.lookup_cons] at found ⊢
    split at found
    · cases found
      rfl
    · exact ih found

theorem ordinary_of_lookup (ord : ms.Ordinary) {x : Draft K}
    (found : ms.entries.lookup name = some x) : x.Ordinary := by
  obtain ⟨before, after, same⟩ := List.lookup_eq_some_iff.1 found
  exact ord (name, x) (same.1 ▸ by simp)

theorem required_again (reads : d.Reads f) (ord : ms.Ordinary) (h : ms.required name d = some a)
    (found : l.lookup name = some (f a)) : (ofJson l).required name d = some a := by
  obtain ⟨x, here, read⟩ := Option.bind_eq_some_iff.1 h
  rw [required, lookup_ofJson found]
  exact reads.again (ordinary_of_lookup ord here) read

theorem member_again (reads : d.Reads f) (default : d (f absent).toDraft = some absent)
    (ord : ms.Ordinary) (h : ms.member name d absent = some a)
    (found : l.lookup name = some (f a)) : (ofJson l).member name d absent = some a := by
  rw [member, lookup_ofJson found]
  unfold member at h
  split at h
  · rename_i x here
    exact reads.again (ordinary_of_lookup ord here) h
  · cases h
    exact default

theorem optional_again (reads : d.Reads f) (ord : ms.Ordinary) {a : Option α}
    (h : ms.optional name d = some a) (found : l.lookup name = some (Json.option f a)) :
    (ofJson l).optional name d = some a :=
  member_again reads.nullable rfl ord h found

end Members

/-! ### Records -/

namespace Decoder

variable {known : List String} {l : List (String × Json K)} {ms : Members K} {a : α}

theorem ordinary_of_record [Scalar K] {x : Draft K} (ord : x.Ordinary)
    (h : record known x = some ms) : ms.Ordinary := by
  cases ord with
  | obj all =>
    obtain ⟨-, same⟩ := Option.ite_none_right_eq_some.1 h
    cases same
    exact all
  | arr all =>
    obtain ⟨-, same⟩ := Option.ite_none_right_eq_some.1 h
    cases same
    exact fun m mem => all m.2 (List.of_mem_zip mem).2
  | _ => cases h

/-- A record that was written without repetition is read as it was written. -/
theorem record_toDraft (distinct : (l.map Prod.fst).Nodup) :
    record known (Json.obj l).toDraft = some (.ofJson l) := by
  have once : ∀ name, (Json.membersToDraft l).countP (·.1 == name) ≤ 1 := by
    intro name
    rw [Json.membersToDraft_eq_map, List.countP_map]
    have counted := List.nodup_iff_count_le_one.1 distinct name
    rwa [List.count, List.countP_map] at counted
  have all : (known.all fun name => (Json.membersToDraft l).countP (·.1 == name) ≤ 1) = true :=
    List.all_eq_true.2 fun name _ => decide_eq_true (once name)
  exact if_pos all

variable [Scalar K]

/-- A record is read again if its members are. -/
theorem record_again {read : Members K → Option α} {x : Draft K} (ord : x.Ordinary)
    (h : (record known x >>= read) = some a) (distinct : (l.map Prod.fst).Nodup)
    (again : ∀ {ms : Members K}, ms.Ordinary → read ms = some a → read (.ofJson l) = some a) :
    (record known (Json.obj l).toDraft >>= read) = some a := by
  obtain ⟨ms, members, h⟩ := Option.bind_eq_some_iff.1 h
  rw [record_toDraft distinct]
  exact again (ordinary_of_record ord members) h

/-- A decoder of records. -/
theorem Reads.of_record {read : Members K → Option α} {write : α → List (String × Json K)}
    (distinct : ∀ a, ((write a).map Prod.fst).Nodup)
    (again : ∀ {ms : Members K} {a}, ms.Ordinary → read ms = some a →
      read (.ofJson (write a)) = some a) :
    Reads (fun x => record known x >>= read) (fun a => .obj (write a)) :=
  .of_ne_null (fun _ => nofun) fun {_ a} ord h => record_again ord h (distinct a) again

/-- One of the variants made it: of the whole draft, or of the items after its tag. -/
theorem variant_of_tagged {variant : String → Decoder K α} {x : Draft K} (ord : x.Ordinary)
    (h : tagged variant x = some a) : ∃ tag y, y.Ordinary ∧ variant tag y = some a := by
  replace h := (Option.ite_none_right_eq_some.1 h).2
  split at h
  · rename_i first rest
    obtain ⟨tag, -, h⟩ := bind_eq_some_iff.1 h
    have all := Draft.ordinary_arr_iff.1 ord
    exact ⟨tag, .arr rest, .arr fun y mem => all y (List.mem_cons_of_mem first mem), h⟩
  · cases h
  · obtain ⟨ms, -, h⟩ := bind_eq_some_iff.1 h
    obtain ⟨tag, -, h⟩ := bind_eq_some_iff.1 h
    exact ⟨tag, _, ord, h⟩

omit [Scalar K] in
/-- A tagged record is read again if the members of its variant are. -/
theorem tagged_again {variant : String → Decoder K α} {tag : String}
    {read : Members K → Option α} (here : variant tag = fun x => record known x >>= read)
    (distinct : ((("type", .str tag) :: l).map Prod.fst).Nodup)
    (again : read (.ofJson (("type", .str tag) :: l)) = some a) :
    tagged variant (Json.obj (("type", .str tag) :: l)).toDraft = some a := by
  unfold tagged
  rw [if_pos (Json.isSound_toDraft _), record_toDraft distinct]
  show variant tag _ = _
  rw [here]
  dsimp only
  rw [record_toDraft distinct]
  exact again

end Decoder

end Playfield
