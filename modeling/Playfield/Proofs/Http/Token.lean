import Playfield.Http.Token
import Playfield.Proofs.Text.Blank

/-!
# Where tokens are taken from

A token is presented in a header, in the query or in the body of a request.

* `Reads`: what a text says where a token is expected; `reads_iff`.
* `Spells`: a header's value names a token under the scheme `bearer`; `ofBearer_eq_ok_iff`.
* `sources`: what a request presents, in the order in which it is looked at. The first of it
  decides, `resolve_eq`.
* `channels_agree_iff_tight`: headers and queries read all texts, a body only those without blanks
  at the ends.
-/

namespace Playfield.Token

open Text (Blank Tight Trims trims_nil trimList_eq_iff)

variable {K : Type}

/-! ### Texts -/

/-- What a text says where a token is expected: nothing if it is blank, and else the text without
the blanks at its ends. -/
inductive Reads (text : List Char) : Except TokenError String → Prop
  | empty (blank : Blank text) : Reads text (.error .empty)
  | token {token : String} (trims : Trims text token.toList) (some : token ≠ "") :
    Reads text (.ok token)

theorem reads_ofText (text : List Char) : Reads text (ofText text) := by
  unfold ofText
  split
  · rename_i left
    exact .empty (trims_nil.1 (trimList_eq_iff.1 left))
  · rename_i some
    refine .token ?_ ?_
    · rw [String.toList_ofList]
      exact trimList_eq_iff.1 rfl
    · rw [ne_eq, ← String.toList_inj, String.toList_ofList]
      exact some

/-- A text says one thing. -/
theorem reads_iff {text : List Char} {said : Except TokenError String} :
    Reads text said ↔ ofText text = said := by
  constructor
  · intro reads
    unfold ofText
    cases reads with
    | empty blank => rw [trimList_eq_iff.2 (trims_nil.2 blank)]
    | @token token trims some =>
      rw [trimList_eq_iff.2 trims]
      split
      · rename_i none
        exact absurd (String.toList_inj.1 none) some
      · rw [String.ofList_toList]
  · rintro rfl
    exact reads_ofText text

theorem ofText_eq_ok_iff {text : List Char} {token : String} :
    ofText text = .ok token ↔ Trims text token.toList ∧ token ≠ "" := by
  rw [← reads_iff]
  constructor
  · rintro (_ | ⟨trims, some⟩)
    exact ⟨trims, some⟩
  · rintro ⟨trims, some⟩
    exact .token trims some

/-- A text that is its own token has no blank at either end. -/
theorem reads_self_iff {text : String} :
    Reads text.toList (if text = "" then .error .empty else .ok text) ↔ Tight text.toList := by
  split
  · rename_i empty
    subst empty
    exact ⟨fun _ => ⟨nofun, nofun⟩, fun _ => .empty nofun⟩
  · rename_i some
    constructor
    · rintro (_ | ⟨trims, -⟩)
      exact trims.1
    · intro tight
      exact .token ⟨tight, [], [], nofun, nofun, by rw [List.nil_append, List.append_nil]⟩ some

/-! ### Headers -/

theorem toList_toLower (s : String) : s.toLower.toList = s.toList.map Char.toLower :=
  String.toList_map

theorem toLower_eq_iff {a b : String} : a.toLower = b ↔ a.toList.map Char.toLower = b.toList := by
  rw [← String.toList_inj, toList_toLower]

theorem get?_cons (name value other : String) (h : Headers) :
    Headers.get? ((name, value) :: h) other =
      if name.toList.map Char.toLower = other.toList.map Char.toLower then some value
      else h.get? other := by
  have alike : (name.toLower == other.toLower) = true ↔
      name.toList.map Char.toLower = other.toList.map Char.toLower := by
    rw [beq_iff_eq, toLower_eq_iff, toList_toLower]
  unfold Headers.get?
  rw [List.find?_cons]
  split
  · rename_i same
    rw [if_pos (alike.1 same)]
    rfl
  · rename_i other
    rw [if_neg fun same => absurd (alike.2 same) (Bool.eq_false_iff.1 other)]

/-- A header's value is the scheme `bearer`, in any case, a space, and a token with blanks around
it. -/
def Spells (value token : String) : Prop :=
  ∃ scheme before after, (String.ofList scheme).toLower = "bearer" ∧ Blank before ∧ Blank after ∧
    value.toList = scheme ++ ' ' :: (before ++ token.toList ++ after)

section Bearer

variable {value : String} {scheme rest : List Char}

/-- There is no space in the scheme. -/
theorem ne_space_of_bearer (named : (String.ofList scheme).toLower = "bearer") {c : Char}
    (mem : c ∈ scheme) : c ≠ ' ' := by
  rintro rfl
  have lower : ' ' ∈ "bearer".toList := by
    rw [← toLower_eq_iff.1 named, String.toList_ofList]
    exact List.mem_map_of_mem mem
  revert lower
  decide

theorem ofBearer_of_scheme (named : (String.ofList scheme).toLower = "bearer")
    (written : value.toList = scheme ++ ' ' :: rest) : ofBearer value = ofText rest := by
  have inside : ∀ c ∈ scheme, decide (c ≠ ' ') = true := fun c mem =>
    decide_eq_true (ne_space_of_bearer named mem)
  have head : value.toList.takeWhile (· ≠ ' ') = scheme := by
    rw [written, List.takeWhile_append_of_pos inside]
    exact List.append_nil scheme
  have tail : value.toList.dropWhile (· ≠ ' ') = ' ' :: rest := by
    rw [written, List.dropWhile_append_of_pos inside]
    rfl
  unfold ofBearer
  rw [head, tail]
  exact if_pos named

/-- Where a value says something, it has a scheme. -/
theorem exists_scheme_of_ofBearer {token : String} (h : ofBearer value = .ok token) :
    ∃ scheme rest, (String.ofList scheme).toLower = "bearer" ∧
      value.toList = scheme ++ ' ' :: rest ∧ ofText rest = .ok token := by
  unfold ofBearer at h
  dsimp only at h
  split at h
  · cases h
  · rename_i c rest tail
    split at h
    · rename_i named
      have space : c = ' ' := by
        have := List.head?_dropWhile_not (fun c => decide (c ≠ ' ')) value.toList
        rw [tail] at this
        simpa using this
      refine ⟨_, rest, named, ?_, h⟩
      rw [space] at tail
      rw [← tail, List.takeWhile_append_dropWhile]
    · cases h

theorem ofBearer_eq_ok_iff {token : String} :
    ofBearer value = .ok token ↔ Spells value token ∧ Tight token.toList ∧ token ≠ "" := by
  constructor
  · intro h
    obtain ⟨scheme, rest, named, written, said⟩ := exists_scheme_of_ofBearer h
    obtain ⟨⟨tight, before, after, blank, blank', rfl⟩, some⟩ := ofText_eq_ok_iff.1 said
    exact ⟨⟨scheme, before, after, named, blank, blank', written⟩, tight, some⟩
  · rintro ⟨⟨scheme, before, after, named, blank, blank', written⟩, tight, some⟩
    rw [ofBearer_of_scheme named written]
    exact ofText_eq_ok_iff.2 ⟨⟨tight, before, after, blank, blank', rfl⟩, some⟩

theorem spells_append (token : String) : Spells ("Bearer " ++ token) token := by
  refine ⟨"Bearer".toList, [], [], toLower_eq_iff.2 (by decide), nofun, nofun, ?_⟩
  rw [String.toList_append, List.nil_append, List.append_nil]
  rfl

theorem ofBearer_append (text : String) : ofBearer ("Bearer " ++ text) = ofText text.toList := by
  have named : (String.ofList "Bearer".toList).toLower = "bearer" := toLower_eq_iff.2 (by decide)
  refine ofBearer_of_scheme named ?_
  rw [String.toList_append]
  rfl

end Bearer

/-! ### Requests -/

/-- What a request presents, and where. -/
inductive Source (K : Type) where
  | header (value : String)
  | query (text : String)
  | body (member : Json K)

/-- What a source says. -/
def Source.said : Source K → Except TokenError String
  | .header value => if Headers.isPlain value then ofBearer value else .error .invalidFormat
  | .query text => ofText text.toList
  | .body (.str text) => if text = "" then .error .empty else .ok text
  | .body _ => .error .invalidFormat

/-- What a request presents, in the order in which it is looked at. -/
def sources (h : Headers) (query : Option String) (body : Option (Json K)) : List (Source K) :=
  ((h.get? "authorization").map .header).toList ++ (query.map .query).toList ++
    ((body.bind (·.member? "token")).map .body).toList

theorem ofText_ne_missing (text : List Char) : ofText text ≠ .error .missing := by
  rw [ne_eq, ← reads_iff]
  nofun

theorem ofBearer_ne_missing (value : String) : ofBearer value ≠ .error .missing := by
  unfold ofBearer
  dsimp only
  split
  · nofun
  · split
    · exact ofText_ne_missing _
    · nofun

/-- What is presented is not missing, whatever it says. -/
theorem said_ne_missing (s : Source K) : s.said ≠ .error .missing := by
  cases s with
  | header value =>
    rw [Source.said]
    split
    · exact ofBearer_ne_missing value
    · nofun
  | query text => exact ofText_ne_missing text.toList
  | body member =>
    cases member with
    | str text =>
      rw [Source.said]
      split <;> nofun
    | _ => nofun

theorem ofHeaders_eq (h : Headers) :
    ofHeaders h = match h.get? "authorization" with
      | none => .error .missing
      | some value => (Source.header (K := K) value).said := rfl

theorem ofBody_eq (body : Json K) :
    ofBody body = match body.member? "token" with
      | none => .error .missing
      | some member => (Source.body member).said := by
  unfold ofBody
  cases body.member? "token" with
  | none => rfl
  | some member =>
    cases member with
    | str text =>
      by_cases empty : text = ""
      · subst empty
        rfl
      · simp [Source.said, empty]
    | _ => rfl

/-- What the first of some sources says. -/
def Source.firstSaid : List (Source K) → Except TokenError String
  | [] => .error .missing
  | s :: _ => s.said

theorem resolve_of_ne_missing {h : Headers} (query : Option String) (body : Option (Json K))
    (present : ofHeaders h ≠ .error .missing) : resolve h query body = ofHeaders h := by
  unfold resolve
  split
  · contradiction
  · rfl

/-- The first source decides. -/
theorem resolve_eq (h : Headers) (query : Option String) (body : Option (Json K)) :
    resolve h query body = Source.firstSaid (sources h query body) := by
  cases found : h.get? "authorization" with
  | some value =>
    have said : ofHeaders h = (Source.header (K := K) value).said := by
      rw [ofHeaders_eq (K := K), found]
    rw [resolve_of_ne_missing query body (said ▸ said_ne_missing _), said, sources, found]
    rfl
  | none =>
    have missing : ofHeaders h = .error .missing := by
      rw [ofHeaders_eq (K := K), found]
    unfold resolve sources
    rw [missing, found]
    cases query with
    | some text => rfl
    | none =>
      cases body with
      | none => rfl
      | some body =>
        show ofBody body = _
        rw [ofBody_eq]
        show _ = Source.firstSaid ((body.member? "token").map Source.body).toList
        cases body.member? "token" <;> rfl

/-- The first source that a request has decides. All texts of visible characters and spaces are read
in headers and in queries; in a body, those without blanks at the ends, and no others. -/
theorem channels_agree_iff_tight (text : String) (plain : ∀ c ∈ text.toList, ' ' ≤ c ∧ c ≤ '~') :
    (∀ (h : Headers) (query : Option String) (body : Option (Json K)),
      resolve h query body = Source.firstSaid (sources h query body)) ∧
      Reads text.toList (Source.header (K := K) ("Bearer " ++ text)).said ∧
      Reads text.toList (Source.query (K := K) text).said ∧
      (Reads text.toList (Source.body (K := K) (.str text)).said ↔ Tight text.toList) := by
  have visible : Headers.isPlain ("Bearer " ++ text) = true := by
    rw [Headers.isPlain, String.toList_append, List.all_append, Bool.and_eq_true]
    refine ⟨by decide, List.all_eq_true.2 fun c mem => ?_⟩
    simp [plain c mem]
  refine ⟨resolve_eq, ?_, reads_ofText text.toList, reads_self_iff⟩
  rw [Source.said, if_pos visible, ofBearer_append]
  exact reads_ofText text.toList

/-- Beside another key in the query, a key with spaces around it is taken from a header. -/
theorem padded_key_is_read :
    (∀ c ∈ " key ".toList, ' ' ≤ c ∧ c ≤ '~') ∧
      resolve [("Authorization", "Bearer  key ")] (some "other") (none : Option (Json Float)) =
        .ok "key" ∧
      Reads " key ".toList (.ok "key") := by
  have plain : ∀ c ∈ " key ".toList, ' ' ≤ c ∧ c ≤ '~' := by simp
  obtain ⟨first, header, -, -⟩ := channels_agree_iff_tight (K := Float) " key " plain
  have found : Headers.get? [("Authorization", "Bearer  key ")] "authorization" =
      some ("Bearer " ++ " key ") := by
    rw [get?_cons, if_pos (by decide)]
    rfl
  have said : (Source.header (K := Float) ("Bearer " ++ " key ")).said = .ok "key" := by
    rw [Source.said, if_pos (by decide), ofBearer_append]
    rfl
  refine ⟨plain, ?_, said ▸ header⟩
  rw [first, sources, found]
  exact said

/-- In a body the spaces are left in place. -/
theorem padded_key_is_kept :
    ¬ Reads " key ".toList
      (resolve [] none (some (.obj [("token", .str " key ")] : Json Float))) := by
  have kept : resolve [] none (some (.obj [("token", .str " key ")] : Json Float)) =
      .ok " key " := by
    rfl
  rw [kept, reads_iff, ofText_eq_ok_iff]
  rintro ⟨⟨⟨begins, -⟩, -⟩, -⟩
  exact absurd (begins ' ' rfl) (by decide)

end Playfield.Token
